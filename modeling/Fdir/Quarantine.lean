import Fdir.Service
import Fdir.Sequential

/-!
# Quarantine

An entity that is FAILED stays FAILED, whatever the threads do, until a handled
report restarts it or the application resets or sets its health.  The worker gate
takes two critical sections; it lets a worker run only if its entity may run in
the second.
-/

namespace Fdir

open Foundation

variable {B : Build}

/-! ## Sections and the health of one entity -/

/-- A call that writes the health of entity `id`. -/
def Call.rewrites (id : EntityId) : Call → Prop
  | .healthReset entity | .healthSet entity _ _ _ => entity = id
  | _ => False

/-- A registered entity that is FAILED. -/
structure Lib.Quarantined (l : Lib B) (id : EntityId) : Prop where
  known : id < l.entityCount
  failed : l.failed id

theorem failed_healthSet_of_ne (l : Lib B) {id other : EntityId} (h : other ≠ id)
    (health : Health) (errorCode : UInt16) (detail : CStr) :
    Lib.failed { l with health := l.health.setUnsafe id health errorCode detail } other ↔
      l.failed other := by
  simp only [Lib.failed, HealthTable.setUnsafe]
  split
  · rfl
  · simp [h]

theorem failed_healthReset_of_ne (l : Lib B) {id other : EntityId} (h : other ≠ id)
    (now : UInt32) :
    Lib.failed { l with health := l.health.resetUnsafe id now } other ↔ l.failed other := by
  simp only [Lib.failed, HealthTable.resetUnsafe]
  split
  · rfl
  · simp [h]

theorem failed_accept {l : Lib B} {id : EntityId} (h : l.failed id) (report : FailureReport)
    (detail : CStr) : (l.accept report detail).failed id := by
  by_cases hid : id = report.entity
  · simp only [Lib.failed, Lib.accept, HealthTable.setUnsafe]
    split
    · exact h
    · simp [hid]
  · exact (failed_accept_of_ne hid).mpr h

theorem Effect.quarantined {c : Call} {l l' : Lib B} {id : EntityId} (hentry : c.entry = none)
    (hc : ¬ c.rewrites id) (h : l.Quarantined id)
    (he : Effect c l l') : l'.Quarantined id := by
  cases he with
  | enroll desc now _ hroom =>
      refine ⟨(Lib.lt_enroll_entityCount hroom id).mpr (Or.inr h.known), ?_⟩
      exact (failed_enroll (UInt8.ne_of_lt h.known) desc now).mpr h.failed
  | handle ans report hcall =>
      rw [hcall] at hentry
      cases hentry
  | watch ans other now maxAge hcall =>
      rcases hcall with rfl | rfl <;> cases hentry
  | dequeue ans report hcall =>
      rw [hcall] at hentry
      cases hentry
  | accept report detail => exact ⟨h.known, failed_accept h.failed report detail⟩
  | heartbeat other now => exact ⟨h.known, (failed_heartbeat l other id now).mpr h.failed⟩
  | healthSet other health errorCode detail hcall =>
      rw [hcall] at hc
      exact ⟨h.known, (failed_healthSet_of_ne l (Ne.symm hc) _ _ _).mpr h.failed⟩
  | healthReset other now hcall =>
      rw [hcall] at hc
      exact ⟨h.known, (failed_healthReset_of_ne l (Ne.symm hc) now).mpr h.failed⟩
  | _ => exact ⟨h.known, h.failed⟩

/-- The handling of a report ends the quarantine of its entity only by a successful
restart. -/
theorem handleFailureLocked_quarantined {s : State B} (hs : s.lib.Sound) {id : EntityId}
    (h : s.lib.Quarantined id) {report : FailureReport}
    (hrestart : report.entity = id →
      (handleFailureLocked s report).restarts ≠ s.restarts ++ [(id, report.reason, 0)]) :
    (handleFailureLocked s report).lib.Quarantined id := by
  have hlib := handleFailureLocked_lib hs.limit_eq report
  rw [hlib]
  refine ⟨by rw [Lib.handle_entityCount]; exact h.known, ?_⟩
  by_cases hid : report.entity = id
  · subst hid
    by_cases hraises : s.lib.raises report
    · rcases handleFailureLocked_settled hs hraises h.known with hrestored | hcondemned
      · exact absurd hrestored.called (hrestart rfl)
      · have hhealth := hcondemned.health
        rwa [hlib] at hhealth
    · have hlatched : s.lib.health.faultIsLatchedUnsafe report.entity report.reason = true := by
        simpa [Lib.raises] using hraises
      rw [Lib.handle, if_pos hlatched]
      exact h.failed
  · exact (Lib.failed_handle_of_ne _ _ _ (Ne.symm hid)).mpr h.failed

/-! ## Turns -/

namespace Machine

/-- A turn that may end the quarantine of entity `id`: a call that rewrites its health,
or the handling of a report for it that calls its restart and gets 0. -/
def Reopens (id : EntityId) (m : Machine B) : Turn → Prop
  | .call _ c => c.rewrites id
  | .advance thread => ∃ report ret, m.pcs thread = .handleLocked report ret ∧
      report.entity = id ∧ (m.step (.advance thread)).state.restarts =
        m.state.restarts ++ [(id, report.reason, 0)]
  | .elapse _ => False

theorem quarantined_step {m : Machine B} (hs : m.state.lib.Sound) {id : EntityId}
    (h : m.state.lib.Quarantined id) {turn : Turn} (hturn : ¬ m.Reopens id turn) :
    (m.step turn).state.lib.Quarantined id := by
  rcases acts hs.limit_eq turn with ⟨thread, c, rfl, hentry, heffect⟩ | ⟨thread, rfl, hdoes⟩ | hsame
  · exact heffect.quarantined hentry hturn h
  · by_cases hpc : ∃ report ret, m.pcs thread = .handleLocked report ret
    · obtain ⟨report, ret, hpc⟩ := hpc
      have hrun := step_of_handling hpc
      rw [hrun]
      refine handleFailureLocked_quarantined hs h fun hid hrestarts ↦ hturn ?_
      exact ⟨report, ret, hpc, hid, hrun ▸ hrestarts⟩
    · generalize m.pcs thread = pc at hpc hdoes
      generalize (m.step (.advance thread)).state.lib = l at hdoes ⊢
      cases hdoes with
      | same | put | get => exact ⟨h.known, h.failed⟩
      | handle ans report ret => exact absurd ⟨report, ret, rfl⟩ hpc
      | beat other now => exact ⟨h.known, (failed_heartbeat _ other id now).mpr h.failed⟩
  · rwa [hsame]

end Machine

/-! ## The worker gate -/

/-- The entity whose gate call ends in this section, and what the call returns. -/
def Pc.gate (s : State B) : Pc → Option (EntityId × Bool)
  | .gateHeartbeat id => some (id, false)
  | .gateRun id => some (id, (entityMayRun s id).1)
  | _ => none

theorem Pc.gate_workerMayRun (s : State B) (id : EntityId) :
    let next := (Pc.gateMode id).advance s
    next.1.gate next.2 = some (id, (workerMayRun s id).1) := by
  simp only [Pc.advance, workerMayRun]
  split <;> rfl

/-- The worker of entity `id` is let through: supervision is disabled, or the entity is
registered and not FAILED and the mode is below SAFE. -/
def Lib.admits (l : Lib B) (id : EntityId) : Prop :=
  l.supervisionEnabled = 0 ∨ id < l.entityCount ∧ ¬ l.failed id ∧ l.mode < .safe

theorem Pc.admits_of_gate {s : State B} (hs : s.lib.Sound) {pc : Pc} {id : EntityId}
    (h : pc.gate s = some (id, true)) : s.lib.admits id := by
  cases pc with
  | gateRun other =>
      rw [gate, Option.some.injEq, Prod.mk.injEq] at h
      obtain ⟨rfl, hrun⟩ := h
      rw [entityMayRun_fst, hs.limit_eq] at hrun
      exact hrun.imp_right fun ⟨hmode, hid, hfailed⟩ ↦ ⟨hid, hfailed, hmode⟩
  | gateHeartbeat other => cases h
  | _ => cases h

/-- After any `fdir_init`, with any calls then in progress, and any turns: an entity
that is FAILED stays FAILED over all further turns that do not reopen it, and every
gate call that lets a worker run does so at an instant at which its entity may run. -/
theorem failed_quarantined (s : State B) (config : Option Config) (lock unlock : Bool)
    (pcs : ℕ → Pc) (turns : List Turn) :
    let m : Machine B :=
      Run.run Machine.step (.initialised s config lock unlock pcs) turns
    (∀ id more, id < m.state.lib.entityCount → m.state.lib.failed id →
      Run.Along Machine.step (fun m turn ↦ ¬ m.Reopens id turn) m more →
        (Run.run Machine.step m more).state.lib.failed id) ∧
    ∀ thread id, (m.pcs thread).gate m.state = some (id, true) → m.state.lib.admits id := by
  intro m
  have hs : m.state.lib.Sound := Machine.run_sound s config lock unlock pcs turns
  refine ⟨fun id more hid hfailed halong ↦ ?_, fun thread id hgate ↦ Pc.admits_of_gate hs hgate⟩
  have hkept : (Run.run Machine.step m more).state.lib.Sound ∧
      (Run.run Machine.step m more).state.lib.Quarantined id := by
    refine halong.invariant
      (fun m : Machine B ↦ m.state.lib.Sound ∧ m.state.lib.Quarantined id) ?_ ⟨hs, hid, hfailed⟩
    rintro m turn ⟨hs, hquarantined⟩ hturn
    exact ⟨(m.stride turn).sound hs, Machine.quarantined_step hs hquarantined hturn⟩
  exact hkept.2.failed

/-- A fault report fails an entity; its heartbeats and the supervisor leave it so. -/
theorem failed_quarantined_heartbeat :
    let m : Machine .default := Run.run Machine.step
      (.initialised (.powerOn 0 fun _ ↦ 1) none true true fun _ ↦ .idle)
      [.call 0 (.entityRegister (some .zero) true), .call 0 (.reportFault 0 .timeout 7 none)]
    (Run.run Machine.step m [.call 0 (.heartbeatNotify 0), .call 1 .supervisorTick,
      .advance 1]).state.lib.failed 0 := by
  intro m
  obtain ⟨hkept, -⟩ := failed_quarantined (.powerOn 0 fun _ ↦ 1 : State .default) none true true
    (fun _ ↦ .idle)
    [.call 0 (.entityRegister (some .zero) true), .call 0 (.reportFault 0 .timeout 7 none)]
  refine hkept 0 _ (by decide) (by decide) ⟨fun h ↦ h, fun h ↦ h, ?_, trivial⟩
  rintro ⟨report, ret, hpc, -⟩
  cases hpc

end Fdir
