import Fdir.Gates
import Fdir.Orphans
import Fdir.Sweep
import Fdir.Watch

/-!
# Entities returned to service

After `fdir_health_reset` an entity runs again, although the fault handled before
may still be latched.  A report of that very fault is then suppressed, and so is
the watchdog while the latched fault is WATCHDOG; every other fault of a running
entity is acted on.
-/

namespace Fdir

open Foundation

variable {B : Build}

/-! ## Fault reports -/

/-- An accepted report fails its entity, unless its reason is latched. -/
theorem reportFaultEx_of_ok {s : State B} (hs : s.lib.Sound) {entity : EntityId}
    (henabled : s.lib.supervisionEnabled ≠ 0) (hid : entity < s.lib.entityCount)
    {reason : Reason} {errorCode : UInt16} {detail : Option CStr} {flags : UInt8}
    (hok : (reportFaultEx s entity reason errorCode detail flags).1 = .ok) :
    (reportFaultEx s entity reason errorCode detail flags).2.lib.failed entity ∨
      (s.lib.health.faultIsLatchedUnsafe entity reason = true ∧
        (reportFaultEx s entity reason errorCode detail flags).2.lib = s.lib) := by
  have hreported := reportFaultImpl_reported s entity reason errorCode detail flags
  change (reportFaultImpl s entity reason errorCode detail flags).1 = .ok at hok
  change (reportFaultImpl s entity reason errorCode detail flags).2.lib.failed entity ∨
    (_ ∧ (reportFaultImpl s entity reason errorCode detail flags).2.lib = s.lib)
  generalize (reportFaultImpl s entity reason errorCode detail flags).1 = status at hok hreported
  generalize (reportFaultImpl s entity reason errorCode detail flags).2.lib = l at hreported ⊢
  cases hreported with
  | suppressed hcause =>
      rcases hcause with hdisabled | hlatch | hfailed
      · exact absurd hdisabled henabled
      · exact Or.inr ⟨hlatch, rfl⟩
      · exact Or.inl ((hs.snapshotFailed_iff hid).mp hfailed)
  | rejected => exact absurd hok (rejectedStatus_ne_ok flags)
  | accepted report detail hentity =>
      subst hentity
      exact Or.inl (failed_accept_self (by rwa [hs.limit_eq]))

/-! ## The watchdog scan -/

/-- After a scan, an entity is FAILED, was restarted by the scan, is recent enough,
or has its WATCHDOG fault latched. -/
theorem checkWatchdogs_serves {s : State B} (hs : s.lib.Sound)
    (henabled : s.lib.supervisionEnabled ≠ 0) {id : EntityId} (hid : id < s.lib.entityCount) :
    (checkWatchdogs s).lib.failed id ∨ s.WatchdogRestarted (checkWatchdogs s) id ∨
      (getNowMs s).1 - (s.lib.health.health id).lastHeartbeatMs ≤
        heartbeatMaxAgeMs s.lib.config ∨
      s.lib.health.faultIsLatchedUnsafe id .watchdog = true := by
  obtain ⟨-, hswept⟩ := checkWatchdogs_swept hs henabled
  by_cases hdue : id ∈ s.lib.dueFrom (getNowMs s).1 (heartbeatMaxAgeMs s.lib.config) 0
  · rcases (hswept.ended id hdue).served with hfailed | hrestarted
    · exact Or.inl hfailed
    · exact Or.inr (Or.inl hrestarted)
  · have hsnapshot : (checkWatchdogs s).lib.health.health id = s.lib.health.health id :=
      congrArg Record.snapshot (hswept.other id hdue)
    rw [Lib.mem_dueFrom, watchdogDue_iff hs hid] at hdue
    by_cases hfailed : s.lib.failed id
    · left
      rwa [Lib.failed, hsnapshot]
    · right; right
      by_cases hlatched : s.lib.health.faultIsLatchedUnsafe id .watchdog = true
      · exact Or.inr hlatched
      · rw [Bool.not_eq_true] at hlatched
        refine Or.inl (UInt32.not_lt.mp fun hstale ↦ hdue ?_)
        exact ⟨Nat.zero_le _, hid, ⟨hfailed, hlatched⟩, hstale⟩

/-! ## Runs with health resets -/

/-- What supervision promises for entity `id` in state `s`, whether or not the entity was
returned to service. -/
structure Supervised (s : State B) (id : EntityId) : Prop where
  reported : ∀ reason errorCode detail flags,
    let r := reportFaultEx s id reason errorCode detail flags
    r.1 = .ok → (r.2.lib.failed id ∧ (workerMayRun r.2 id).1 = false) ∨
      (¬ s.lib.failed id ∧ s.lib.health.faultIsLatchedUnsafe id reason = true ∧ r.2.lib = s.lib)
  watched : (checkWatchdogs s).lib.failed id ∨ s.WatchdogRestarted (checkWatchdogs s) id ∨
    (getNowMs s).1 - (s.lib.health.health id).lastHeartbeatMs ≤
      heartbeatMaxAgeMs s.lib.config ∨
    s.lib.health.faultIsLatchedUnsafe id .watchdog = true

section Service

variable {s : State B} (hs : s.lib.Sound) (henabled : s.lib.supervisionEnabled ≠ 0)
  {id : EntityId}

include hs henabled in
theorem supervised (hid : id < s.lib.entityCount) : Supervised s id := by
  refine ⟨?_, checkWatchdogs_serves hs henabled hid⟩
  intro reason errorCode detail flags r hok
  let c : Call := .reportFaultEx id reason errorCode detail flags
  have hlib : (after s c).lib = r.2.lib := rfl
  have henabled' : r.2.lib.supervisionEnabled ≠ 0 := by
    rw [← hlib, (after_effects hs.limit_eq c).supervisionEnabled_eq fun enabled ↦ by simp [c]]
    exact henabled
  by_cases hfailed : r.2.lib.failed id
  · refine Or.inl ⟨hfailed, ?_⟩
    rw [← Bool.not_eq_true, workerMayRun_fst]
    rintro ⟨-, hdisabled | ⟨-, hopen⟩⟩
    · exact henabled' hdisabled
    · exact hopen hfailed
  · rcases reportFaultEx_of_ok hs henabled hid hok with hnow | ⟨hlatched, hsame⟩
    · exact absurd hnow hfailed
    · refine Or.inr ⟨fun hold ↦ hfailed ?_, hlatched, hsame⟩
      rwa [hsame]

/-- A report that fails a running entity is pending, unless the counter of the queue wraps. -/
theorem reportFaultEx_queued (hvalid : s.lib.queue.Valid) (hhealthy : ¬ s.lib.failed id)
    {reason : Reason} (hcounter : s.lib.passes id reason → ¬ s.lib.counterFull)
    {errorCode : UInt16} {detail : Option CStr} {flags : UInt8}
    (hok : (reportFaultEx s id reason errorCode detail flags).1 = .ok)
    (hfailed : (reportFaultEx s id reason errorCode detail flags).2.lib.failed id) :
    (reportFaultEx s id reason errorCode detail flags).2.lib.queued id := by
  have hreported := reportFaultImpl_reported s id reason errorCode detail flags
  change (reportFaultImpl s id reason errorCode detail flags).1 = .ok at hok
  change (reportFaultImpl s id reason errorCode detail flags).2.lib.failed id at hfailed
  change (reportFaultImpl s id reason errorCode detail flags).2.lib.queued id
  generalize (reportFaultImpl s id reason errorCode detail flags).1 = status at hok hreported
  generalize (reportFaultImpl s id reason errorCode detail flags).2.lib = l at hreported hfailed ⊢
  cases hreported with
  | suppressed => exact absurd hfailed hhealthy
  | rejected => exact absurd hok (rejectedStatus_ne_ok flags)
  | accepted report detail hentity hreason henabled hlatch hsnapshot hput =>
      subst hentity
      exact Lib.queued_accept hvalid (hcounter ⟨henabled, hlatch, hsnapshot⟩) hput

end Service

/-- In every run, also one that resets or writes health records, a report of a registered
entity fails it and closes its gate, unless that very reason is latched on the running
entity, and the scan lets no heartbeat loss pass, unless WATCHDOG is latched.  The report
that failed the entity is pending or its fault latched, unless the counter of the queue
wraps or, for an entity that was FAILED already, the run has orphaned a report. -/
theorem returned_entity_supervised (clock : ℕ) (pace : List Obs → ℕ) (config : Option Config)
    (lock unlock : Bool) (calls : List Call) :
    let s₀ : State B := started clock pace config lock unlock
    let s := Run.run after s₀ calls
    s.lib.supervisionEnabled ≠ 0 → ∀ id < s.lib.entityCount,
      Supervised s id ∧
        ((s.lib.failed id → Run.Along after (fun s c ↦ c.serving s.lib) s₀ calls) →
          ∀ reason errorCode detail flags,
            (s.lib.passes id reason → ¬ s.lib.counterFull) →
              let r := reportFaultEx s id reason errorCode detail flags
              r.1 = .ok → r.2.lib.failed id →
                r.2.lib.queued id ∨ r.2.lib.health.faultLatched id = true) := by
  intro s₀ s henabled id hid
  obtain ⟨hs, hvalid⟩ := run_valid clock pace config lock unlock calls
  refine ⟨supervised hs henabled hid, ?_⟩
  intro hcalls reason errorCode detail flags hcounter r hok hfailed
  by_cases hold : s.lib.failed id
  · let c : Call := .reportFaultEx id reason errorCode detail flags
    have hafter : (after s c).lib.Served := after_invariant Lib.Served (fun l c ↦ c.serving l)
      (fun _ _ _ hsound h hc he ↦ he.served hsound h hc) (fun _ ↦ trivial) (fun _ ↦ trivial)
      hs (run_served (hcalls hold)).2 hcounter
    have hcount : (after s c).lib.entityCount = s.lib.entityCount :=
      (after_effects hs.limit_eq c).entityCount_eq fun desc ↦ by simp [c]
    exact hafter.served id (by rwa [hcount]) hfailed
  · exact Or.inl (reportFaultEx_queued hvalid hold hcounter hok hfailed)

/-- The rule on a run that returns an entity with a latched fault to service, where it
fails again. -/
theorem returned_entity_supervised_reset :
    let calls : List Call := [.entityRegister (some .zero) true, .reportFault 0 .timeout 7 none,
      .supervisorTick, .healthReset 0]
    let s : State .default := Run.run after (started 0 (fun _ ↦ 1) none true true) calls
    let r := reportFaultEx s 0 .ioError 7 none faultFlagCritical
    ¬ s.lib.failed 0 ∧ Supervised s 0 ∧ r.1 = .ok ∧ r.2.lib.failed 0 ∧
      (r.2.lib.queued 0 ∨ r.2.lib.health.faultLatched 0 = true) := by
  intro calls s r
  obtain ⟨hsupervised, hserved⟩ := returned_entity_supervised 0 (fun _ ↦ 1) none true true calls
    (B := .default) (by decide) 0 (by decide)
  have hcalls : Run.Along after (fun s c ↦ c.serving s.lib)
      (started 0 (fun _ ↦ 1) none true true : State .default) calls :=
    ⟨trivial, fun _ h ↦ absurd h.2 (by decide), trivial, trivial, trivial⟩
  have hok : r.1 = .ok := by decide
  have hfailed : r.2.lib.failed 0 := by decide
  exact ⟨by decide, hsupervised, hok, hfailed, hserved (fun _ ↦ hcalls) .ioError 7 none
    faultFlagCritical (fun _ h ↦ absurd h.2 (by decide)) hok hfailed⟩

/-- With WATCHDOG latched on an entity whose health was reset, a WATCHDOG report of
it is swallowed, and so is the loss of its heartbeat. -/
theorem returned_entity_unsupervised :
    let calls : List Call := [.entityRegister (some .zero) true, .reportFault 0 .watchdog 7 none,
      .supervisorTick, .healthReset 0]
    let s : State .default := Run.run after (started 0 (fun _ ↦ 2000) none true true) calls
    let reported := reportFaultEx s 0 .watchdog 7 none faultFlagCritical
    s.lib.supervisionEnabled ≠ 0 ∧ 0 < s.lib.entityCount ∧
      (reported.1 = .ok ∧ (reported.2.lib.health.health 0).health = .ok ∧
        (workerMayRun reported.2 0).1 = true) ∧
      ((checkWatchdogs s).lib.health.health 0).health = .ok ∧
        (checkWatchdogs s).restarts = s.restarts ∧
        heartbeatMaxAgeMs s.lib.config <
          (getNowMs s).1 - (s.lib.health.health 0).lastHeartbeatMs := by
  decide

end Fdir
