import Fdir.Quarantine

/-!
# The watchdog scan

The scan handles exactly the entities that are overdue when it starts.  Its test of
the WATCHDOG latch excludes nobody else: without direct writes of the health, an
entity with a latched fault is FAILED.
-/

namespace Fdir

open Foundation

variable {B : Build}

/-! ## Latched entities are FAILED -/

/-- An entity with a latched fault is FAILED. -/
def Lib.LatchedFailed (l : Lib B) : Prop :=
  ∀ id, l.health.faultLatched id = true → l.failed id

namespace Lib.LatchedFailed

variable {l : Lib B}

theorem congr (h : l.LatchedFailed) {l' : Lib B}
    (hlatched : l'.health.faultLatched = l.health.faultLatched)
    (hfailed : ∀ id, l.failed id → l'.failed id) : l'.LatchedFailed := by
  intro id hid
  rw [hlatched] at hid
  exact hfailed id (h id hid)

theorem handle (h : l.LatchedFailed) (hs : l.Sound) (ans : Answers) (report : FailureReport) :
    (l.handle ans report).LatchedFailed := by
  by_cases hlive : l.raises report ∧ report.entity < l.entityCount
  · obtain ⟨hraises, hknown⟩ := hlive
    intro id hlatched
    by_cases hid : id = report.entity
    · subst hid
      by_cases hrestores : l.restores ans report
      · have hrecord := Lib.record_handle_of_restores hs hraises hknown hrestores
        have hunlatched : (l.handle ans report).health.faultLatched report.entity = false :=
          congrArg Record.faultLatched hrecord
        rw [hunlatched] at hlatched
        cases hlatched
      · have hhealth := (Lib.record_handle_of_not_restores hs hraises hknown hrestores).1
        rw [Lib.failed, hhealth]
    · have hrecord := Lib.record_handle_of_ne l ans report hid
      have hold := (congrArg Record.faultLatched hrecord).symm.trans hlatched
      exact (Lib.failed_handle_of_ne l ans report hid).mpr (h id hold)
  · have hhealth : (l.handle ans report).health = l.health := by
      unfold Lib.handle
      split
      · rfl
      · next hlatched =>
        split
        · rfl
        · next hknown =>
          refine absurd ⟨?_, UInt8.not_le.mp fun hle ↦ hknown (Or.inl hle)⟩ hlive
          rwa [Bool.not_eq_true] at hlatched
    refine h.congr (by rw [hhealth]) fun id hfailed ↦ ?_
    rwa [Lib.failed, hhealth]

theorem effect (h : l.LatchedFailed) (hs : l.Sound) {c : Call} {l' : Lib B}
    (hc : ∀ id, ¬ c.rewrites id) (he : Effect c l l') : l'.LatchedFailed := by
  cases he with
  | enroll desc now =>
      intro id hlatched
      by_cases hid : id = l.entityCount
      · have hold := hs.unlatched id (hid ▸ UInt8.le_refl _)
        change l.health.faultLatched id = true at hlatched
        rw [hold] at hlatched
        cases hlatched
      · exact (failed_enroll hid desc now).mpr (h id hlatched)
  | handle ans report => exact h.handle hs ans report
  | watch ans id now => exact h.handle hs ans _
  | dequeue ans report =>
      have hqueue : Lib.LatchedFailed { l with queue := l.queue.getUnsafe.2 } := h
      exact hqueue.handle (hs.congr rfl rfl rfl rfl rfl) ans report
  | accept report detail =>
      refine h.congr ?_ fun id hfailed ↦ failed_accept hfailed report detail
      simp only [Lib.accept, HealthTable.setUnsafe]
      split <;> rfl
  | heartbeat id now =>
      refine h.congr ?_ fun other hfailed ↦ (failed_heartbeat l id other now).mpr hfailed
      simp only [HealthTable.heartbeat]
      split <;> rfl
  | healthSet id health errorCode detail hcall =>
      rw [hcall] at hc
      exact absurd rfl (hc id)
  | healthReset id now hcall =>
      rw [hcall] at hc
      exact absurd rfl (hc id)
  | _ => exact h

theorem does (h : l.LatchedFailed) (hs : l.Sound) {pc : Pc} {l' : Lib B} (hdoes : Does l pc l') :
    l'.LatchedFailed := by
  cases hdoes with
  | same | put | get => exact h
  | handle ans report => exact h.handle hs ans report
  | beat id now =>
      refine h.congr ?_ fun other hfailed ↦ (failed_heartbeat l id other now).mpr hfailed
      simp only [HealthTable.heartbeat]
      split <;> rfl

end Lib.LatchedFailed

/-- A turn that does not write the health directly. -/
def Turn.indirect : Turn → Prop
  | .call _ c => ∀ id, ¬ c.rewrites id
  | .advance _ | .elapse _ => True

theorem Machine.latchedFailed_step {m : Machine B} (hs : m.state.lib.Sound)
    (h : m.state.lib.LatchedFailed) {turn : Turn} (hturn : turn.indirect) :
    (m.step turn).state.lib.LatchedFailed := by
  rcases acts hs.limit_eq turn with ⟨thread, c, rfl, -, heffect⟩ | ⟨thread, -, hdoes⟩ | hsame
  · exact h.effect hs hturn heffect
  · exact h.does hs hdoes
  · rwa [hsame]

/-! ## The scan -/

/-- While every latched entity is FAILED, the scan watches all that are not FAILED. -/
theorem Lib.LatchedFailed.watched_iff {l : Lib B} (h : l.LatchedFailed) (hs : l.Sound)
    (id : EntityId) : l.Watched id ↔ ¬ l.failed id := by
  refine ⟨fun hwatched ↦ hwatched.1, fun hfailed ↦ ⟨hfailed, ?_⟩⟩
  rw [← Bool.not_eq_true, hs.faultIsLatched_iff]
  exact fun hlatched ↦ hfailed (h id hlatched.1)

/-- In every state that any threads can reach without direct writes of the health, with
supervision enabled, for every clock and whatever the callbacks answer: the scan
recovers exactly the registered entities that are overdue before it, once each, in
increasing order.  Each of them is then FAILED with WATCHDOG latched or was
restarted, and all others keep their records. -/
theorem watchdog_scan_exact (s : State B) (config : Option Config) (lock unlock : Bool)
    (pcs : ℕ → Pc) (turns : List Turn) (hindirect : ∀ turn ∈ turns, turn.indirect) :
    let m : Machine B := Run.run Machine.step (.initialised s config lock unlock pcs) turns
    let s := m.state
    let s' := checkWatchdogs s
    let now := (getNowMs s).1
    s.lib.supervisionEnabled ≠ 0 → ∃ due : List EntityId,
      (∀ id, id ∈ due ↔ id < s.lib.entityCount ∧ ¬ s.lib.failed id ∧
        heartbeatMaxAgeMs s.lib.config < now - (s.lib.health.health id).lastHeartbeatMs) ∧
      due.Pairwise (· < ·) ∧
      s' = syncExit (due.foldl (scanned now)
        (syncEnter (supervisionEnabled (getNowMs s).2).2)) ∧
      s'.raised = s.raised ++ due.map (fun id ↦ (id, .watchdog, .raised)) ∧
      (∀ id ∈ due, s.Ended s' now id) ∧ ∀ id ∉ due, s'.lib.record id = s.lib.record id := by
  intro m s₁ s' now henabled
  have hkept : s₁.lib.Sound ∧ s₁.lib.LatchedFailed := by
    have halong : Run.Along Machine.step (fun (_ : Machine B) turn ↦ turn.indirect)
        (.initialised s config lock unlock pcs) turns :=
      Run.along_of_forall (fun _ _ h ↦ h) hindirect
    refine halong.invariant (fun m : Machine B ↦ m.state.lib.Sound ∧ m.state.lib.LatchedFailed)
      ?_ ⟨fdirInit_sound s config lock unlock, fun _ h ↦ nomatch h⟩
    rintro m turn ⟨hs, hlatched⟩ hturn
    exact ⟨(m.stride turn).sound hs, Machine.latchedFailed_step hs hlatched hturn⟩
  obtain ⟨hs, hlatched⟩ := hkept
  obtain ⟨hrun, hswept⟩ := checkWatchdogs_swept hs henabled
  refine ⟨_, fun id ↦ ?_, Lib.pairwise_dueFrom, hrun, hswept.raised, hswept.ended, hswept.other⟩
  rw [Lib.mem_dueFrom, and_iff_right (Nat.zero_le _)]
  refine and_congr_right fun hid ↦ ?_
  rw [watchdogDue_iff hs hid, hlatched.watched_iff hs]

/-- Of two entities one is overdue. -/
theorem watchdog_scan_exact_one :
    let m : Machine .default := Run.run Machine.step
      (.initialised (.powerOn 0 fun _ ↦ 0) none true true fun _ ↦ .idle)
      [.call 0 (.entityRegister (some .zero) true), .call 0 (.entityRegister (some .zero) true),
        .elapse 2000, .call 1 (.heartbeatNotify 1)]
    (checkWatchdogs m.state).lib.record 1 = m.state.lib.record 1 := by
  intro m
  obtain ⟨due, hdue, -, -, -, -, hother⟩ := watchdog_scan_exact
    (.powerOn 0 fun _ ↦ 0 : State .default) none true true (fun _ ↦ .idle)
    [.call 0 (.entityRegister (some .zero) true), .call 0 (.entityRegister (some .zero) true),
      .elapse 2000, .call 1 (.heartbeatNotify 1)]
    (by
      simp only [List.forall_mem_cons]
      exact ⟨fun _ h ↦ h, fun _ h ↦ h, trivial, fun _ h ↦ h, List.forall_mem_nil _⟩)
    (by decide)
  refine hother 1 fun hmem ↦ ?_
  obtain ⟨-, -, hage⟩ := (hdue 1).mp hmem
  exact absurd hage (by decide)

end Fdir
