import Fdir.Effects

/-!
# Orphaned failures

A FAILED entity is blocked, and neither a fault report nor the watchdog scan
starts its recovery: it is served only through its report in the queue, or it
was handled before and has a latched fault.  Every call keeps it so, except the
one that empties the queue without touching the health table.
-/

namespace Fdir

open Foundation

variable {B : Build}

/-- A report for entity `id` is pending. -/
def Lib.queued (l : Lib B) (id : EntityId) : Prop :=
  ∃ report ∈ l.queue.pending, report.entity = id

instance (l : Lib B) (id : EntityId) : Decidable (l.queued id) :=
  inferInstanceAs (Decidable (∃ report ∈ l.queue.pending, report.entity = id))

/-- One more report would wrap the 8-bit counter of the queue. -/
def Lib.counterFull (l : Lib B) : Prop :=
  l.queue.pending.length = 255 ∧ 255 < B.failureQueueCap

/-- The calls that orphan no report: supervision is disabled only while every
registered FAILED entity has a latched fault, and a report that is put on the queue
can be counted there.  The application does not write health records itself, apart
from resetting them. -/
def Call.serving (l : Lib B) : Call → Prop
  | .setSupervisionEnabled enabled =>
      enabled = 0 → l.supervisionEnabled ≠ 0 →
        ∀ id < l.entityCount, l.failed id → l.health.faultLatched id = true
  | .reportFault entity reason _ _ | .reportFaultEx entity reason _ _ _ =>
      l.passes entity reason → ¬ l.counterFull
  | .submitFailure report => report ≠ none → l.supervisionEnabled ≠ 0 → ¬ l.counterFull
  | .healthSet _ _ _ _ => False
  | _ => True

/-- Every registered FAILED entity is served. -/
structure Lib.Served (l : Lib B) : Prop where
  valid : l.queue.Valid
  served : ∀ id < l.entityCount, l.failed id → l.queued id ∨ l.health.faultLatched id = true

namespace Lib.Served

variable {l : Lib B}

theorem congr (h : l.Served) {l' : Lib B} (hqueue : l'.queue = l.queue)
    (hcount : l'.entityCount = l.entityCount)
    (hlatched : l'.health.faultLatched = l.health.faultLatched)
    (hfailed : ∀ id < l.entityCount, l'.failed id → l.failed id) : l'.Served where
  valid := by rw [hqueue]; exact h.valid
  served := by
    rw [hcount, hlatched]
    intro id hid hf
    rw [Lib.queued, hqueue]
    exact h.served id hid (hfailed id hid hf)

end Lib.Served

/-- A report that is put can be found. -/
theorem Lib.pending_put {l : Lib B} (hvalid : l.queue.Valid) (hcounter : ¬ l.counterFull)
    {report : FailureReport} (hput : (l.queue.putUnsafe report).1 = 0) :
    (l.queue.putUnsafe report).2.pending = l.queue.pending ++ [report] := by
  have hroom := (FailureQueue.putUnsafe_fst_eq_zero_iff _ _).mp hput
  have hle := FailureQueue.length_pending_le l.queue
  have hlt : l.queue.pending.length < 255 := by
    by_contra hge
    exact hcounter ⟨by omega, by omega⟩
  exact (FailureQueue.putUnsafe_of_room hvalid hroom hlt report).2

theorem Lib.queued_accept {l : Lib B} (hvalid : l.queue.Valid) (hcounter : ¬ l.counterFull)
    {report : FailureReport} {detail : CStr} (hput : (l.queue.putUnsafe report).1 = 0) :
    (l.accept report detail).queued report.entity := by
  refine ⟨report, ?_, rfl⟩
  change report ∈ (l.queue.putUnsafe report).2.pending
  rw [Lib.pending_put hvalid hcounter hput]
  exact List.mem_append_right _ (List.mem_singleton_self _)

/-- A handled report leaves its entity restored or with a latched fault. -/
theorem Lib.latched_of_failed_handle {l : Lib B} (hsound : l.Sound) (ans : Answers)
    {report : FailureReport} (hid : report.entity < l.entityCount)
    (hfailed : (l.handle ans report).failed report.entity) :
    (l.handle ans report).health.faultLatched report.entity = true := by
  by_cases hlatched : l.health.faultIsLatchedUnsafe report.entity report.reason = true
  · rw [Lib.handle, if_pos hlatched]
    exact ((hsound.faultIsLatched_iff _ _).mp hlatched).1
  · have hknown : ¬ (l.entityCount ≤ report.entity ∨
        (l.entities report.entity).used = false) := by
      rw [hsound.unknown_iff]
      exact UInt8.not_le.mpr hid
    have hrecord := Lib.record_handle_self l ans report (by simpa using hlatched) hknown
    have hsnapshot : (l.handle ans report).health.health report.entity =
        (l.verdict ans report).1.snapshot := congrArg Record.snapshot hrecord
    have hflag : (l.handle ans report).health.faultLatched report.entity =
        (l.verdict ans report).1.faultLatched := congrArg Record.faultLatched hrecord
    rcases Record.settle_cases ((l.record report.entity).fail B report) ans
      (l.action ans report) report.reason with
      ⟨hok, -, -⟩ | ⟨-, -, hkept⟩
    · rw [Lib.failed, hsnapshot, Lib.verdict, hok] at hfailed
      cases hfailed
    · rw [hflag, Lib.verdict, hkept]
      rfl

theorem Lib.served_handle {l : Lib B} (hsound : l.Sound) (hvalid : l.queue.Valid)
    (ans : Answers) {report : FailureReport}
    (h : ∀ id < l.entityCount, id ≠ report.entity → l.failed id →
      l.queued id ∨ l.health.faultLatched id = true) : (l.handle ans report).Served where
  valid := by rwa [Lib.handle_queue]
  served := by
    intro id hid hfailed
    rw [Lib.handle_entityCount] at hid
    by_cases hself : id = report.entity
    · subst hself
      exact Or.inr (Lib.latched_of_failed_handle hsound ans hid hfailed)
    · have hlatched := congrArg Record.faultLatched
        (Lib.record_handle_of_ne l ans report hself)
      have hold := h id hid hself ((Lib.failed_handle_of_ne _ _ _ hself).mp hfailed)
      simp only [Lib.record] at hlatched
      rwa [Lib.queued, Lib.handle_queue, hlatched]

namespace Lib.Served

variable {l : Lib B}

theorem handle (h : l.Served) (hsound : l.Sound) (ans : Answers) (report : FailureReport) :
    (l.handle ans report).Served :=
  Lib.served_handle hsound h.valid ans fun id hid _ ↦ h.served id hid

theorem dequeue (h : l.Served) (hsound : l.Sound) (ans : Answers) {report : FailureReport}
    (hget : l.queue.getUnsafe.1 = some report) :
    (Lib.handle { l with queue := l.queue.getUnsafe.2 } ans report).Served := by
  obtain ⟨hvalid, hpending⟩ := FailureQueue.pending_of_getUnsafe h.valid hget
  apply Lib.served_handle
  · exact hsound.congr rfl rfl rfl rfl rfl
  · exact hvalid
  intro id hid hne hfailed
  refine (h.served id hid hfailed).imp_left ?_
  rintro ⟨other, hother, rfl⟩
  rw [hpending] at hother
  rcases List.mem_cons.mp hother with rfl | hrest
  · exact absurd rfl hne
  · exact ⟨other, hrest, rfl⟩

theorem put (h : l.Served) (hcounter : ¬ l.counterFull) (report : FailureReport) :
    Lib.Served { l with queue := (l.queue.putUnsafe report).2 } where
  valid := h.valid.put report
  served := by
    intro id hid hfailed
    refine (h.served id hid hfailed).imp_left ?_
    rintro ⟨other, hother, rfl⟩
    refine ⟨other, ?_, rfl⟩
    change other ∈ (l.queue.putUnsafe report).2.pending
    by_cases hput : (l.queue.putUnsafe report).1 = 0
    · rw [Lib.pending_put h.valid hcounter hput]
      exact List.mem_append_left _ hother
    · have hfull := Nat.le_of_not_lt fun hroom ↦
        hput ((FailureQueue.putUnsafe_fst_eq_zero_iff _ _).mpr hroom)
      rwa [FailureQueue.putUnsafe_of_full hfull]

theorem accept (h : l.Served) (hcounter : ¬ l.counterFull) {report : FailureReport}
    {detail : CStr} (hput : (l.queue.putUnsafe report).1 = 0) :
    (l.accept report detail).Served where
  valid := h.valid.put report
  served := by
    intro id hid hfailed
    have hlatched : (l.accept report detail).health.faultLatched = l.health.faultLatched := by
      simp only [Lib.accept, HealthTable.setUnsafe]
      split <;> rfl
    rw [hlatched]
    by_cases hself : report.entity = id
    · exact Or.inl (hself ▸ Lib.queued_accept h.valid hcounter hput)
    · have hold : l.failed id := (failed_accept_of_ne (Ne.symm hself)).mp hfailed
      refine (h.served id hid hold).imp_left ?_
      rintro ⟨other, hother, rfl⟩
      refine ⟨other, ?_, rfl⟩
      change other ∈ (l.queue.putUnsafe report).2.pending
      rw [Lib.pending_put h.valid hcounter hput]
      exact List.mem_append_left _ hother

end Lib.Served

theorem Effect.served {c : Call} {l l' : Lib B} (hsound : l.Sound) (h : l.Served)
    (hc : c.serving l) (he : Effect c l l') : l'.Served := by
  cases he with
  | same => exact h
  | enroll desc now _ hroom =>
      refine ⟨h.valid, ?_⟩
      intro id hid hfailed
      have hne : id ≠ l.entityCount := by
        rintro rfl
        simp [Lib.failed, Lib.enroll] at hfailed
      have hold : id < l.entityCount :=
        ((Lib.lt_enroll_entityCount hroom id).mp hid).resolve_left hne
      exact h.served id hold ((failed_enroll hne desc now).mp hfailed)
  | supervise enabled hcall hchange =>
      by_cases hzero : enabled = 0
      · subst hzero
        subst hcall
        refine ⟨FailureQueue.valid_init B.failureQueueCap_pos, fun id hid hfailed ↦ ?_⟩
        exact Or.inr (hc rfl hchange id hid hfailed)
      · exact h.congr (by simp [Lib.supervise, hzero]) rfl rfl fun _ _ hf ↦ hf
  | enrollSubsystem | command | raise | review | mark =>
      exact h.congr rfl rfl rfl fun _ _ hf ↦ hf
  | handle ans report => exact h.handle hsound ans report
  | watch ans id now => exact h.handle hsound ans _
  | dequeue ans report _ _ hget => exact h.dequeue hsound ans hget
  | put report hcall henabled =>
      subst hcall
      exact h.put (hc (Option.some_ne_none report) henabled) report
  | reject report hput =>
      have hfull := Nat.le_of_not_lt fun hroom ↦
        hput ((FailureQueue.putUnsafe_fst_eq_zero_iff _ _).mpr hroom)
      refine h.put (fun hcounter ↦ ?_) report
      exact absurd hfull (by rw [hcounter.1]; exact Nat.not_le.mpr hcounter.2)
  | accept report detail hcall henabled hlatch hfailed hput =>
      have hcounter : ¬ l.counterFull := by
        cases c <;> first | (cases hcall; exact hc ⟨henabled, hlatch, hfailed⟩) | cases hcall
      exact h.accept hcounter hput
  | heartbeat id now =>
      refine h.congr rfl rfl ?_ fun other _ hf ↦ (failed_heartbeat l id other now).mp hf
      simp only [HealthTable.heartbeat]
      split <;> rfl
  | healthSet id health errorCode detail hcall =>
      subst hcall
      exact hc.elim
  | healthReset id now =>
      refine h.congr rfl rfl ?_ ?_
      · simp only [HealthTable.resetUnsafe]
        split <;> rfl
      · intro other _ hfailed
        simp only [Lib.failed, HealthTable.resetUnsafe] at hfailed
        split at hfailed
        · exact hfailed
        · by_cases hother : other = id
          · subst hother
            simp at hfailed
          · simpa [Lib.failed, hother] using hfailed

theorem started_served (clock : ℕ) (pace : List Obs → ℕ) (config : Option Config)
    (lock unlock : Bool) :
    (started clock pace config lock unlock : State B).lib.Served where
  valid := FailureQueue.valid_init B.failureQueueCap_pos
  served := fun _ hid ↦ absurd hid UInt8.not_lt_zero

theorem run_served {clock : ℕ} {pace : List Obs → ℕ} {config : Option Config}
    {lock unlock : Bool} {calls : List Call}
    (hcalls : Run.Along after (fun s c ↦ c.serving s.lib)
      (started clock pace config lock unlock : State B) calls) :
    (Run.run after (started clock pace config lock unlock : State B) calls).lib.Sound ∧
      (Run.run after (started clock pace config lock unlock : State B) calls).lib.Served :=
  run_invariant Lib.Served (fun l c ↦ c.serving l)
    (fun _ _ _ hsound h hc he ↦ he.served hsound h hc) (fun _ ↦ trivial) (fun _ ↦ trivial)
    (started_sound _ _ _ _ _) (started_served _ _ _ _ _) hcalls

/-- In every run whose calls orphan no report, every registered FAILED entity has a
report pending or a fault latched. -/
theorem no_orphaned_failure (clock : ℕ) (pace : List Obs → ℕ) (config : Option Config)
    (lock unlock : Bool) (calls : List Call)
    (hcalls : Run.Along after (fun s c ↦ c.serving s.lib)
      (started clock pace config lock unlock : State B) calls) :
    let s : State B := Run.run after (started clock pace config lock unlock) calls
    ∀ id < s.lib.entityCount, s.lib.failed id →
      s.lib.queued id ∨ s.lib.health.faultLatched id = true :=
  (run_served hcalls).2.served

/-- The rule on a run that disables supervision only after the report was handled. -/
theorem no_orphaned_failure_handled :
    let calls : List Call := [.entityRegister (some .zero) true, .reportFault 0 .timeout 7 none,
      .supervisorTick, .setSupervisionEnabled 0, .setSupervisionEnabled 1]
    let s : State .default := Run.run after (started 0 (fun _ ↦ 1) none true true) calls
    s.lib.failed 0 ∧ (s.lib.queued 0 ∨ s.lib.health.faultLatched 0 = true) := by
  intro calls s
  have hfailed : s.lib.failed 0 := by decide
  refine ⟨hfailed, no_orphaned_failure 0 (fun _ ↦ 1) none true true calls ?_ 0 (by decide)
    hfailed⟩
  have honly : ∀ id < (1 : UInt8), id = 0 := by
    intro id hid
    rw [UInt8.lt_iff_toNat_lt, UInt8.toNat_one, Nat.lt_one_iff] at hid
    exact UInt8.toNat_inj.mp hid
  have henable : (1 : UInt8) ≠ 0 := by decide
  refine ⟨trivial, fun _ h ↦ absurd h.2 (by decide), trivial, ?_, fun h ↦ absurd h henable,
    trivial⟩
  intro _ _ id hid _
  rw [honly id hid]
  decide

/-- Disabling supervision while a report is pending orphans its entity. -/
theorem orphaned_failure_bypassed :
    let calls : List Call := [.entityRegister (some .zero) true, .reportFault 0 .timeout 7 none,
      .setSupervisionEnabled 0, .setSupervisionEnabled 1]
    let s : State .default := Run.run after (started 0 (fun _ ↦ 1) none true true) calls
    s.lib.supervisionEnabled ≠ 0 ∧ 0 < s.lib.entityCount ∧ s.lib.failed 0 ∧
      ¬ s.lib.queued 0 ∧ s.lib.health.faultLatched 0 = false := by
  decide

end Fdir
