import Fdir.Drain
import Fdir.Machine

/-!
# Rejected fault reports

A fault report is rejected only by a full queue, before anything else is
changed, and a supervisor tick makes room for it.
-/

namespace Fdir

open Foundation

variable {B : Build}

/-- A fault report of `entity` gets as far as the queue and finds it full. -/
structure Lib.Rejects (l : Lib B) (entity : EntityId) (reason : Reason) : Prop where
  enabled : l.supervisionEnabled ≠ 0
  unlatched : l.health.faultIsLatchedUnsafe entity reason = false
  live : l.health.snapshotFailed entity = false
  full : l.queue.pending.length = B.failureQueueCap

section Report

variable (s : State B) (entity : EntityId) (reason : Reason) (errorCode : UInt16)
  (detail : Option CStr) (flags : UInt8)

/-- A rejected report has read the clock and set the full latch, nothing else. -/
theorem reportFaultEx_of_rejects (h : s.lib.Rejects entity reason) :
    reportFaultEx s entity reason errorCode detail flags =
      (rejectedStatus flags, syncExit ((getNowMs (syncEnter s)).2.write fun l ↦
        { l with queue := { l.queue with fullLatched := true } })) := by
  have hput : ∀ report, s.lib.queue.putUnsafe report =
      (-1, { s.lib.queue with fullLatched := true }) :=
    FailureQueue.putUnsafe_of_full h.full.ge
  simp [reportFaultEx, reportFaultImpl, enqueueFailureUnsafe, h.enabled, h.unlatched, h.live, hput,
    rejectedStatus_ne_ok, State.write]

theorem reportFaultEx_of_not_rejects (hq : s.lib.queue.Valid)
    (h : ¬ s.lib.Rejects entity reason) :
    (reportFaultEx s entity reason errorCode detail flags).1 = .ok := by
  unfold reportFaultEx reportFaultImpl
  by_cases henabled : s.lib.supervisionEnabled = 0
  · simp [henabled]
  cases hlatched : s.lib.health.faultIsLatchedUnsafe entity reason
  case true => simp [hlatched]
  cases hfailed : s.lib.health.snapshotFailed entity
  case true => simp [hfailed]
  have hroom : s.lib.queue.pending.length < B.failureQueueCap := by
    refine lt_of_le_of_ne ?_ fun hfull ↦ h ⟨henabled, hlatched, hfailed, hfull⟩
    rw [FailureQueue.length_pending]
    exact hq.count_le.trans (min_le_left _ _)
  have hput := fun report ↦ (FailureQueue.putUnsafe_fst_eq_zero_iff s.lib.queue report).mpr hroom
  simp [henabled, hlatched, hfailed, enqueueFailureUnsafe, hput]

end Report

theorem Lib.not_rejects_of_nil {l : Lib B} (h : l.queue.pending = []) (entity : EntityId)
    (reason : Reason) : ¬ l.Rejects entity reason := by
  intro hrejects
  have hfull := hrejects.full
  rw [h, List.length_nil] at hfull
  exact B.failureQueueCap_pos.ne hfull

/-- In every state that any threads can reach: a fault report is rejected exactly if it
finds the queue full after supervision, the latch and the health of its entity
have let it pass.  Then its status says whether it is critical, nothing but the
full latch has changed and no event is emitted; and whatever turns follow, a tick
with supervision enabled makes the same report succeed. -/
theorem rejected_report_retryable (clock : ℕ) (pace : List Obs → ℕ) (config : Option Config)
    (lock unlock : Bool) (turns : List Turn) (entity : EntityId) (reason : Reason)
    (errorCode : UInt16) (detail : Option CStr) (flags : UInt8) :
    let m : Machine B := Run.run Machine.step (.started clock pace config lock unlock) turns
    let s := m.state
    let reported := reportFaultEx s entity reason errorCode detail flags
    (reported.1 ≠ .ok ↔ s.lib.supervisionEnabled ≠ 0 ∧
      s.lib.health.faultIsLatchedUnsafe entity reason = false ∧
      s.lib.health.snapshotFailed entity = false ∧
      s.lib.queue.pending.length = B.failureQueueCap) ∧
    (reported.1 ≠ .ok →
      reported.1 = (if flags &&& faultFlagCritical ≠ 0 then .errBusy else .errState) ∧
      reported.2.lib = { s.lib with queue := { s.lib.queue with fullLatched := true } } ∧
      reported.2.events = s.events ∧
      ∀ more : List Turn,
        let s' := (Run.run Machine.step { m with state := reported.2 } more).state
        s'.lib.supervisionEnabled ≠ 0 →
          (reportFaultEx (supervisorTick s') entity reason errorCode detail flags).1 = .ok) := by
  intro m s reported
  have hvalid : s.lib.Sound ∧ s.lib.queue.Valid :=
    Machine.valid_run (started_sound clock pace config lock unlock)
      (FailureQueue.valid_init B.failureQueueCap_pos) turns
  obtain ⟨hs, hq⟩ := hvalid
  have hrejects : reported.1 ≠ .ok ↔ s.lib.Rejects entity reason := by
    constructor
    · intro hstatus
      by_contra hnot
      exact hstatus (reportFaultEx_of_not_rejects s entity reason errorCode detail flags hq hnot)
    · intro h
      have hreported := reportFaultEx_of_rejects s entity reason errorCode detail flags h
      rw [show reported = _ from hreported]
      exact rejectedStatus_ne_ok flags
  refine ⟨hrejects.trans ⟨fun h ↦ ⟨h.enabled, h.unlatched, h.live, h.full⟩,
    fun ⟨henabled, hlatched, hlive, hfull⟩ ↦ ⟨henabled, hlatched, hlive, hfull⟩⟩, ?_⟩
  intro hstatus
  have hreported := reportFaultEx_of_rejects s entity reason errorCode detail flags
    (hrejects.mp hstatus)
  refine ⟨?_, ?_, ?_, ?_⟩
  · rw [show reported = _ from hreported]
    rfl
  · rw [show reported = _ from hreported]
    simp
  · rw [show reported = _ from hreported]
    simp
  · intro more s' henabled
    let c : Call := .reportFaultEx entity reason errorCode detail flags
    have hvalid' : s'.lib.Sound ∧ s'.lib.queue.Valid :=
      Machine.valid_run (after_sound hs c) (after_valid hs hq c) more
    obtain ⟨hs', hq'⟩ := hvalid'
    have hdrained := after_valid hs' hq' .supervisorTick
    obtain ⟨-, -, -, hempty⟩ := supervisorTick_drains hs' henabled hq'
    exact reportFaultEx_of_not_rejects _ entity reason errorCode detail flags hdrained
      (Lib.not_rejects_of_nil hempty entity reason)

/-- Eight reports fill the queue; the ninth is rejected as busy and accepted after a
tick. -/
theorem rejected_report_retryable_busy :
    let m : Machine .default := Run.run Machine.step (.started 0 (fun _ ↦ 1) none true true)
      (List.replicate 8 (.call 0 (.reportFault 0 .timeout 7 none)))
    let reported := reportFaultEx m.state 0 .ioError 9 none faultFlagCritical
    reported.1 = .errBusy ∧
      (reportFaultEx (supervisorTick reported.2) 0 .ioError 9 none faultFlagCritical).1 = .ok := by
  intro m reported
  obtain ⟨hiff, hrejected⟩ := @rejected_report_retryable .default 0 (fun _ ↦ 1) none true
    true (List.replicate 8 (.call 0 (.reportFault 0 .timeout 7 none))) 0 .ioError 9 none
    faultFlagCritical
  obtain ⟨hstatus, -, -, hretry⟩ := hrejected (hiff.mpr (by decide))
  exact ⟨hstatus, hretry [] (by decide)⟩

end Fdir
