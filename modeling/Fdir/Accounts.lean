import Fdir.Machine
import Fdir.Foundation.Tally

/-!
# The accounts of fault reports

A report the queue has accepted is pending, held by a thread that drains the queue,
settled by its critical section of `fdir_handle_failure`, or discarded because the ground
has disabled supervision.  However threads interleave, no accepted report is lost and
none is settled twice: the accounts balance after every turn.
-/

namespace Fdir

open Foundation

variable {B : Build}

/-! ## What a turn does to the accounts -/

/-- The report `report_fault_impl` builds. -/
def faultReport (s : State B) (entity : EntityId) (reason : Reason) (errorCode : UInt16)
    (detail : Option CStr) (flags : UInt8) : FailureReport where
  entity := entity
  reason := reason
  errorCode := errorCode
  detail := copyDetail B.detailSize detail
  timestampMs := (getNowMs (syncEnter s)).1
  flags := flags

/-- The report, if the queue has room for it. -/
def FailureQueue.takes {cap : ℕ} (q : FailureQueue cap) (report : FailureReport) :
    Multiset FailureReport :=
  if (q.putUnsafe report).1 = 0 then {report} else 0

/-- What a call of one section puts into the queue. -/
def Call.accepted (s : State B) : Call → Multiset FailureReport
  | .reportFault entity reason errorCode detail =>
      if s.lib.passes entity reason then
        s.lib.queue.takes (faultReport s entity reason errorCode detail faultFlagCritical)
      else 0
  | .reportFaultEx entity reason errorCode detail flags =>
      if s.lib.passes entity reason then
        s.lib.queue.takes (faultReport s entity reason errorCode detail flags)
      else 0
  | _ => 0

/-- What a call of one section removes from the queue. -/
def Call.discarded (l : Lib B) : Call → Multiset FailureReport
  | .setSupervisionEnabled enabled =>
      if l.supervisionEnabled ≠ enabled ∧ enabled = 0 then l.queue.pending else 0
  | _ => 0

/-- The report a thread has taken from the queue and not yet handled. -/
def Pc.holds : Pc → Multiset FailureReport
  | .handleTest report .drain => {report}
  | .handleLocked report .drain => {report}
  | _ => 0

def Pc.accepted (l : Lib B) : Pc → Multiset FailureReport
  | .submitPut report => l.queue.takes report
  | _ => 0

def Pc.settled : Pc → Multiset FailureReport
  | .handleLocked report .drain => {report}
  | _ => 0

/-- A thread drops the report it holds when it finds supervision disabled. -/
def Pc.discarded (l : Lib B) : Pc → Multiset FailureReport
  | .handleTest report .drain => if l.supervisionEnabled = 0 then {report} else 0
  | _ => 0

namespace Machine

variable (m : Machine B)

def accepted : Turn → Multiset FailureReport
  | .call thread c => if m.pcs thread = .idle then c.accepted m.state else 0
  | .advance thread => (m.pcs thread).accepted m.state.lib
  | .elapse _ => 0

def settled : Turn → Multiset FailureReport
  | .advance thread => (m.pcs thread).settled
  | _ => 0

def discarded : Turn → Multiset FailureReport
  | .call thread c => if m.pcs thread = .idle then c.discarded m.state.lib else 0
  | .advance thread => (m.pcs thread).discarded m.state.lib
  | .elapse _ => 0

/-- What is pending and what the threads hold. -/
def held (threads : Finset ℕ) : Multiset FailureReport :=
  m.state.lib.queue.pending + ∑ thread ∈ threads, (m.pcs thread).holds

end Machine

def Turn.thread? : Turn → Option ℕ
  | .call thread _ => some thread
  | .advance thread => some thread
  | .elapse _ => none

/-- The threads that take part in a run. -/
def threadsOf (turns : List Turn) : Finset ℕ := (turns.filterMap Turn.thread?).toFinset

/-! ## The queue under one section -/

section Queue

variable {cap : ℕ} {q : FailureQueue cap}

/-- Below 256 cells the counter does not wrap. -/
theorem FailureQueue.pending_put (hq : q.Valid) (hcap : cap ≤ 255) (report : FailureReport) :
    ((q.putUnsafe report).2.pending : Multiset FailureReport) = q.pending + q.takes report := by
  unfold takes
  split
  · next hput =>
    have hroom := (putUnsafe_fst_eq_zero_iff q report).mp hput
    rw [(putUnsafe_of_room hq hroom (hroom.trans_le hcap) report).2]
    rfl
  · next hput =>
    rw [putUnsafe_fst_eq_zero_iff, Nat.not_lt] at hput
    rw [putUnsafe_of_full hput, add_zero]
    rfl

/-- A counter that wraps loses reports but makes up none. -/
theorem FailureQueue.length_put_le (q : FailureQueue cap) (report : FailureReport) :
    (q.putUnsafe report).2.pending.length ≤ q.pending.length + (q.takes report).card := by
  unfold takes
  split
  · next hput =>
    have hroom := (putUnsafe_fst_eq_zero_iff q report).mp hput
    rw [length_pending] at hroom
    rw [length_pending, length_pending, putUnsafe, if_neg (Nat.not_le.mpr hroom), UInt8.toNat_add,
      UInt8.toNat_one, Multiset.card_singleton]
    exact Nat.mod_le _ _
  · next hput =>
    rw [putUnsafe_fst_eq_zero_iff, Nat.not_lt] at hput
    rw [putUnsafe_of_full hput]
    exact Nat.le_add_right _ _

theorem FailureQueue.pending_get (hq : q.Valid) :
    (q.pending : Multiset FailureReport) =
      (q.getUnsafe.1.toList : Multiset FailureReport) + q.getUnsafe.2.pending := by
  cases hget : q.getUnsafe.1 with
  | none =>
      rw [getUnsafe_of_none hget]
      rfl
  | some report =>
      rw [(pending_of_getUnsafe hq hget).2]
      rfl

end Queue

theorem reportFaultImpl_queue (s : State B) (entity : EntityId) (reason : Reason)
    (errorCode : UInt16) (detail : Option CStr) (flags : UInt8) :
    (reportFaultImpl s entity reason errorCode detail flags).2.lib.queue =
      if s.lib.passes entity reason then
        (s.lib.queue.putUnsafe (faultReport s entity reason errorCode detail flags)).2
      else s.lib.queue := by
  simp only [reportFaultImpl, syncEnter_lib]
  by_cases henabled : s.lib.supervisionEnabled = 0
  · simp [henabled, Lib.passes]
  by_cases hlatch : s.lib.health.faultIsLatchedUnsafe entity reason = true
  · simp [henabled, hlatch, Lib.passes]
  by_cases hfailed : s.lib.health.snapshotFailed entity = true
  · simp [henabled, hlatch, hfailed, Lib.passes]
  rw [if_neg henabled, if_neg hlatch, if_neg hfailed]
  rw [Bool.not_eq_true] at hlatch hfailed
  have hpasses : s.lib.passes entity reason := ⟨henabled, hlatch, hfailed⟩
  have hput : ∀ report, (enqueueFailureUnsafe (getNowMs (syncEnter s)).2 report).2.lib.queue =
      (s.lib.queue.putUnsafe report).2 := by
    intro report
    simp only [enqueueFailureUnsafe]
    split <;> simp
  rw [if_pos hpasses]
  split
  · rw [syncExit_lib]
    exact hput _
  · rw [syncExit_lib]
    exact hput _

/-- Only fault reports and the bypass change what is pending in one section. -/
theorem Effect.pending_eq {c : Call} {l l' : Lib B} (he : Effect c l l') (hentry : c.entry = none)
    (hreport : c.reported? = none) (hsupervise : ∀ enabled, c ≠ .setSupervisionEnabled enabled) :
    l'.queue.pending = l.queue.pending := by
  cases he with
  | supervise enabled hcall => exact absurd hcall (hsupervise enabled)
  | handle ans report hcall | put report hcall | dequeue ans report hcall =>
      subst hcall
      cases hentry
  | watch ans id now maxAge hcall =>
      rcases hcall with rfl | rfl <;> cases hentry
  | reject report hput =>
      rw [ne_eq, FailureQueue.putUnsafe_fst_eq_zero_iff, Nat.not_lt] at hput
      simp only [FailureQueue.putUnsafe_of_full hput]
      rfl
  | accept report detail hcall =>
      rw [hreport] at hcall
      cases hcall
  | _ => rfl

theorem after_pending_eq {s : State B} (hs : s.lib.Aligned) {c : Call} (hentry : c.entry = none)
    (hreport : c.reported? = none) (hsupervise : ∀ enabled, c ≠ .setSupervisionEnabled enabled) :
    (after s c).lib.queue.pending = s.lib.queue.pending := by
  refine (after_effect hs ?_ ?_).pending_eq hentry hreport hsupervise
  · rintro rfl
    cases hentry
  · rintro rfl
    cases hentry

/-! ## Turns balance -/

section Balance

variable {s : State B}

theorem reportFaultImpl_balanced (hq : s.lib.queue.Valid) (hcap : B.failureQueueCap ≤ 255)
    (entity : EntityId) (reason : Reason) (errorCode : UInt16) (detail : Option CStr)
    (flags : UInt8) :
    ((reportFaultImpl s entity reason errorCode detail flags).2.lib.queue.pending :
        Multiset FailureReport) =
      s.lib.queue.pending + if s.lib.passes entity reason then
        s.lib.queue.takes (faultReport s entity reason errorCode detail flags) else 0 := by
  rw [reportFaultImpl_queue]
  split
  · exact FailureQueue.pending_put hq hcap _
  · rw [add_zero]

theorem Call.balanced (hs : s.lib.Sound) (hq : s.lib.queue.Valid)
    (hcap : B.failureQueueCap ≤ 255) {c : Call} (hentry : c.entry = none) :
    (s.lib.queue.pending : Multiset FailureReport) + c.accepted s =
      c.discarded s.lib + (after s c).lib.queue.pending := by
  have hquiet : c.reported? = none → (∀ enabled, c ≠ .setSupervisionEnabled enabled) →
      (after s c).lib.queue.pending = s.lib.queue.pending := after_pending_eq hs.limit_eq hentry
  cases c with
  | reportFault entity reason errorCode detail =>
      exact ((zero_add _).trans
        (reportFaultImpl_balanced hq hcap entity reason errorCode detail faultFlagCritical)).symm
  | reportFaultEx entity reason errorCode detail flags =>
      exact ((zero_add _).trans
        (reportFaultImpl_balanced hq hcap entity reason errorCode detail flags)).symm
  | setSupervisionEnabled enabled =>
      have hlib : (after s (.setSupervisionEnabled enabled)).lib = _ :=
        setSupervisionEnabled_lib s enabled
      rw [hlib]
      change _ + 0 = (if s.lib.supervisionEnabled ≠ enabled ∧ enabled = 0 then
        (s.lib.queue.pending : Multiset FailureReport) else 0) + _
      by_cases hsame : s.lib.supervisionEnabled = enabled
      · rw [if_pos hsame, if_neg fun h ↦ h.1 hsame, zero_add, add_zero]
      · by_cases hzero : enabled = 0
        · rw [if_neg hsame, if_pos ⟨hsame, hzero⟩, Lib.supervise, if_pos hzero]
          rfl
        · rw [if_neg hsame, if_neg fun h ↦ hzero h.2, Lib.supervise, if_neg hzero, zero_add,
            add_zero]
  | _ =>
      rw [hquiet rfl fun _ h ↦ by cases h]
      change _ + 0 = 0 + _
      rw [add_zero, zero_add]

theorem Pc.balanced (hs : s.lib.Sound) (hq : s.lib.queue.Valid)
    (hcap : B.failureQueueCap ≤ 255) (pc : Pc) :
    (s.lib.queue.pending : Multiset FailureReport) + pc.holds + pc.accepted s.lib =
      pc.settled + pc.discarded s.lib +
        ((pc.advance s).2.lib.queue.pending + (pc.advance s).1.holds) := by
  -- Most sections neither touch the queue nor hold a report.
  have hquiet : ∀ pc : Pc, pc.holds = 0 → pc.accepted s.lib = 0 → pc.settled = 0 →
      pc.discarded s.lib = 0 → (pc.advance s).2.lib.queue = s.lib.queue →
      (pc.advance s).1.holds = 0 →
      (s.lib.queue.pending : Multiset FailureReport) + pc.holds + pc.accepted s.lib =
        pc.settled + pc.discarded s.lib +
          ((pc.advance s).2.lib.queue.pending + (pc.advance s).1.holds) := by
    intro pc hholds haccepted hsettled hdiscarded hqueue hnext
    rw [hholds, haccepted, hsettled, hdiscarded, hqueue, hnext]
    abel
  have hasked : (supervisionEnabled s).2.lib.queue = s.lib.queue := by
    rw [supervisionEnabled_lib]
  cases pc with
  | idle => exact hquiet _ rfl rfl rfl rfl rfl rfl
  | submitTest report =>
      refine hquiet _ rfl rfl rfl rfl hasked ?_
      simp only [advance]
      split <;> rfl
  | submitPut report =>
      have hput := FailureQueue.pending_put hq hcap report
      simp only [advance, failureQueuePut_lib, holds, accepted, settled, discarded, hput]
      abel
  | tickTest =>
      refine hquiet _ rfl rfl rfl rfl hasked ?_
      simp only [advance]
      split <;> rfl
  | drain =>
      have hpending := FailureQueue.pending_get hq
      cases hget : s.lib.queue.getUnsafe.1 with
      | none =>
          refine hquiet _ rfl rfl rfl rfl ?_ ?_
          · simp only [advance, failureQueueGet_of_none hget, syncExit_lib, syncEnter_lib]
          · simp only [advance, failureQueueGet_of_none hget]
            rfl
      | some report =>
          obtain ⟨hgot, hlib⟩ := failureQueueGet_of_some hget
          rw [hget] at hpending
          simp only [advance, hgot, hlib, holds, accepted, settled, discarded, hpending,
            Option.toList_some, Multiset.coe_singleton]
          abel
  | handleTest report ret =>
      cases ret with
      | drain =>
          simp only [advance, hasked, supervisionEnabled_fst, holds, accepted, settled, discarded]
          split
          · simp only [Return.pc]
            abel
          · simp only [add_zero, zero_add]
      | caller | scan =>
          refine hquiet _ rfl rfl rfl rfl hasked ?_
          simp only [advance]
          split <;> rfl
  | handleLocked report ret =>
      have hqueue : (handleFailureLocked s report).lib.queue = s.lib.queue := by
        rw [handleFailureLocked_lib hs.limit_eq, Lib.handle_queue]
      cases ret with
      | drain =>
          simp only [advance, hqueue, holds, accepted, settled, discarded, Return.pc]
          abel
      | caller | scan => exact hquiet _ rfl rfl rfl rfl hqueue rfl
  | watchClock => exact hquiet _ rfl rfl rfl rfl (by rw [advance, getNowMs_lib]) rfl
  | watchTest readAt nowMs maxAge =>
      refine hquiet _ rfl rfl rfl rfl hasked ?_
      simp only [advance]
      split <;> rfl
  | watchScan readAt nowMs maxAge next =>
      refine hquiet _ rfl rfl rfl rfl (by simp [advance]) ?_
      simp only [advance]
      split <;> rfl
  | gateMode id =>
      refine hquiet _ rfl rfl rfl rfl (by simp [advance]) ?_
      simp only [advance]
      split <;> rfl
  | gateHeartbeat id =>
      refine hquiet _ rfl rfl rfl rfl ?_ rfl
      have hdoes := Pc.does hs.limit_eq (.gateHeartbeat id)
      generalize hlib : ((gateHeartbeat id).advance s).2.lib = l at hdoes
      cases hdoes <;> rfl
  | gateRun id => exact hquiet _ rfl rfl rfl rfl (by simp [advance, entityMayRun_snd]) rfl

end Balance

theorem Pc.holds_idle : Pc.idle.holds = 0 := rfl

theorem Call.holds_entry {c : Call} {pc : Pc} (h : c.entry = some pc) : pc.holds = 0 := by
  unfold Call.entry at h
  split at h <;> cases h <;> rfl

/-- No other thread is affected by a turn of one. -/
theorem held_update {threads : Finset ℕ} {thread : ℕ} (hthread : thread ∈ threads)
    (pcs : ℕ → Pc) (pc : Pc) :
    pc.holds + ∑ t ∈ threads, (pcs t).holds =
      ∑ t ∈ threads, (Function.update pcs thread pc t).holds + (pcs thread).holds := by
  have hcomp : (fun t ↦ (Function.update pcs thread pc t).holds) =
      Function.update (fun t ↦ (pcs t).holds) thread pc.holds := by
    funext t
    exact Function.apply_update (fun _ ↦ Pc.holds) pcs thread pc t
  simp only [hcomp]
  exact sum_update_balance hthread _ _

theorem Machine.balanced {m : Machine B} (hs : m.state.lib.Sound)
    (hq : m.state.lib.queue.Valid) (hcap : B.failureQueueCap ≤ 255) {threads : Finset ℕ}
    {turn : Turn} (hturn : ∀ thread ∈ turn.thread?, thread ∈ threads) :
    m.held threads + m.accepted turn =
      (m.settled turn + m.discarded turn) + (m.step turn).held threads := by
  cases turn with
  | call thread c =>
      by_cases hidle : m.pcs thread = .idle
      · simp only [accepted, settled, discarded, if_pos hidle, held, zero_add]
        cases hentry : c.entry with
        | none =>
            have hcall := Call.balanced hs hq hcap hentry
            rw [step_of_single hidle hentry, add_right_comm, hcall, add_assoc]
        | some pc =>
            have hupdate := held_update (hturn thread rfl) m.pcs pc
            rw [Call.holds_entry hentry, hidle, Pc.holds_idle, add_zero,
              zero_add] at hupdate
            have hnone : c.accepted m.state = 0 ∧ c.discarded m.state.lib = 0 := by
              cases c <;> first | exact ⟨rfl, rfl⟩ | cases hentry
            rw [step_of_entry hidle hentry, hnone.1, hnone.2, add_zero, zero_add, hupdate]
      · simp only [accepted, settled, discarded, if_neg hidle, step_of_busy hidle, add_zero,
          zero_add]
  | advance thread =>
      have hpc := Pc.balanced hs hq hcap (m.pcs thread)
      have hupdate := held_update (hturn thread rfl) m.pcs ((m.pcs thread).advance m.state).1
      simp only [accepted, settled, discarded, held, step]
      refine add_right_cancel (b := (m.pcs thread).holds) ?_
      calc _ = (m.state.lib.queue.pending + (m.pcs thread).holds +
              (m.pcs thread).accepted m.state.lib) + ∑ t ∈ threads, (m.pcs t).holds := by
            abel
        _ = (m.pcs thread).settled + (m.pcs thread).discarded m.state.lib +
              ((m.pcs thread).advance m.state).2.lib.queue.pending +
                (((m.pcs thread).advance m.state).1.holds + ∑ t ∈ threads, (m.pcs t).holds) := by
            rw [hpc]
            abel
        _ = _ := by
            rw [hupdate]
            abel
  | elapse ms =>
      simp only [accepted, settled, discarded, add_zero, zero_add]
      rfl

/-! ## Runs -/

theorem mem_threadsOf {turns : List Turn} {turn : Turn} (hturn : turn ∈ turns) {thread : ℕ}
    (hthread : turn.thread? = some thread) : thread ∈ threadsOf turns :=
  List.mem_toFinset.mpr (List.mem_filterMap.mpr ⟨turn, hturn, hthread⟩)

/-- With a queue of at most 255 reports, from a successful `fdir_init` on and after any
turns of any threads: the reports accepted so far are exactly those that were settled,
those the bypass discarded, those pending, and those in the hands of a draining thread. -/
theorem reports_accounted (clock : ℕ) (pace : List Obs → ℕ) (config : Option Config)
    (lock unlock : Bool) (turns : List Turn) (hcap : B.failureQueueCap ≤ 255) :
    let start : Machine B := .started clock pace config lock unlock
    Run.tally Machine.step Machine.accepted start turns =
      Run.tally Machine.step Machine.settled start turns +
        Run.tally Machine.step Machine.discarded start turns +
          (Run.run Machine.step start turns).held (threadsOf turns) := by
  intro start
  have hempty : start.held (threadsOf turns) = 0 := by
    simp only [start, Machine.held, Machine.started, Pc.holds_idle, Finset.sum_const_zero,
      add_zero]
    rfl
  have hmem : Run.Along Machine.step (fun _ turn ↦ turn ∈ turns) start turns :=
    Run.along_of_forall (fun _ _ h ↦ h) fun _ h ↦ h
  have hbalanced : Run.Along Machine.step (fun m turn ↦
      m.held (threadsOf turns) + m.accepted turn =
        (m.settled turn + m.discarded turn) + (m.step turn).held (threadsOf turns))
      start turns := by
    refine Run.along_of_invariant
      (fun m : Machine B ↦ m.state.lib.Sound ∧ m.state.lib.queue.Valid) ?_ ?_ ?_ hmem
    · rintro m turn ⟨hs, hq⟩ _
      exact ⟨(m.stride turn).sound hs, Machine.valid_step hs hq turn⟩
    · rintro m turn ⟨hs, hq⟩ hturn
      exact Machine.balanced hs hq hcap fun thread hthread ↦ mem_threadsOf hturn hthread
    · exact ⟨started_sound clock pace config lock unlock,
        FailureQueue.valid_init B.failureQueueCap_pos⟩
  have htotal := Run.tally_balanced hbalanced
  rw [hempty, zero_add, Run.tally_add] at htotal
  exact htotal

/-- Of two reports one is settled by a tick, and the bypass discards the other. -/
theorem reports_accounted_bypass :
    let start : Machine .default := .started 0 (fun _ ↦ 1) none true true
    let turns : List Turn := [.call 0 (.submitFailure (some .zero)), .advance 0, .advance 0,
      .call 0 (.reportFault 7 .timeout 0 none), .call 1 .supervisorTick, .advance 1, .advance 1,
      .advance 1, .advance 1, .call 2 (.setSupervisionEnabled 0)]
    Run.tally Machine.step Machine.accepted start turns =
      Run.tally Machine.step Machine.settled start turns +
        Run.tally Machine.step Machine.discarded start turns +
          (Run.run Machine.step start turns).held (threadsOf turns) :=
  reports_accounted 0 (fun _ ↦ 1) none true true _ (by decide)

end Fdir
