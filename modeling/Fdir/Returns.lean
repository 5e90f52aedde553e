import Fdir.Accounts
import Fdir.Watch

/-!
# Every call returns

A call of several critical sections has only so many of them left, apart from the reports
that a tick still finds in the queue.  Whatever the other threads do, a tick is therefore kept
busy only by new reports, and every call returns.
-/

namespace Fdir

open Foundation

variable {B : Build}

/-- The sections a scan has left from index `next` on, with three for each entity. -/
def scanWork (cap next : ℕ) : ℕ := 3 * (cap - next) + 1

/-- The sections a tick has left if it finds the queue empty. -/
def drainWork (cap : ℕ) : ℕ := scanWork cap 0 + 3

def Return.work (cap : ℕ) : Return → ℕ
  | .caller => 0
  | .drain => drainWork cap
  | .scan _ _ _ next => scanWork cap next

/-- The sections that a call in progress has left if it finds no report in the queue. -/
def Pc.work (cap : ℕ) : Pc → ℕ
  | .idle => 0
  | .submitPut _ | .gateHeartbeat _ | .gateRun _ => 1
  | .submitTest _ | .gateMode _ => 2
  | .tickTest => drainWork cap + 1
  | .drain => drainWork cap
  | .handleTest _ ret => ret.work cap + 2
  | .handleLocked _ ret => ret.work cap + 1
  | .watchClock => scanWork cap 0 + 2
  | .watchTest .. => scanWork cap 0 + 1
  | .watchScan _ _ _ next => scanWork cap next

theorem Return.work_pc (cap : ℕ) (ret : Return) : ret.pc.work cap = ret.work cap := by
  cases ret <;> rfl

theorem Pc.work_le (cap : ℕ) (pc : Pc) : pc.work cap ≤ 3 * cap + 6 := by
  cases pc with
  | handleTest report ret | handleLocked report ret =>
      cases ret <;> simp only [work, Return.work, drainWork, scanWork] <;> omega
  | _ =>
      simp only [work, drainWork, scanWork]
      omega

/-- The turn is one of the thread in its call. -/
def Turn.moves (thread : ℕ) : Turn → Bool
  | .advance t => t = thread
  | _ => false

/-! ## One section -/

section Sections

variable {s : State B} {pc : Pc}

theorem Does.pending_le {l l' : Lib B} (hq : l.queue.Valid) (h : Does l pc l') :
    l'.queue.pending.length ≤ l.queue.pending.length + (pc.accepted l).card := by
  cases h with
  | same | beat => exact Nat.le_add_right _ _
  | put report => exact l.queue.length_put_le report
  | get =>
      have hget := congrArg Multiset.card (FailureQueue.pending_get hq)
      rw [Multiset.card_add, Multiset.coe_card, Multiset.coe_card, Multiset.coe_card] at hget
      exact le_trans (le_trans (Nat.le_add_left _ _) hget.ge) (Nat.le_add_right _ _)
  | handle ans report ret =>
      rw [Lib.handle_queue]
      exact Nat.le_add_right _ _

theorem reportFaultImpl_pending_le (s : State B) (entity : EntityId) (reason : Reason)
    (errorCode : UInt16) (detail : Option CStr) (flags : UInt8) :
    (reportFaultImpl s entity reason errorCode detail flags).2.lib.queue.pending.length ≤
      s.lib.queue.pending.length + (if s.lib.passes entity reason then
        s.lib.queue.takes (faultReport s entity reason errorCode detail flags) else 0).card := by
  rw [reportFaultImpl_queue]
  split
  · exact s.lib.queue.length_put_le _
  · exact Nat.le_add_right _ _

theorem Call.pending_le (hs : s.lib.Sound) {c : Call} (hentry : c.entry = none) :
    (after s c).lib.queue.pending.length ≤
      s.lib.queue.pending.length + (c.accepted s).card := by
  have hquiet : c.reported? = none → (∀ enabled, c ≠ .setSupervisionEnabled enabled) →
      (after s c).lib.queue.pending.length ≤ s.lib.queue.pending.length + (c.accepted s).card :=
    fun hreport hsupervise ↦ Nat.le_add_right_of_le
      (after_pending_eq hs.limit_eq hentry hreport hsupervise ▸ le_refl _)
  cases c with
  | reportFault entity reason errorCode detail =>
      exact reportFaultImpl_pending_le s entity reason errorCode detail faultFlagCritical
  | reportFaultEx entity reason errorCode detail flags =>
      exact reportFaultImpl_pending_le s entity reason errorCode detail flags
  | setSupervisionEnabled enabled =>
      have hlib : (after s (.setSupervisionEnabled enabled)).lib = _ :=
        setSupervisionEnabled_lib s enabled
      rw [hlib]
      refine Nat.le_add_right_of_le ?_
      split
      · exact le_refl _
      · rw [Lib.supervise]
        split
        · exact Nat.zero_le _
        · exact le_refl _
  | _ => exact hquiet rfl fun _ ↦ Call.noConfusion

/-- A section brings the call nearer to its end, unless it takes a report off the queue. -/
theorem Pc.work_advance (hs : s.lib.Sound) (hpc : pc ≠ .idle) :
    ((pc.advance s).1.work B.entityCap + 1 ≤ pc.work B.entityCap) ∨
      pc = .drain ∧ s.lib.queue.getUnsafe.1 ≠ none ∧
        (pc.advance s).1.work B.entityCap = pc.work B.entityCap + 2 := by
  cases pc with
  | idle => exact absurd rfl hpc
  | submitPut | gateHeartbeat | gateRun => exact Or.inl (le_refl _)
  | submitTest | tickTest | gateMode | watchTest =>
      left
      simp only [advance]
      split <;> simp [work]
  | drain =>
      cases hget : s.lib.queue.getUnsafe.1 with
      | none =>
          left
          simp only [advance, failureQueueGet_of_none hget]
          exact le_refl _
      | some report =>
          right
          simp only [advance, (failureQueueGet_of_some hget).1]
          exact ⟨trivial, Option.some_ne_none report, rfl⟩
  | handleTest report ret =>
      left
      simp only [advance]
      split
      · rw [ret.work_pc]
        exact Nat.le_succ _
      · exact le_refl _
  | handleLocked report ret =>
      left
      exact (congrArg (· + 1) (ret.work_pc _)).le
  | watchClock => exact Or.inl (le_refl _)
  | watchScan readAt nowMs maxAge next =>
      left
      simp only [advance, syncEnter_lib]
      cases hfirst : firstDue s.lib nowMs maxAge next with
      | none => simp [work, scanWork]
      | some i =>
          obtain ⟨hi, ⟨hnext, hknown, -⟩, -⟩ := (firstDue_eq_some_iff _ _ _ _ _).mp hfirst
          have hcount := hs.count_le
          rw [UInt8.lt_iff_toNat_lt] at hknown
          simp only [work, Return.work, scanWork]
          omega

end Sections

/-! ## Turns -/

/-- What a thread in a call still has to do, with three sections for every pending report. -/
def Machine.burden (m : Machine B) (thread : ℕ) : ℕ :=
  (m.pcs thread).work B.entityCap + 3 * m.state.lib.queue.pending.length

namespace Machine

variable {m : Machine B} {turn : Turn}

theorem pending_step_le (hs : m.state.lib.Sound) (hq : m.state.lib.queue.Valid) (turn : Turn) :
    (m.step turn).state.lib.queue.pending.length ≤
      m.state.lib.queue.pending.length + (m.accepted turn).card := by
  cases turn with
  | call thread c =>
      by_cases hidle : m.pcs thread = .idle
      · cases hentry : c.entry with
        | none =>
            rw [step_of_single hidle hentry, accepted, if_pos hidle]
            exact Call.pending_le hs hentry
        | some pc =>
            rw [step_of_entry hidle hentry]
            exact Nat.le_add_right _ _
      · rw [step_of_busy hidle]
        exact Nat.le_add_right _ _
  | advance thread => exact (Pc.does hs.limit_eq (m.pcs thread)).pending_le hq
  | elapse ms => exact Nat.le_add_right _ _

/-- A turn of the thread lightens its burden; a turn of another adds what it puts into the
queue. -/
theorem burden_step_le (hs : m.state.lib.Sound) (hq : m.state.lib.queue.Valid) {thread : ℕ}
    (hthread : m.pcs thread ≠ .idle) :
    (if turn.moves thread then 1 else 0) + (m.step turn).burden thread ≤
      m.burden thread + 3 * (m.accepted turn).card := by
  have hpending := pending_step_le hs hq turn
  by_cases hmoves : turn.moves thread
  · cases turn with
    | advance t =>
        have ht : t = thread := of_decide_eq_true hmoves
        subst ht
        have hpc : (m.step (.advance t)).pcs t = ((m.pcs t).advance m.state).1 :=
          Function.update_self _ _ _
        rw [if_pos hmoves]
        unfold burden
        rw [hpc]
        rcases Pc.work_advance hs hthread with hless | ⟨hdrain, hget, hmore⟩
        · omega
        · have hgot : (m.step (.advance t)).state.lib.queue.pending.length + 1 =
              m.state.lib.queue.pending.length := by
            obtain ⟨report, hreport⟩ := Option.ne_none_iff_exists'.mp hget
            have hlib : (m.step (.advance t)).state.lib.queue = m.state.lib.queue.getUnsafe.2 := by
              simp only [step, hdrain, Pc.advance, (failureQueueGet_of_some hreport).2]
            have hcard := congrArg Multiset.card (FailureQueue.pending_get hq)
            rw [hreport] at hcard
            rw [hlib]
            simpa [add_comm] using hcard.symm
          omega
    | call | elapse => cases hmoves
  · have hsame : (m.step turn).pcs thread = m.pcs thread := by
      cases turn with
      | call caller c =>
          by_cases hidle : m.pcs caller = .idle
          · cases hentry : c.entry with
            | none => rw [step_of_single hidle hentry]
            | some pc =>
                rw [step_of_entry hidle hentry]
                refine Function.update_of_ne ?_ _ _
                rintro rfl
                exact hthread hidle
          · rw [step_of_busy hidle]
      | advance t => exact Function.update_of_ne (fun h ↦ hmoves (decide_eq_true h.symm)) _ _
      | elapse ms => rfl
    rw [if_neg hmoves]
    unfold burden
    rw [hsame]
    omega

end Machine

/-! ## Runs -/

/-- From a successful `fdir_init` on: while a thread is inside a call, whatever the others do,
it goes through at most `3 * FDIR_ENTITY_CAP + 6` critical sections, and three more for every
report that was in the queue or comes into it in the meantime. -/
theorem call_returns (clock : ℕ) (pace : List Obs → ℕ) (config : Option Config)
    (lock unlock : Bool) (turns more : List Turn) (thread : ℕ) :
    let m : Machine B := Run.run Machine.step (.started clock pace config lock unlock) turns
    Run.Along Machine.step (fun m _ ↦ m.pcs thread ≠ .idle) m more →
      more.countP (Turn.moves thread) ≤ 3 * B.entityCap + 6 +
        3 * (m.state.lib.queue.pending.length +
          (Run.tally Machine.step Machine.accepted m more).card) := by
  intro m hbusy
  have hkept : m.state.lib.Sound ∧ m.state.lib.queue.Valid :=
    Machine.valid_run (started_sound clock pace config lock unlock)
      (FailureQueue.valid_init B.failureQueueCap_pos) turns
  have hpaid : Run.Along Machine.step (fun m turn ↦
      (if turn.moves thread then 1 else 0) + (m.step turn).burden thread + 0 ≤
        m.burden thread + 0 + 3 * (m.accepted turn).card) m more := by
    refine Run.along_of_invariant
      (fun m : Machine B ↦ m.state.lib.Sound ∧ m.state.lib.queue.Valid) ?_ ?_ hkept hbusy
    · rintro m turn ⟨hs, hq⟩ -
      exact ⟨(m.stride turn).sound hs, Machine.valid_step hs hq turn⟩
    · rintro m turn ⟨hs, hq⟩ hthread
      exact Machine.burden_step_le hs hq hthread
  have htotal := Run.tally_paid (fun m : Machine B ↦ m.burden thread) (fun _ ↦ 0) hpaid
  have hcount : Run.tally Machine.step (fun _ turn ↦ if turn.moves thread then 1 else 0) m more =
      more.countP (Turn.moves thread) := Run.tally_count _ _ _
  have haccepted : Run.tally Machine.step (fun m turn ↦ 3 * (Machine.accepted m turn).card) m
      more = 3 * (Run.tally Machine.step Machine.accepted m more).card :=
    Run.tally_map ((AddMonoidHom.mulLeft 3).comp Multiset.cardHom) Machine.accepted m more
  have hwork := Pc.work_le B.entityCap (m.pcs thread)
  rw [hcount, haccepted, add_zero, add_zero] at htotal
  unfold Machine.burden at htotal
  omega

/-- A tick that finds one report and gets another one takes nine sections. -/
theorem call_returns_nine :
    let m : Machine .default := Run.run Machine.step (.started 0 (fun _ ↦ 1) none true true)
      [.call 0 (.reportFault 7 .timeout 0 none), .call 1 .supervisorTick]
    let more : List Turn := [.advance 1, .advance 1, .call 0 (.reportFault 7 .timeout 0 none),
      .advance 1, .advance 1, .advance 1, .advance 1, .advance 1, .advance 1, .advance 1]
    9 ≤ 3 * 16 + 6 + 3 * (m.state.lib.queue.pending.length +
      (Run.tally Machine.step Machine.accepted m more).card) := by
  intro m more
  refine call_returns (B := .default) 0 (fun _ ↦ 1) none true true
    [.call 0 (.reportFault 7 .timeout 0 none), .call 1 .supervisorTick] more 1 ?_
  decide +kernel

end Fdir
