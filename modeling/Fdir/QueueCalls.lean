import Fdir.Effects
import Fdir.Foundation.Fifo
import Fdir.Foundation.Run

/-!
# The failure queue as a list

The calls of `failure_queue.h` run in step with a first-in first-out list of at
most `FDIR_FAILURE_QUEUE_CAP` reports.  The queue answers as the list does
exactly as long as its 8-bit counter does not wrap, which it can under a
capacity above 255 only.
-/

namespace Fdir

open Foundation

variable {B : Build}

def failureQueuePendingCount (s : State B) : UInt8 × State B :=
  let s := syncEnter s
  (s.lib.queue.count, syncExit s)

/-- A call of the queue.  A report that is `none`, or an output pointer that is
`false`, is NULL. -/
inductive QueueCall where
  | put (report : Option FailureReport)
  | putUnsafe (report : Option FailureReport)
  | get (out : Bool)
  | init
  deriving DecidableEq, Repr

/-- The return code of a put, and the report a get stores. -/
inductive QueueReply where
  | unit
  | code (rc : ℤ)
  | report (got : Option FailureReport)
  deriving DecidableEq, Repr

namespace QueueCall

def exec (s : State B) : QueueCall → QueueReply × State B
  | .put none => (.code (-1), syncExit (syncEnter s))
  | .put (some report) => let put := failureQueuePut s report; (.code put.1, put.2)
  | .putUnsafe none => (.code (-1), s)
  | .putUnsafe (some report) =>
      let put := s.lib.queue.putUnsafe report
      (.code put.1, s.write fun l ↦ { l with queue := put.2 })
  | .get false => (.report none, s)
  | .get true => let got := failureQueueGet s; (.report got.1, got.2)
  | .init => (.unit, s.write fun l ↦ { l with queue := .init })

/-- The reply of a call and the ring buffer it leaves, the port lock aside. -/
def ring {cap : ℕ} (q : FailureQueue cap) : QueueCall → QueueReply × FailureQueue cap
  | .put none | .putUnsafe none => (.code (-1), q)
  | .put (some report) | .putUnsafe (some report) =>
      let put := q.putUnsafe report
      (.code put.1, put.2)
  | .get false => (.report none, q)
  | .get true => let got := q.getUnsafe; (.report got.1, got.2)
  | .init => (.unit, .init)

/-- What a list of capacity `cap` makes of the call. -/
def spec (cap : ℕ) (f : Fifo FailureReport) : QueueCall → QueueReply × Fifo FailureReport
  | .put none | .putUnsafe none => (.code (-1), f)
  | .put (some report) | .putUnsafe (some report) =>
      let put := f.put cap report
      (.code (if put.1 then 0 else -1), put.2)
  | .get false => (.report none, f)
  | .get true => let got := f.get; (.report got.1, got.2)
  | .init => (.unit, .empty)

/-- The report a call offers to the queue. -/
def offers : QueueCall → Option FailureReport
  | .put report | .putUnsafe report => report
  | .get _ | .init => none

/-- The reports accepted since the last initialisation, after the call has given
this reply. -/
def accepted (log : List FailureReport) (c : QueueCall) (reply : QueueReply) :
    List FailureReport :=
  match c with
  | .init => []
  | _ => if reply = .code 0 then log ++ c.offers.toList else log

/-- The reports got since the last initialisation, after the call has given this
reply. -/
def got (log : List FailureReport) (c : QueueCall) (reply : QueueReply) : List FailureReport :=
  match c, reply with
  | .init, _ => []
  | _, .report out => log ++ out.toList
  | _, _ => log

theorem exec_eq_ring (s : State B) (c : QueueCall) :
    (c.exec s).1 = (c.ring s.lib.queue).1 ∧
      (c.exec s).2.lib.queue = (c.ring s.lib.queue).2 := by
  cases c with
  | put report => cases report <;> simp [exec, ring, failureQueuePut]
  | putUnsafe report => cases report <;> simp [exec, ring]
  | get out =>
      cases out with
      | false => exact ⟨rfl, rfl⟩
      | true =>
          cases hget : s.lib.queue.getUnsafe.1 with
          | none =>
              simp only [exec, ring, failureQueueGet_of_none hget, hget, syncExit_lib,
                syncEnter_lib, FailureQueue.getUnsafe_of_none hget, and_self]
          | some report =>
              obtain ⟨hgot, hlib⟩ := failureQueueGet_of_some hget
              simp only [exec, ring, hgot, hlib, hget, and_self]
  | init => exact ⟨rfl, rfl⟩

end QueueCall

/-! ## Queue and list in step -/

/-- The ring stands for the list. -/
structure FailureQueue.Holds {cap : ℕ} (q : FailureQueue cap) (f : Fifo FailureReport) : Prop where
  valid : q.Valid
  pending : q.pending = f.items
  latch : q.fullLatched = f.rejected

namespace FailureQueue.Holds

variable {cap : ℕ} {q : FailureQueue cap} {f : Fifo FailureReport}

theorem putUnsafe (h : q.Holds f) (hcount : q.count = 255 → cap ≤ 255) (report : FailureReport) :
    (q.putUnsafe report).1 = (if (f.put cap report).1 then 0 else -1) ∧
      (q.putUnsafe report).2.Holds (f.put cap report).2 := by
  rcases Nat.lt_or_ge q.pending.length cap with hroom | hfull
  · have hcounter : q.pending.length < 255 := by
      refine lt_of_le_of_ne q.length_pending_le fun hwrap ↦ ?_
      have hlast : q.count = 255 := by
        rw [← UInt8.toNat_inj, ← length_pending, hwrap]
        rfl
      have hcap := hcount hlast
      omega
    obtain ⟨hvalid, hafter⟩ := putUnsafe_of_room h.valid hroom hcounter report
    rw [Fifo.put_of_lt (h.pending ▸ hroom)]
    refine ⟨(putUnsafe_fst_eq_zero_iff q report).mpr hroom, hvalid, ?_, ?_⟩
    · rw [hafter, h.pending]
    · have hopen : ¬ cap ≤ q.count.toNat := by
        rw [← length_pending]
        exact Nat.not_le.mpr hroom
      simp only [FailureQueue.putUnsafe, if_neg hopen]
      exact h.latch
  · rw [putUnsafe_of_full hfull, Fifo.put_of_le (h.pending ▸ hfull)]
    exact ⟨rfl, ⟨h.valid.depth_pos, h.valid.head_lt, h.valid.count_le, h.valid.tail_eq⟩,
      h.pending, rfl⟩

theorem getUnsafe (h : q.Holds f) :
    q.getUnsafe.1 = f.get.1 ∧ q.getUnsafe.2.Holds f.get.2 := by
  cases hitems : f.items with
  | nil =>
      rw [getUnsafe_of_nil (h.pending.trans hitems), Fifo.get_of_nil hitems]
      exact ⟨rfl, h⟩
  | cons report rest =>
      obtain ⟨hfirst, hvalid, hrest⟩ := getUnsafe_of_cons h.valid (h.pending.trans hitems)
      rw [Fifo.get_of_cons hitems]
      refine ⟨hfirst, hvalid, hrest, ?_⟩
      rw [← h.latch]
      simp only [FailureQueue.getUnsafe]
      split <;> rfl

theorem ring (h : q.Holds f) (hcap : 0 < cap) {c : QueueCall}
    (hcounted : c.offers.isSome → q.count = 255 → cap ≤ 255) :
    (c.ring q).1 = (c.spec cap f).1 ∧ (c.ring q).2.Holds (c.spec cap f).2 := by
  cases c with
  | put report | putUnsafe report =>
      cases report with
      | none => exact ⟨rfl, h⟩
      | some report =>
          obtain ⟨hcode, hholds⟩ := h.putUnsafe (hcounted rfl) report
          exact ⟨congrArg QueueReply.code hcode, hholds⟩
  | get out =>
      cases out with
      | false => exact ⟨rfl, h⟩
      | true =>
          obtain ⟨hgot, hholds⟩ := h.getUnsafe
          exact ⟨congrArg QueueReply.report hgot, hholds⟩
  | init => exact ⟨rfl, valid_init hcap, rfl, rfl⟩

end FailureQueue.Holds

theorem QueueCall.ledger {cap : ℕ} {accepted got : List FailureReport} {f : Fifo FailureReport}
    (h : Fifo.Ledger cap accepted got f) (c : QueueCall) :
    Fifo.Ledger cap (c.accepted accepted (c.spec cap f).1) (c.got got (c.spec cap f).1)
      (c.spec cap f).2 := by
  cases c with
  | put report | putUnsafe report =>
      cases report with
      | none => simpa [QueueCall.accepted, QueueCall.got, QueueCall.spec] using h
      | some report =>
          have hput := h.put report
          cases haccepted : (f.put cap report).1 <;>
            simpa [QueueCall.accepted, QueueCall.got, QueueCall.spec, QueueCall.offers,
              haccepted] using hput
  | get out =>
      cases out with
      | false => simpa [QueueCall.accepted, QueueCall.got, QueueCall.spec] using h
      | true => simpa [QueueCall.accepted, QueueCall.got, QueueCall.spec] using h.get
  | init => exact .empty cap

/-- The queue, the list, and the record of what the queue accepted and yielded. -/
structure Lockstep (B : Build) where
  state : State B
  fifo : Fifo FailureReport
  accepted : List FailureReport
  got : List FailureReport

namespace Lockstep

def step (k : Lockstep B) (c : QueueCall) : Lockstep B where
  state := (c.exec k.state).2
  fifo := (c.spec B.failureQueueCap k.fifo).2
  accepted := c.accepted k.accepted (c.exec k.state).1
  got := c.got k.got (c.exec k.state).1

/-- Queue and list after an initialisation in any state. -/
def start (s : State B) : Lockstep B := ⟨(QueueCall.init.exec s).2, .empty, [], []⟩

/-- The call is answered as by the list; afterwards the count and the full latch are
those of the list, which respects the capacity, and what was got is a prefix of
what was accepted. -/
structure Refines (k : Lockstep B) (c : QueueCall) : Prop where
  reply : (c.exec k.state).1 = (c.spec B.failureQueueCap k.fifo).1
  count : (failureQueuePendingCount (k.step c).state).1.toNat = (k.step c).fifo.items.length
  latch : (failureQueueFullLatched (k.step c).state).1 = (k.step c).fifo.rejected
  bounded : (k.step c).fifo.items.length ≤ B.failureQueueCap
  got_prefix : (k.step c).got <+: (k.step c).accepted

/-- No report is offered to a queue that holds 255 and takes more. -/
def Counted (k : Lockstep B) (c : QueueCall) : Prop :=
  c.offers.isSome → k.state.lib.queue.count = 255 → B.failureQueueCap ≤ 255

/-- The queue stands for the list, and the record accounts for it. -/
structure Simulates (k : Lockstep B) : Prop where
  holds : k.state.lib.queue.Holds k.fifo
  ledger : Fifo.Ledger B.failureQueueCap k.accepted k.got k.fifo

theorem simulates_start (s : State B) : (start s).Simulates where
  holds := ⟨FailureQueue.valid_init B.failureQueueCap_pos, rfl, rfl⟩
  ledger := .empty _

namespace Simulates

variable {k : Lockstep B} (h : k.Simulates) {c : QueueCall}

include h

theorem exec (hcounted : k.Counted c) :
    (c.exec k.state).1 = (c.spec B.failureQueueCap k.fifo).1 ∧ (k.step c).Simulates := by
  obtain ⟨hreply, hqueue⟩ := c.exec_eq_ring k.state
  obtain ⟨hspec, hholds⟩ := h.holds.ring B.failureQueueCap_pos hcounted
  have hanswer := hreply.trans hspec
  refine ⟨hanswer, ?_, ?_⟩
  · rw [step, hqueue]
    exact hholds
  · rw [step, hanswer]
    exact c.ledger h.ledger

theorem length_items_le : k.fifo.items.length ≤ 255 := by
  rw [← h.holds.pending]
  exact FailureQueue.length_pending_le _

theorem refines (hcounted : k.Counted c) : k.Refines c := by
  obtain ⟨hreply, hholds, hledger⟩ := h.exec hcounted
  refine ⟨hreply, ?_, ?_, hledger.bounded, hledger.yielded_prefix⟩
  · rw [← hholds.pending, FailureQueue.length_pending]
    simp [failureQueuePendingCount]
  · rw [← hholds.latch]
    simp [failureQueueFullLatched]

/-- The list takes a report its counterpart has no number for. -/
theorem counted (hrefines : k.Refines c) : k.Counted c := by
  intro hoffers hcount
  by_contra hcap
  have hlength : k.fifo.items.length = 255 := by
    rw [← h.holds.pending, FailureQueue.length_pending, hcount]
    rfl
  obtain ⟨report, hreport⟩ := Option.isSome_iff_exists.mp hoffers
  have hroom : k.fifo.items.length < B.failureQueueCap := by omega
  have hgrown : (k.step c).fifo.items.length = 256 := by
    cases c with
    | put offered | putUnsafe offered =>
        obtain rfl : offered = some report := hreport
        simp [step, QueueCall.spec, Fifo.put_of_lt hroom, hlength]
    | get | init => cases hreport
  have hbound := (failureQueuePendingCount (k.step c).state).1.toNat_lt
  rw [hrefines.count, hgrown] at hbound
  omega

end Simulates

theorem length_items_burst (k : Lockstep B) (report : FailureReport) {n : ℕ}
    (hroom : k.fifo.items.length + n ≤ B.failureQueueCap) :
    (Run.run step k (List.replicate n (.put (some report)))).fifo.items.length =
      k.fifo.items.length + n := by
  induction n generalizing k with
  | zero => rfl
  | succ n ih =>
      have hnext : (k.step (.put (some report))).fifo.items.length =
          k.fifo.items.length + 1 := by
        have hfirst : k.fifo.items.length < B.failureQueueCap := by omega
        simp [step, QueueCall.spec, Fifo.put_of_lt hfirst]
      rw [List.replicate_succ, Run.run_cons, ih _ (by omega), hnext]
      omega

/-- An empty queue cannot count a burst of more than 255 reports it has room for. -/
theorem not_refines_burst {k : Lockstep B} (h : k.Simulates) (hempty : k.fifo.items = [])
    (report : FailureReport) {n : ℕ} (hburst : 255 < n) (hroom : n ≤ B.failureQueueCap) :
    ¬ Run.Along step Refines k (List.replicate n (.put (some report))) := by
  intro hrefines
  have hend := hrefines.invariant Simulates
    (fun _ _ hsim hstep ↦ (hsim.exec (hsim.counted hstep)).2) h
  have hlength := length_items_burst k report
    (show _ + n ≤ _ by rwa [hempty, List.length_nil, zero_add])
  have hcount := hend.length_items_le
  rw [hlength, hempty, List.length_nil, zero_add] at hcount
  omega

end Lockstep

/-- For every capacity and every sequence of calls after an initialisation: the queue
answers as a list of at most `FDIR_FAILURE_QUEUE_CAP` reports throughout, if and only
if no report is offered to a queue that holds 255 and takes more. -/
theorem queue_refines_fifo_iff (s : State B) (calls : List QueueCall) :
    Run.Along Lockstep.step Lockstep.Refines (Lockstep.start s) calls ↔
      Run.Along Lockstep.step Lockstep.Counted (Lockstep.start s) calls :=
  Run.along_congr Lockstep.Simulates (fun _ _ h hrefines ↦ (h.exec (h.counted hrefines)).2)
    (fun _ _ h ↦ ⟨h.counted, h.refines⟩) (Lockstep.simulates_start s)

/-- A build whose queue has one slot more than its counter counts. -/
def Build.wideQueue : Build := { Build.default with
  failureQueueCap := 256
  failureQueueCap_pos := by decide }

/-- 256 accepted reports are counted as none. -/
theorem queue_forgets_burst :
    ¬ Run.Along Lockstep.step Lockstep.Refines
      (Lockstep.start (State.powerOn 0 fun _ ↦ 0) : Lockstep .wideQueue)
      (List.replicate 256 (.put (some .zero))) :=
  Lockstep.not_refines_burst (Lockstep.simulates_start _) rfl _ (by decide) (by decide)

end Fdir
