import Fdir.Types
import Fdir.Foundation.Channel
import Fdir.Foundation.Condition
import Fdir.Foundation.Ring
import Fdir.Foundation.Run

/-!
# The job queue of fcopy

The tree walker pushes jobs into a bounded ring, workers pop them, and a thread that finds no
room or no job sleeps on a condition variable.  Under every order of the threads and every
choice of the threads woken, the completed calls in their order are a run of an atomic channel
that can be closed, and nobody sleeps who has something to do unless a thread is awake that
will do it.
-/

namespace Fdir.Filecopy

open Foundation

/-- `copy_job_t` -/
structure CopyJob where
  src : CStr
  dst : CStr
  deriving DecidableEq, Repr

/-- `JOB_QUEUE_CAP` -/
def jobQueueCap : ℕ := 4096

theorem jobQueueCap_pos : 0 < jobQueueCap := by decide

/-- The data of `job_queue_t`. -/
structure JobQueue where
  jobs : ℕ → CopyJob
  head : ℕ
  tail : ℕ
  count : ℕ
  producerDone : Bool

def jobQueueInit : JobQueue := ⟨fun _ ↦ ⟨[], []⟩, 0, 0, 0, false⟩

namespace JobQueue

/-- What `job_queue_push` writes once there is room. -/
def push (q : JobQueue) (job : CopyJob) : JobQueue :=
  { q with
    jobs := Function.update q.jobs q.tail job
    tail := (q.tail + 1) % jobQueueCap
    count := q.count + 1 }

/-- What `job_queue_pop` copies out and writes once there is a job. -/
def pop (q : JobQueue) : CopyJob × JobQueue :=
  (q.jobs q.head, { q with
    head := (q.head + 1) % jobQueueCap
    count := q.count - 1 })

def finish (q : JobQueue) : JobQueue := { q with producerDone := true }

/-- The jobs in the queue, oldest first. -/
def pending (q : JobQueue) : List CopyJob := Ring.window q.jobs jobQueueCap q.head q.count

@[simp] theorem length_pending (q : JobQueue) : q.pending.length = q.count :=
  Ring.length_window _ _ _ _

structure Ready (q : JobQueue) : Prop where
  head_lt : q.head < jobQueueCap
  tail_eq : q.tail = (q.head + q.count) % jobQueueCap
  count_le : q.count ≤ jobQueueCap

variable {q : JobQueue}

theorem Ready.init : jobQueueInit.Ready := ⟨jobQueueCap_pos, rfl, Nat.zero_le _⟩

theorem Ready.push (h : q.Ready) (hroom : q.count ≠ jobQueueCap) (job : CopyJob) :
    (q.push job).Ready := by
  have hcount := h.count_le
  refine ⟨h.head_lt, ?_, ?_⟩
  · change (q.tail + 1) % jobQueueCap = (q.head + (q.count + 1)) % jobQueueCap
    rw [h.tail_eq, Nat.mod_add_mod, Nat.add_assoc]
  · change q.count + 1 ≤ jobQueueCap
    omega

theorem Ready.pop (h : q.Ready) (hjobs : q.count ≠ 0) : q.pop.2.Ready := by
  have hcount := h.count_le
  refine ⟨Nat.mod_lt _ jobQueueCap_pos, ?_, ?_⟩
  · change q.tail = ((q.head + 1) % jobQueueCap + (q.count - 1)) % jobQueueCap
    rw [h.tail_eq, Nat.mod_add_mod]
    congr 1
    omega
  · change q.count - 1 ≤ jobQueueCap
    omega

theorem Ready.finish (h : q.Ready) : q.finish.Ready := ⟨h.head_lt, h.tail_eq, h.count_le⟩

theorem Ready.pending_push (h : q.Ready) (hroom : q.count ≠ jobQueueCap) (job : CopyJob) :
    (q.push job).pending = q.pending ++ [job] := by
  have hlt : q.count < jobQueueCap := lt_of_le_of_ne h.count_le hroom
  change Ring.window (Function.update q.jobs q.tail job) _ _ _ = _
  rw [h.tail_eq]
  exact Ring.window_push q.jobs job hlt

theorem Ready.pending_pop (h : q.Ready) (hjobs : q.count ≠ 0) :
    q.pending = q.pop.1 :: q.pop.2.pending := by
  obtain ⟨count, hcount⟩ := Nat.exists_eq_succ_of_ne_zero hjobs
  have hpop := Ring.window_pop q.jobs jobQueueCap q.head count
  rw [Nat.mod_eq_of_lt h.head_lt] at hpop
  rw [pending, hcount, hpop]
  change _ = _ :: Ring.window q.jobs jobQueueCap ((q.head + 1) % jobQueueCap) (q.count - 1)
  rw [hcount]
  rfl

end JobQueue

/-! ## The threads -/

inductive JobCall where
  | push (job : CopyJob)
  | pop
  | finish
  deriving DecidableEq, Repr

/-- Where a thread stands.  It is `pushing` or `popping` while it wants the mutex to test the
loop condition, at its call or after a wake-up. -/
inductive Place where
  | outside
  | pushing (job : CopyJob)
  | notFull (job : CopyJob)
  | popping
  | notEmpty
  | finishing
  deriving DecidableEq, Repr

namespace Place

def sleepsNotFull : Place → Bool
  | .notFull _ => true
  | _ => false

def isPushing : Place → Bool
  | .pushing _ => true
  | _ => false

/-- The thread wants the mutex. -/
def isAwake : Place → Bool
  | .pushing _ | .popping | .finishing => true
  | _ => false

/-- The call the thread is in. -/
def call : Place → Option JobCall
  | .outside => none
  | .pushing job | .notFull job => some (.push job)
  | .popping | .notEmpty => some .pop
  | .finishing => some .finish

/-- `pthread_cond_wait` returns, still without the mutex. -/
def wakes : Place → Place
  | .notFull job => .pushing job
  | .notEmpty => .popping
  | p => p

end Place

/-- The condition variable `not_empty` -/
def notEmpty : Condition Place where
  asleep p := p = .notEmpty
  awake p := p = .popping
  rouse := Place.wakes
  awake_rouse p hp := by
    rw [of_decide_eq_true hp]
    rfl
  not_asleep p hp := by
    rw [of_decide_eq_true hp]
    rfl

/-- The condition variable `not_full` -/
def notFull : Condition Place where
  asleep := Place.sleepsNotFull
  awake := Place.isPushing
  rouse := Place.wakes
  awake_rouse p hp := by
    cases p with
    | notFull job => rfl
    | _ => cases hp
  not_asleep p hp := by
    cases p with
    | pushing job => rfl
    | _ => cases hp

theorem notEmpty_asleep_iff {p : Place} : notEmpty.asleep p ↔ p = .notEmpty := decide_eq_true_iff

theorem notEmpty_awake_iff {p : Place} : notEmpty.awake p ↔ p = .popping := decide_eq_true_iff

theorem notFull_asleep_iff {p : Place} : notFull.asleep p ↔ ∃ job, p = .notFull job := by
  cases p <;> simp [notFull, Place.sleepsNotFull]

theorem notFull_awake_iff {p : Place} : notFull.awake p ↔ ∃ job, p = .pushing job := by
  cases p <;> simp [notFull, Place.isPushing]

/-- The queue, the threads at it, the calls each of them has made, and the effects the calls
have had so far. -/
structure Workshop (T : Type*) where
  queue : JobQueue
  places : T → Place
  calls : T → List JobCall
  log : List (Channel.Event T CopyJob)

/-- A thread calls, takes the mutex and runs until it gives it up, or wakes up for no reason.
In `run`, `woken` are the threads that a signal may wake. -/
inductive Shift (T : Type*) where
  | call (thread : T) (call : JobCall)
  | run (thread : T) (woken : T → Bool)
  | spurious (thread : T)

namespace JobCall

/-- Where a caller waits for the mutex. -/
def entrance : JobCall → Place
  | .push job => .pushing job
  | .pop => .popping
  | .finish => .finishing

theorem isAwake_entrance (c : JobCall) : c.entrance.isAwake := by
  cases c <;> rfl

theorem call_entrance (c : JobCall) : c.entrance.call = some c := by
  cases c <;> rfl

end JobCall

namespace Workshop

variable {T : Type*} [Fintype T] [DecidableEq T]

def start : Workshop T := ⟨jobQueueInit, fun _ ↦ .outside, fun _ ↦ [], []⟩

def goto (s : Workshop T) (thread : T) (p : Place) : Workshop T :=
  { s with places := Function.update s.places thread p }

/-- A caller comes to the mutex. -/
def enter (s : Workshop T) (thread : T) (call : JobCall) : Workshop T :=
  { s with
    places := Function.update s.places thread call.entrance
    calls := Function.update s.calls thread (s.calls thread ++ [call]) }

/-- The thread has written the queue, signals and returns. -/
def leave (s : Workshop T) (thread : T) (c : Condition Place) (woken : T → Bool)
    (queue : JobQueue) (event : Channel.Event T CopyJob) : Workshop T :=
  { s with
    queue := queue
    places := c.wake woken (Function.update s.places thread .outside)
    log := s.log ++ [event] }

/-- One critical section of the thread, from the mutex to its release.  A choice of threads
to wake that a signal does not allow is no step. -/
def run (s : Workshop T) (thread : T) (woken : T → Bool) : Workshop T :=
  match s.places thread with
  | .pushing job =>
      if s.queue.count = jobQueueCap then s.goto thread (.notFull job)
      else if notEmpty.Signals woken s.places then
        s.leave thread notEmpty woken (s.queue.push job) (.put thread job)
      else s
  | .popping =>
      if s.queue.count = 0 ∧ s.queue.producerDone = false then s.goto thread .notEmpty
      else if s.queue.count = 0 then
        s.leave thread notEmpty (fun _ ↦ true) s.queue (.drained thread)
      else if notFull.Signals woken s.places then
        s.leave thread notFull woken s.queue.pop.2 (.take thread s.queue.pop.1)
      else s
  | .finishing => s.leave thread notEmpty (fun _ ↦ true) s.queue.finish (.close thread)
  | .outside | .notFull _ | .notEmpty => s

def step (s : Workshop T) : Shift T → Workshop T
  | .call thread call => if s.places thread = .outside then s.enter thread call else s
  | .run thread woken => s.run thread woken
  | .spurious thread => s.goto thread (s.places thread).wakes

variable {s s' : Workshop T}

/-- What one critical section can do. -/
inductive Critical (s : Workshop T) (thread : T) : Workshop T → Prop
  | full (job : CopyJob) (hplace : s.places thread = .pushing job)
      (hfull : s.queue.count = jobQueueCap) : Critical s thread (s.goto thread (.notFull job))
  | empty (hplace : s.places thread = .popping) (hempty : s.queue.count = 0)
      (hopen : s.queue.producerDone = false) : Critical s thread (s.goto thread .notEmpty)
  | pushed (job : CopyJob) (woken : T → Bool) (hplace : s.places thread = .pushing job)
      (hroom : s.queue.count ≠ jobQueueCap) (hsignals : notEmpty.Signals woken s.places) :
      Critical s thread (s.leave thread notEmpty woken (s.queue.push job) (.put thread job))
  | popped (woken : T → Bool) (hplace : s.places thread = .popping)
      (hjobs : s.queue.count ≠ 0) (hsignals : notFull.Signals woken s.places) :
      Critical s thread
        (s.leave thread notFull woken s.queue.pop.2 (.take thread s.queue.pop.1))
  | drained (hplace : s.places thread = .popping) (hempty : s.queue.count = 0)
      (hdone : s.queue.producerDone = true) :
      Critical s thread (s.leave thread notEmpty (fun _ ↦ true) s.queue (.drained thread))
  | finished (hplace : s.places thread = .finishing) :
      Critical s thread (s.leave thread notEmpty (fun _ ↦ true) s.queue.finish (.close thread))

/-- A thread that has the mutex runs to the release of it, unless the choice of the threads to
wake is not one that its signal allows. -/
theorem critical_run (thread : T) (woken : T → Bool) :
    s.Critical thread (s.run thread woken) ∨ s.run thread woken = s ∧
      ¬ ((s.places thread).isAwake ∧ notEmpty.Signals woken s.places ∧
        notFull.Signals woken s.places) := by
  unfold run
  split
  · next job hplace =>
    split
    · next hfull => exact Or.inl (.full job hplace hfull)
    · next hroom =>
      split
      · next hsignals => exact Or.inl (.pushed job woken hplace hroom hsignals)
      · next hsilent => exact Or.inr ⟨rfl, fun h ↦ hsilent h.2.1⟩
  · next hplace =>
    split
    · next hwait => exact Or.inl (.empty hplace hwait.1 hwait.2)
    · next hready =>
      split
      · next hempty =>
        have hdone : s.queue.producerDone = true := by
          by_contra hopen
          exact hready ⟨hempty, Bool.eq_false_iff.mpr hopen⟩
        exact Or.inl (.drained hplace hempty hdone)
      · next hjobs =>
        split
        · next hsignals => exact Or.inl (.popped woken hplace hjobs hsignals)
        · next hsilent => exact Or.inr ⟨rfl, fun h ↦ hsilent h.2.2⟩
  · next hplace => exact Or.inl (.finished hplace)
  · next hplace => exact Or.inr ⟨rfl, fun h ↦ by simp [hplace, Place.isAwake] at h⟩
  · next job hplace => exact Or.inr ⟨rfl, fun h ↦ by simp [hplace, Place.isAwake] at h⟩
  · next hplace => exact Or.inr ⟨rfl, fun h ↦ by simp [hplace, Place.isAwake] at h⟩

/-! ## What every change keeps -/

/-- The thread an effect is due to, and its call. -/
def caller : Channel.Event T CopyJob → T × JobCall
  | .put thread job => (thread, .push job)
  | .take thread _ | .drained thread => (thread, .pop)
  | .close thread => (thread, .finish)

/-- The calls of a thread that have had their effect. -/
def completed (log : List (Channel.Event T CopyJob)) (thread : T) : List JobCall :=
  ((log.map caller).filter fun c ↦ c.1 = thread).map Prod.snd

omit [Fintype T] in
theorem completed_concat (log : List (Channel.Event T CopyJob))
    (event : Channel.Event T CopyJob) (thread : T) :
    completed (log ++ [event]) thread =
      completed log thread ++ if (caller event).1 = thread then [(caller event).2] else [] := by
  unfold completed
  rw [List.map_append, List.filter_append, List.map_append]
  congr 1
  by_cases h : (caller event).1 = thread <;> simp [h]

/-- Nobody sleeps who has something to do unless a thread is awake that will do it. -/
structure Orderly (s : Workshop T) : Prop where
  ready : s.queue.Ready
  replay : Channel.empty.replay jobQueueCap s.log = some ⟨s.queue.pending, s.queue.producerDone⟩
  calls : ∀ t, s.calls t = completed s.log t ++ (s.places t).call.toList
  awaited : s.queue.producerDone → ∀ t, s.places t ≠ .notEmpty
  jobs : notEmpty.Covered s.queue.count s.places
  room : notFull.Covered (jobQueueCap - s.queue.count) s.places

theorem Orderly.start : (start : Workshop T).Orderly where
  ready := .init
  replay := rfl
  calls _ := rfl
  awaited hdone := by cases hdone
  jobs := Condition.covered_zero
  room := by
    rintro ⟨t, ht⟩
    cases ht

section Changes

variable {thread : T} {p : Place} {c : Condition Place} {woken : T → Bool}

theorem call_wakes (p : Place) : p.wakes.call = p.call := by
  cases p <;> rfl

omit [Fintype T] [DecidableEq T] in
theorem call_wake (hrouse : c.rouse = Place.wakes) (places : T → Place) (t : T) :
    (c.wake woken places t).call = (places t).call := by
  unfold Condition.wake
  split
  · rw [hrouse, call_wakes]
  · rfl

/-- The thread stays in its call. -/
theorem Orderly.calls_goto (h : s.Orderly) (hcall : p.call = (s.places thread).call) (t : T) :
    (s.goto thread p).calls t =
      completed (s.goto thread p).log t ++ ((s.goto thread p).places t).call.toList := by
  change s.calls t = completed s.log t ++ (Function.update s.places thread p t).call.toList
  rw [h.calls t]
  by_cases ht : t = thread
  · subst ht
    rw [Function.update_self, hcall]
  · rw [Function.update_of_ne ht]

/-- The call of the thread has its effect and returns. -/
theorem Orderly.calls_leave (h : s.Orderly) (hrouse : c.rouse = Place.wakes) {queue : JobQueue}
    {event : Channel.Event T CopyJob} (hthread : (caller event).1 = thread)
    (hplace : (s.places thread).call = some (caller event).2) (t : T) :
    (s.leave thread c woken queue event).calls t =
      completed (s.leave thread c woken queue event).log t ++
        ((s.leave thread c woken queue event).places t).call.toList := by
  change s.calls t = completed (s.log ++ [event]) t ++
    (c.wake woken (Function.update s.places thread .outside) t).call.toList
  rw [h.calls t, completed_concat, call_wake hrouse, hthread]
  by_cases ht : t = thread
  · subst ht
    rw [Function.update_self, hplace, if_pos rfl]
    simp [Place.call]
  · rw [Function.update_of_ne ht, if_neg (Ne.symm ht), List.append_nil]

theorem Orderly.replay_leave (h : s.Orderly) {queue : JobQueue}
    {event : Channel.Event T CopyJob}
    (hperform : Channel.perform jobQueueCap ⟨s.queue.pending, s.queue.producerDone⟩ event =
      some ⟨queue.pending, queue.producerDone⟩) :
    Channel.empty.replay jobQueueCap (s.leave thread c woken queue event).log =
      some ⟨(s.leave thread c woken queue event).queue.pending,
        (s.leave thread c woken queue event).queue.producerDone⟩ := by
  change Channel.empty.replay jobQueueCap (s.log ++ [event]) = _
  rw [Channel.replay_concat, h.replay]
  exact hperform

end Changes

/-! Waking on one condition variable is nothing to the other. -/

omit [DecidableEq T] in
theorem covered_wake_notFull {supply : ℕ} {places : T → Place} {woken : T → Bool}
    (h : notEmpty.Covered supply places) :
    notEmpty.Covered supply (notFull.wake woken places) := by
  apply h.wake_other
  · intro p hp
    obtain ⟨job, rfl⟩ := notFull_asleep_iff.mp hp
    simp [notEmpty_asleep_iff, notFull, Place.wakes]
  · intro p hp
    obtain ⟨job, rfl⟩ := notFull_asleep_iff.mp hp
    simp [notEmpty_awake_iff]

omit [DecidableEq T] in
theorem covered_wake_notEmpty {supply : ℕ} {places : T → Place} {woken : T → Bool}
    (h : notFull.Covered supply places) :
    notFull.Covered supply (notEmpty.wake woken places) := by
  apply h.wake_other
  · rintro p hp
    rw [notEmpty_asleep_iff.mp hp]
    decide
  · rintro p hp
    rw [notEmpty_asleep_iff.mp hp]
    decide

omit [Fintype T] in
/-- Nobody falls asleep on `not_empty` while a call returns. -/
theorem notEmpty_of_leave {c : Condition Place} (hrouse : c.rouse = Place.wakes)
    {places : T → Place} {woken : T → Bool} {thread t : T}
    (h : c.wake woken (Function.update places thread .outside) t = .notEmpty) :
    places t = .notEmpty := by
  have hbefore : Function.update places thread .outside t = .notEmpty := by
    unfold Condition.wake at h
    split at h
    · rw [hrouse] at h
      generalize Function.update places thread Place.outside t = p at h ⊢
      cases p <;> cases h
    · exact h
  by_cases ht : t = thread
  · subst ht
    rw [Function.update_self] at hbefore
    cases hbefore
  · rwa [Function.update_of_ne ht] at hbefore

omit [DecidableEq T] in
theorem covered_broadcast {supply : ℕ} {places : T → Place} :
    notEmpty.Covered supply (notEmpty.wake (fun _ ↦ true) places) := by
  rintro ⟨t, ht⟩
  exact absurd ht (Condition.not_asleep_broadcast t)

/-- A thread comes to the mutex, at its call or from its sleep. -/
theorem Orderly.covered_goto (h : s.Orderly) {thread : T} {p : Place}
    (hplace : (s.places thread).isAwake = false) (hp : p.isAwake) :
    notEmpty.Covered s.queue.count (Function.update s.places thread p) ∧
      notFull.Covered (jobQueueCap - s.queue.count) (Function.update s.places thread p) := by
  constructor
  · refine h.jobs.move ?_ ?_
    · rw [notEmpty_awake_iff]
      intro hawake
      rw [hawake] at hplace
      cases hplace
    · rw [notEmpty_asleep_iff]
      rintro rfl
      cases hp
  · refine h.room.move ?_ ?_
    · rw [notFull_awake_iff]
      rintro ⟨job, hawake⟩
      rw [hawake] at hplace
      cases hplace
    · rw [notFull_asleep_iff]
      rintro ⟨job, rfl⟩
      cases hp

theorem Orderly.entered (h : s.Orderly) {thread : T} {call : JobCall}
    (hplace : s.places thread = .outside) : (s.enter thread call).Orderly := by
  have hcovered := h.covered_goto (by rw [hplace]; rfl) call.isAwake_entrance
  refine ⟨h.ready, h.replay, ?_, ?_, hcovered.1, hcovered.2⟩
  · intro t
    change Function.update s.calls thread _ t = completed s.log t ++
      (Function.update s.places thread call.entrance t).call.toList
    by_cases ht : t = thread
    · subst ht
      rw [Function.update_self, Function.update_self, h.calls t, hplace, call.call_entrance]
      simp [Place.call]
    · rw [Function.update_of_ne ht, Function.update_of_ne ht, h.calls t]
  · intro hdone t
    change Function.update s.places thread call.entrance t ≠ _
    by_cases ht : t = thread
    · subst ht
      rw [Function.update_self]
      cases call <;> simp [JobCall.entrance]
    · rw [Function.update_of_ne ht]
      exact h.awaited hdone t

theorem Orderly.awaited_goto (h : s.Orderly) {thread : T} {p : Place} (hp : p ≠ .notEmpty)
    (hdone : s.queue.producerDone) (t : T) : Function.update s.places thread p t ≠ .notEmpty := by
  by_cases ht : t = thread
  · subst ht
    rwa [Function.update_self]
  · rw [Function.update_of_ne ht]
    exact h.awaited hdone t

theorem Orderly.woke (h : s.Orderly) {thread : T} (hplace : (s.places thread).isAwake = false)
    (hawake : (s.places thread).wakes.isAwake) :
    (s.goto thread (s.places thread).wakes).Orderly := by
  have hcovered := h.covered_goto hplace hawake
  have hwakes : (s.places thread).wakes ≠ .notEmpty := fun hsleeps ↦ by
    rw [hsleeps] at hawake
    cases hawake
  exact ⟨h.ready, h.replay, h.calls_goto (call_wakes _), h.awaited_goto hwakes,
    hcovered.1, hcovered.2⟩

theorem Orderly.full (h : s.Orderly) {thread : T} {job : CopyJob}
    (hplace : s.places thread = .pushing job) (hfull : s.queue.count = jobQueueCap) :
    (s.goto thread (.notFull job)).Orderly := by
  refine ⟨h.ready, h.replay, h.calls_goto (by rw [hplace]; rfl), h.awaited_goto (by simp), ?_, ?_⟩
  · refine h.jobs.move ?_ ?_
    · simp [notEmpty_awake_iff, hplace]
    · simp [notEmpty_asleep_iff]
  · change notFull.Covered (jobQueueCap - s.queue.count) _
    rw [hfull, Nat.sub_self]
    exact Condition.covered_zero

theorem Orderly.empty (h : s.Orderly) {thread : T} (hplace : s.places thread = .popping)
    (hempty : s.queue.count = 0) (hopen : s.queue.producerDone = false) :
    (s.goto thread .notEmpty).Orderly := by
  refine ⟨h.ready, h.replay, h.calls_goto (by rw [hplace]; rfl), ?_, ?_, ?_⟩
  · intro hdone
    change s.queue.producerDone = true at hdone
    rw [hopen] at hdone
    cases hdone
  · change notEmpty.Covered s.queue.count _
    rw [hempty]
    exact Condition.covered_zero
  · refine h.room.move ?_ ?_
    · simp [notFull_awake_iff, hplace]
    · simp [notFull_asleep_iff]

theorem Orderly.pushed (h : s.Orderly) {thread : T} {job : CopyJob} {woken : T → Bool}
    (hplace : s.places thread = .pushing job) (hroom : s.queue.count ≠ jobQueueCap)
    (hsignals : notEmpty.Signals woken s.places) :
    (s.leave thread notEmpty woken (s.queue.push job) (.put thread job)).Orderly := by
  have hcount := h.ready.count_le
  have houtside : ¬ notEmpty.asleep .outside := by decide
  have hbefore : ¬ notEmpty.asleep (s.places thread) := by simp [notEmpty_asleep_iff, hplace]
  refine ⟨h.ready.push hroom job, h.replay_leave ?_,
    h.calls_leave rfl rfl (by rw [hplace]; rfl), ?_, ?_, ?_⟩
  · have hlt : s.queue.pending.length < jobQueueCap := by
      rw [JobQueue.length_pending]
      omega
    rw [Channel.perform, if_pos hlt, h.ready.pending_push hroom job]
    rfl
  · exact fun hdone t ht ↦ h.awaited hdone t (notEmpty_of_leave rfl ht)
  · refine Condition.Covered.signal (h.jobs.move ?_ houtside) (hsignals.update hbefore houtside)
    simp [notEmpty_awake_iff, hplace]
  · refine covered_wake_notEmpty (Condition.Covered.take ?_ (by decide))
    change notFull.Covered (jobQueueCap - (s.queue.count + 1) + 1) s.places
    have hroom' : jobQueueCap - (s.queue.count + 1) + 1 = jobQueueCap - s.queue.count := by omega
    rw [hroom']
    exact h.room

theorem Orderly.popped (h : s.Orderly) {thread : T} {woken : T → Bool}
    (hplace : s.places thread = .popping) (hjobs : s.queue.count ≠ 0)
    (hsignals : notFull.Signals woken s.places) :
    (s.leave thread notFull woken s.queue.pop.2 (.take thread s.queue.pop.1)).Orderly := by
  have hcount := h.ready.count_le
  have houtside : ¬ notFull.asleep .outside := by decide
  have hbefore : ¬ notFull.asleep (s.places thread) := by simp [notFull_asleep_iff, hplace]
  refine ⟨h.ready.pop hjobs, h.replay_leave ?_,
    h.calls_leave rfl rfl (by rw [hplace]; rfl), ?_, ?_, ?_⟩
  · rw [Channel.perform, h.ready.pending_pop hjobs]
    exact if_pos rfl
  · exact fun hdone t ht ↦ h.awaited hdone t (notEmpty_of_leave rfl ht)
  · refine covered_wake_notFull (Condition.Covered.take ?_ (by decide))
    change notEmpty.Covered (s.queue.count - 1 + 1) s.places
    rw [Nat.sub_add_cancel (Nat.one_le_iff_ne_zero.mpr hjobs)]
    exact h.jobs
  · change notFull.Covered (jobQueueCap - (s.queue.count - 1)) _
    have hroom : jobQueueCap - (s.queue.count - 1) = jobQueueCap - s.queue.count + 1 := by omega
    rw [hroom]
    refine Condition.Covered.signal (h.room.move ?_ houtside) (hsignals.update hbefore houtside)
    simp [notFull_awake_iff, hplace]

theorem Orderly.drained (h : s.Orderly) {thread : T} (hplace : s.places thread = .popping)
    (hempty : s.queue.count = 0) (hdone : s.queue.producerDone = true) :
    (s.leave thread notEmpty (fun _ ↦ true) s.queue (.drained thread)).Orderly := by
  refine ⟨h.ready, h.replay_leave ?_, h.calls_leave rfl rfl (by rw [hplace]; rfl), ?_,
    covered_broadcast, ?_⟩
  · have hpending : s.queue.pending = [] := by
      rw [← List.length_eq_zero_iff, JobQueue.length_pending, hempty]
    exact if_pos ⟨hpending, hdone⟩
  · intro hdone t (ht : notEmpty.wake (fun _ ↦ true) (Function.update s.places thread _) t = _)
    exact h.awaited hdone t (notEmpty_of_leave rfl ht)
  · refine covered_wake_notEmpty (h.room.move ?_ (by decide))
    simp [notFull_awake_iff, hplace]

theorem Orderly.finished (h : s.Orderly) {thread : T} (hplace : s.places thread = .finishing) :
    (s.leave thread notEmpty (fun _ ↦ true) s.queue.finish (.close thread)).Orderly := by
  refine ⟨h.ready.finish, h.replay_leave rfl, h.calls_leave rfl rfl (by rw [hplace]; rfl), ?_,
    covered_broadcast, ?_⟩
  · intro _ t ht
    exact Condition.not_asleep_broadcast t (notEmpty_asleep_iff.mpr ht)
  · refine covered_wake_notEmpty (h.room.move ?_ (by decide))
    simp [notFull_awake_iff, hplace]

theorem Orderly.critical (h : s.Orderly) {thread : T} (hcritical : s.Critical thread s') :
    s'.Orderly := by
  cases hcritical with
  | full job hplace hfull => exact h.full hplace hfull
  | empty hplace hempty hopen => exact h.empty hplace hempty hopen
  | pushed job woken hplace hroom hsignals => exact h.pushed hplace hroom hsignals
  | popped woken hplace hjobs hsignals => exact h.popped hplace hjobs hsignals
  | drained hplace hempty hdone => exact h.drained hplace hempty hdone
  | finished hplace => exact h.finished hplace

theorem Orderly.step (h : s.Orderly) (shift : Shift T) : (s.step shift).Orderly := by
  cases shift with
  | call thread call =>
      change (if s.places thread = .outside then s.enter thread call else s).Orderly
      split
      · next hplace => exact h.entered hplace
      · exact h
  | run thread woken =>
      rcases s.critical_run thread woken with hcritical | ⟨hidle, -⟩
      · exact h.critical hcritical
      · exact (congrArg Orderly hidle).mpr h
  | spurious thread =>
      change (s.goto thread (s.places thread).wakes).Orderly
      cases hplace : s.places thread with
      | notFull job =>
          rw [← hplace]
          exact h.woke (by rw [hplace]; rfl) (by rw [hplace]; rfl)
      | notEmpty =>
          rw [← hplace]
          exact h.woke (by rw [hplace]; rfl) (by rw [hplace]; rfl)
      | _ =>
          have hidle : s.goto thread (s.places thread) = s := by
            rw [goto, Function.update_eq_self]
          rw [hplace] at hidle
          exact (congrArg Orderly hidle).mpr h

theorem orderly_run (shifts : List (Shift T)) :
    (Run.run Workshop.step (start : Workshop T) shifts).Orderly :=
  Run.invariant Orderly (fun _ shift h ↦ h.step shift) .start shifts

/-- After any steps of any threads the completed calls in their order are a run of an atomic
channel that ends with the jobs now in the ring; every thread has completed its calls in the
order it made them, all but the one it is in; and a thread is told that the queue is drained
only after all jobs pushed before have been popped. -/
theorem job_queue_linearises (shifts : List (Shift T)) :
    let s : Workshop T := Run.run Workshop.step start shifts
    Channel.empty.replay jobQueueCap s.log = some ⟨s.queue.pending, s.queue.producerDone⟩ ∧
      (∀ t, s.calls t = completed s.log t ++ (s.places t).call.toList) ∧
      Channel.puts s.log = Channel.takes s.log ++ s.queue.pending ∧
      s.queue.pending.length ≤ jobQueueCap ∧
      ∀ before after t, s.log = before ++ .drained t :: after →
        Channel.takes before = Channel.puts before := by
  intro s
  have h : s.Orderly := orderly_run shifts
  refine ⟨h.replay, h.calls, Channel.puts_eq h.replay, ?_, ?_⟩
  · rw [JobQueue.length_pending]
    exact h.ready.count_le
  · intro before after t hlog
    have hreplay := h.replay
    rw [hlog] at hreplay
    exact Channel.takes_of_drained hreplay

/-! ## Nobody sleeps in vain -/

/-- Every thread has left the queue, or waits for a job in an empty queue that is still open or
for room in a full one. -/
def AtRest (s : Workshop T) : Prop :=
  ∀ t, s.places t = .outside ∨
    (s.places t = .notEmpty ∧ s.queue.pending = [] ∧ s.queue.producerDone = false) ∨
    ∃ job, s.places t = .notFull job ∧ s.queue.pending.length = jobQueueCap

theorem Orderly.atRest (h : s.Orderly) (hstill : ∀ t, ¬ (s.places t).isAwake) : s.AtRest := by
  intro t
  cases hplace : s.places t with
  | outside => exact Or.inl rfl
  | notEmpty =>
      right; left
      have hcovered := h.jobs ⟨t, notEmpty_asleep_iff.mpr hplace⟩
      have hnone : s.queue.count = 0 := by
        by_contra hjobs
        obtain ⟨u, hu⟩ := Condition.contenders_pos (by omega :
          0 < notEmpty.contenders s.places)
        rw [notEmpty_awake_iff] at hu
        exact hstill u (by rw [hu]; rfl)
      refine ⟨rfl, ?_, Bool.eq_false_iff.mpr fun hdone ↦ h.awaited hdone t hplace⟩
      rw [← List.length_eq_zero_iff, JobQueue.length_pending, hnone]
  | notFull job =>
      right; right
      have hcovered := h.room ⟨t, notFull_asleep_iff.mpr ⟨job, hplace⟩⟩
      have hfull : jobQueueCap - s.queue.count = 0 := by
        by_contra hroom
        obtain ⟨u, hu⟩ := Condition.contenders_pos (by omega :
          0 < notFull.contenders s.places)
        obtain ⟨other, hu⟩ := notFull_awake_iff.mp hu
        exact hstill u (by rw [hu]; rfl)
      have hcount := h.ready.count_le
      refine ⟨job, rfl, ?_⟩
      rw [JobQueue.length_pending]
      omega
  | pushing job => exact absurd (by rw [hplace]; rfl) (hstill t)
  | popping => exact absurd (by rw [hplace]; rfl) (hstill t)
  | finishing => exact absurd (by rw [hplace]; rfl) (hstill t)

/-- What a thread inside the queue weighs: more than waking all threads adds. -/
def weight (n : ℕ) : Place → ℕ
  | .outside => 0
  | .notFull _ | .notEmpty => n + 1
  | .pushing _ | .popping | .finishing => n + 2

theorem weight_wakes_le (n : ℕ) (p : Place) : weight n p.wakes ≤ weight n p + 1 := by
  cases p <;> simp [Place.wakes, weight]

/-- It bounds the critical sections that the threads inside the queue still go through. -/
def effort (s : Workshop T) : ℕ := ∑ t, weight (Fintype.card T) (s.places t)

omit [DecidableEq T] in
theorem effort_le (s : Workshop T) : s.effort ≤ Fintype.card T * (Fintype.card T + 2) := by
  have hbound : ∀ t ∈ Finset.univ, weight (Fintype.card T) (s.places t) ≤ Fintype.card T + 2 := by
    intro t _
    cases s.places t <;> simp [weight]
  have htotal := Finset.sum_le_card_nsmul _ _ _ hbound
  rwa [Finset.card_univ, smul_eq_mul] at htotal

theorem effort_goto (s : Workshop T) (thread : T) (p : Place) :
    weight (Fintype.card T) p + s.effort =
      (s.goto thread p).effort + weight (Fintype.card T) (s.places thread) := by
  have hbalance := sum_update_balance (Finset.mem_univ thread)
    (fun t ↦ weight (Fintype.card T) (s.places t)) (weight (Fintype.card T) p)
  rw [effort, effort, hbalance]
  congr 1
  apply Finset.sum_congr rfl
  intro t _
  change _ = weight _ (Function.update s.places thread p t)
  by_cases ht : t = thread
  · subst ht
    simp
  · simp [ht]

/-- A call that returns takes away more than the threads it wakes can add. -/
theorem effort_leave (s : Workshop T) {thread : T} {c : Condition Place}
    (hrouse : c.rouse = Place.wakes) (woken : T → Bool) (queue : JobQueue)
    (event : Channel.Event T CopyJob) (hawake : (s.places thread).isAwake) :
    (s.leave thread c woken queue event).effort < s.effort := by
  have hgoto := s.effort_goto thread .outside
  have hthread : weight (Fintype.card T) (s.places thread) = Fintype.card T + 2 := by
    cases hplace : s.places thread <;> simp_all [Place.isAwake, weight]
  have hwake : (s.leave thread c woken queue event).effort ≤
      (s.goto thread .outside).effort + Fintype.card T := by
    calc (s.leave thread c woken queue event).effort
        ≤ ∑ t, (weight (Fintype.card T) ((s.goto thread .outside).places t) + 1) := by
          apply Finset.sum_le_sum
          intro t _
          change weight _ (c.wake woken (s.goto thread .outside).places t) ≤ _
          unfold Condition.wake
          split
          · rw [hrouse]
            exact weight_wakes_le _ _
          · exact Nat.le_succ _
      _ = (s.goto thread .outside).effort + Fintype.card T := by
          rw [Finset.sum_add_distrib, effort]
          simp
  change 0 + s.effort = _ at hgoto
  omega

theorem Critical.effort_lt {thread : T} (h : s.Critical thread s') : s'.effort < s.effort := by
  cases h with
  | full job hplace hfull =>
      have hgoto := s.effort_goto thread (.notFull job)
      rw [hplace] at hgoto
      simp only [weight] at hgoto
      omega
  | empty hplace hempty hopen =>
      have hgoto := s.effort_goto thread .notEmpty
      rw [hplace] at hgoto
      simp only [weight] at hgoto
      omega
  | pushed job woken hplace hroom hsignals =>
      exact s.effort_leave rfl _ _ _ (by rw [hplace]; rfl)
  | popped woken hplace hjobs hsignals => exact s.effort_leave rfl _ _ _ (by rw [hplace]; rfl)
  | drained hplace hempty hdone => exact s.effort_leave rfl _ _ _ (by rw [hplace]; rfl)
  | finished hplace => exact s.effort_leave rfl _ _ _ (by rw [hplace]; rfl)

theorem length_add_effort_le {work : List (T × (T → Bool))}
    (h : Run.Along Workshop.step (fun s shift ↦ s.step shift ≠ s) s
      (work.map fun r ↦ Shift.run r.1 r.2)) : work.length ≤ s.effort := by
  induction work generalizing s with
  | nil => exact Nat.zero_le _
  | cons r work ih =>
      obtain ⟨hchanged, hrest⟩ := h
      have hlength : work.length ≤ (s.step (.run r.1 r.2)).effort := ih hrest
      rcases s.critical_run r.1 r.2 with hcritical | ⟨hidle, -⟩
      · have hless : (s.step (.run r.1 r.2)).effort < s.effort := hcritical.effort_lt
        rw [List.length_cons]
        omega
      · exact absurd hidle hchanged

/-- Left alone after any steps, the threads at the queue come to rest: no sequence of critical
sections that all do something is longer than `n (n + 2)` for `n` threads, and when no critical
section does anything any more, every thread has left the queue or waits with reason. -/
theorem left_alone_settles (shifts : List (Shift T)) (work : List (T × (T → Bool))) :
    let s : Workshop T := Run.run Workshop.step start shifts
    let runs := work.map fun r ↦ Shift.run r.1 r.2
    Run.Along Workshop.step (fun s shift ↦ s.step shift ≠ s) s runs →
      work.length ≤ Fintype.card T * (Fintype.card T + 2) ∧
        ((∀ t woken, (Run.run Workshop.step s runs).run t woken = Run.run Workshop.step s runs) →
          (Run.run Workshop.step s runs).AtRest) := by
  intro s runs hwork
  refine ⟨(length_add_effort_le hwork).trans s.effort_le, fun hstill ↦ ?_⟩
  have h : (Run.run Workshop.step s runs).Orderly := by
    rw [← Run.run_append]
    exact orderly_run (shifts ++ runs)
  refine h.atRest fun t hawake ↦ ?_
  rcases (Run.run Workshop.step s runs).critical_run t (fun _ ↦ true) with hcritical | ⟨-, hsilent⟩
  · have hless := hcritical.effort_lt
    rw [hstill] at hless
    exact lt_irrefl _ hless
  · exact hsilent ⟨hawake, Condition.signals_broadcast, Condition.signals_broadcast⟩

/-- A worker that sleeps is woken by the walker's push and takes the job. -/
theorem left_alone_settles_two :
    let s : Workshop Bool := Run.run Workshop.step start
      [.call true .pop, .run true fun _ ↦ false, .call false (.push ⟨[], []⟩)]
    let runs : List (Shift Bool) := [.run false fun _ ↦ true, .run true fun _ ↦ false]
    2 ≤ Fintype.card Bool * (Fintype.card Bool + 2) ∧
      ((∀ t woken, (Run.run Workshop.step s runs).run t woken = Run.run Workshop.step s runs) →
        (Run.run Workshop.step s runs).AtRest) := by
  refine left_alone_settles
    [.call true .pop, .run true fun _ ↦ false, .call false (.push ⟨[], []⟩)]
    [(false, fun _ ↦ true), (true, fun _ ↦ false)] ⟨?_, ?_, trivial⟩
  · intro h
    exact absurd (congrArg (fun s ↦ s.log.length) h) (by decide)
  · intro h
    exact absurd (congrArg (fun s ↦ s.log.length) h) (by decide)

end Workshop

end Fdir.Filecopy
