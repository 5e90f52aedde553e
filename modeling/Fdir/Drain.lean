import Fdir.Confluence
import Fdir.Foundation.Commute
import Fdir.Moves

/-!
# The supervisor tick drains the queue

The loop of the tick takes every pending report off the queue once, oldest
first, and handles it.  When the clock stands still and the callbacks have no
memory, the outcome does not depend on how the reports of different entities
were interleaved in the queue.
-/

namespace Fdir

open Foundation

variable {B : Build}

/-! ## Without memory, answers are predicted -/

section Oracle

variable {s : State B} {report : FailureReport}

theorem context_eq (s : State B) (id : EntityId) :
    s.context id = { s.lib.context id with history := s.world.trace } := by
  unfold State.context Lib.context
  split <;> rfl

theorem getNowMs_fst_of_stopped (hready : s.lib.portReady = true) (hstopped : s.ClockStopped) :
    (getNowMs s).1 = UInt32.ofNat s.world.clock := by
  simp [getNowMs, hready, hstopped _ List.prefix_rfl]

theorem decideAnswer_eq (s : State B) (hregular : s.lib.Regular) (now : UInt32)
    (report : FailureReport) :
    decideAnswer s report = (s.lib.oracle now report).decide := by
  simp only [decideAnswer, Lib.oracle]
  cases hdecide : (s.lib.entities report.entity).desc.decide with
  | none => rfl
  | some decide =>
      simp only [context_eq]
      rw [hregular.decide _ _ hdecide]

theorem exhausted_eq (s : State B) (hregular : s.lib.Regular) (now : UInt32)
    (report : FailureReport) :
    (subsystemOnEntityExhausted s (s.lib.entities report.entity).desc.linkedSubsystem
      report.entity (some report)).1 = (s.lib.oracle now report).exhausted := by
  have hblind := hregular.exhausted (s.lib.entities report.entity).desc.linkedSubsystem
  simp only [subsystemOnEntityExhausted, Lib.oracle, SubsystemTable.policy]
  rw [SubsystemTable.handler] at hblind
  cases hslot : s.lib.subsystems.slotOf (s.lib.entities report.entity).desc.linkedSubsystem with
  | none => rfl
  | some slot =>
      rw [hslot] at hblind
      simp only [Option.map_some]
      cases hhandler : slot.desc.onEntityExhausted with
      | none => rfl
      | some handler =>
          simp only [context_eq]
          rw [hblind handler hhandler]

theorem restartAnswer_eq (s : State B) (hregular : s.lib.Regular) (now : UInt32)
    (report : FailureReport) :
    restartAnswer s report.entity report.reason = (s.lib.oracle now report).restart := by
  simp only [restartAnswer, Lib.oracle]
  cases hrestart : (s.lib.entities report.entity).desc.restart with
  | none => rfl
  | some restart =>
      simp only [context_eq, State.write_lib]
      rw [hregular.restart _ _ hrestart]

theorem Lib.Regular.congr {l l' : Lib B} (h : l.Regular)
    (hdesc : ∀ id, (l'.entities id).desc = (l.entities id).desc)
    (hpolicy : l'.subsystems.policy = l.subsystems.policy) : l'.Regular where
  restart := fun id ↦ by rw [hdesc]; exact h.restart id
  decide := fun id ↦ by rw [hdesc]; exact h.decide id
  exhausted := fun sub ↦ by
    rw [SubsystemTable.handler_eq, hpolicy, ← SubsystemTable.handler_eq]
    exact h.exhausted sub

theorem Lib.Regular.setRecord {l : Lib B} (h : l.Regular) {id : EntityId} {r : Record}
    (hdesc : r.slot.desc = (l.entities id).desc) : (l.setRecord id r).Regular := by
  refine h.congr (fun other ↦ ?_) rfl
  by_cases hother : other = id
  · subst hother
    simpa [Lib.setRecord] using hdesc
  · simp [Lib.setRecord, hother]

/-- The answers of an application without memory are those predicted. -/
theorem answers_eq (hready : s.lib.portReady = true) (hregular : s.lib.Regular)
    (hstopped : s.ClockStopped) (hid : report.entity < s.lib.health.entityLimit) :
    answers s report = s.lib.oracle (UInt32.ofNat s.world.clock) report := by
  have hfailed := failedState_lib hid
  have hresolved := resolvedState_lib hid
  have hregular' : (s.lib.setRecord report.entity
      ((s.lib.record report.entity).fail B report)).Regular := hregular.setRecord rfl
  have horacle : ∀ now, Lib.oracle (s.lib.setRecord report.entity
      ((s.lib.record report.entity).fail B report)) now report = s.lib.oracle now report := by
    intro now
    simp only [Lib.oracle, Lib.context, Lib.setSlot, Lib.setRecord, Function.update_self]
    rfl
  have hdecide : (answers s report).decide =
      (s.lib.oracle (UInt32.ofNat s.world.clock) report).decide := by
    have h := decideAnswer_eq (failedState s report) (by rwa [hfailed])
      (UInt32.ofNat s.world.clock) report
    rwa [hfailed, horacle] at h
  have hexhausted : (answers s report).exhausted =
      (s.lib.oracle (UInt32.ofNat s.world.clock) report).exhausted := by
    have h := exhausted_eq (chooseAction (failedState s report) report).2
      (by rwa [chooseAction_lib, hfailed]) (UInt32.ofNat s.world.clock) report
    rw [chooseAction_lib, hfailed, horacle] at h
    rw [← h]
    simp only [answers, Lib.setRecord, Function.update_self]
    rfl
  have hrestart : (answers s report).restart =
      (s.lib.oracle (UInt32.ofNat s.world.clock) report).restart := by
    have h := restartAnswer_eq (resolvedState s report) (by rwa [hresolved])
      (UInt32.ofNat s.world.clock) report
    rwa [hresolved, horacle] at h
  have hnow : (answers s report).now = UInt32.ofNat s.world.clock := by
    have hworld := silent_resolvedState s report
    have hlog : Evolves (fun _ ↦ True) s ((resolvedState s report).log
        (.restart report.entity report.reason
          (restartAnswer (resolvedState s report) report.entity report.reason))) :=
      hworld.any.trans (.of_log trivial _)
    have h := getNowMs_fst_of_stopped (hlog.ready.trans hready) (hlog.clockStopped hstopped)
    rw [hlog.clock_const hstopped] at h
    exact h
  exact Answers.ext hdecide hexhausted hrestart hnow

end Oracle

/-! ## Steady states -/

/-- Supervision is enabled, the clock stands still and the callbacks have no
memory. -/
structure Steady (s : State B) : Prop where
  sound : s.lib.Sound
  enabled : s.lib.supervisionEnabled ≠ 0
  regular : s.lib.Regular
  stopped : s.ClockStopped

/-- The static variables without the queue. -/
def Lib.unqueued (l : Lib B) : Lib B := { l with queue := .init }

theorem Lib.desc_handle (l : Lib B) (ans : Answers) (report : FailureReport) (id : EntityId) :
    ((l.handle ans report).entities id).desc = (l.entities id).desc := by
  unfold Lib.handle
  split_ifs
  · rfl
  · rfl
  · by_cases hid : id = report.entity
    · subst hid
      simp only [Lib.recover, Lib.review, Lib.strike, Lib.setRecord, Function.update_self]
      exact Record.settle_desc _ _ _ _
    · simp only [Lib.recover, Lib.review, Lib.strike, Lib.setRecord, Function.update_of_ne hid]

theorem Lib.policy_handle (l : Lib B) (ans : Answers) (report : FailureReport) :
    (l.handle ans report).subsystems.policy = l.subsystems.policy := by
  unfold Lib.handle
  split_ifs
  · rfl
  · rfl
  · simp only [Lib.recover, Lib.review, Lib.strike, Lib.setRecord]
    split
    · rfl
    · exact Action.policy_mark _ _ _

theorem Lib.absorb_unqueued (now : UInt32) (l : Lib B) (report : FailureReport) :
    (l.absorb now report).unqueued = l.unqueued.absorb now report := by
  simp only [Lib.absorb_eq]
  have hrespond : l.unqueued.respond now report = l.respond now report := rfl
  rw [hrespond]
  cases l.respond now report <;> rfl

namespace Steady

variable {s s' : State B}

theorem idle {P : Obs → Prop} (h : Steady s) (hworld : Evolves P s s')
    (hlib : s'.lib.unqueued = s.lib.unqueued) : Steady s' where
  sound := by
    have hsound : s.lib.unqueued.Sound := h.sound.congr rfl rfl rfl rfl rfl
    rw [← hlib] at hsound
    exact hsound.congr rfl rfl rfl rfl rfl
  enabled := by
    have henabled : s.lib.unqueued.supervisionEnabled ≠ 0 := h.enabled
    rw [← hlib] at henabled
    exact henabled
  regular := by
    have hregular : s.lib.unqueued.Regular := h.regular.congr (fun _ ↦ rfl) rfl
    rw [← hlib] at hregular
    exact hregular.congr (fun _ ↦ rfl) rfl
  stopped := hworld.clockStopped h.stopped

theorem handleFailureLocked_lib (h : Steady s) (report : FailureReport) :
    (handleFailureLocked s report).lib =
      s.lib.absorb (UInt32.ofNat s.world.clock) report := by
  rw [Fdir.handleFailureLocked_lib h.sound.limit_eq report]
  by_cases hid : report.entity < s.lib.entityCount
  · have hraised := (raisedState_world h.sound report).1
    have hlib := raisedState_lib s report
    rw [answers_eq (raisedState_ready h.sound report) (by rw [hlib]; exact h.regular)
      (hraised.clockStopped h.stopped) (raisedState_limit h.sound.limit_eq hid), hlib,
      hraised.clock_const h.stopped]
    rfl
  · have hunknown : s.lib.entityCount ≤ report.entity ∨
        (s.lib.entities report.entity).used = false := Or.inl (UInt8.not_lt.mp hid)
    simp only [Lib.absorb, Lib.handle, if_pos hunknown]

theorem handleFailureLocked (h : Steady s) (report : FailureReport) :
    Steady (Fdir.handleFailureLocked s report) where
  sound := (Move.handled report).sound h.sound
  enabled := by
    rw [Fdir.handleFailureLocked_lib h.sound.limit_eq, Lib.handle_supervisionEnabled]
    exact h.enabled
  regular := by
    rw [Fdir.handleFailureLocked_lib h.sound.limit_eq]
    exact h.regular.congr (Lib.desc_handle _ _ _) (Lib.policy_handle _ _ _)
  stopped := (handleFailureLocked_world h.sound report).1.clockStopped h.stopped

end Steady

/-! ## Twins -/

/-- Two steady states that differ in the queue and in what has been recorded at
most. -/
structure Twins (s s' : State B) : Prop where
  left : Steady s
  right : Steady s'
  lib : s'.lib.unqueued = s.lib.unqueued
  clock : s'.world.clock = s.world.clock

namespace Twins

variable {s s' t t' : State B}

theorem symm (h : Twins s s') : Twins s' s := ⟨h.right, h.left, h.lib.symm, h.clock.symm⟩

theorem trans (h : Twins s s') (h' : Twins s' t) : Twins s t :=
  ⟨h.left, h'.right, h'.lib.trans h.lib, h'.clock.trans h.clock⟩

theorem read {γ : Type*} (h : Twins s s') (f : Lib B → γ) (hf : ∀ l, f l.unqueued = f l) :
    f s'.lib = f s.lib := by
  rw [← hf s'.lib, h.lib, hf]

theorem of_idle {P : Obs → Prop} (h : Steady s) (hworld : Evolves P s s')
    (hlib : s'.lib.unqueued = s.lib.unqueued) : Twins s s' :=
  ⟨h, h.idle hworld hlib, hlib, hworld.clock_const h.stopped⟩

theorem handleFailureLocked (h : Twins s s') (report : FailureReport) :
    Twins (Fdir.handleFailureLocked s report) (Fdir.handleFailureLocked s' report) := by
  have hleft := (handleFailureLocked_world h.left.sound report).1.clock_const h.left.stopped
  have hright := (handleFailureLocked_world h.right.sound report).1.clock_const h.right.stopped
  refine ⟨h.left.handleFailureLocked report, h.right.handleFailureLocked report, ?_, ?_⟩
  · rw [h.left.handleFailureLocked_lib, h.right.handleFailureLocked_lib, Lib.absorb_unqueued,
      Lib.absorb_unqueued, h.lib, h.clock]
  · rw [hleft, hright, h.clock]

theorem idle {P Q : Obs → Prop} (h : Twins s s') (hworld : Evolves P s t)
    (hlib : t.lib.unqueued = s.lib.unqueued) (hworld' : Evolves Q s' t')
    (hlib' : t'.lib.unqueued = s'.lib.unqueued) : Twins t t' :=
  ((of_idle h.left hworld hlib).symm.trans h).trans (of_idle h.right hworld' hlib')

theorem handleFailure (h : Twins s s') (report : FailureReport) :
    Twins (Fdir.handleFailure s (some report)) (Fdir.handleFailure s' (some report)) := by
  have hasked : Twins (supervisionEnabled s).2 (supervisionEnabled s').2 :=
    h.idle (silent_supervisionEnabled s) (by rw [supervisionEnabled_lib])
      (silent_supervisionEnabled s') (by rw [supervisionEnabled_lib])
  rw [handleFailure_of_enabled h.left.enabled, handleFailure_of_enabled h.right.enabled]
  exact hasked.handleFailureLocked report

theorem syncEnter (h : Twins s s') : Twins (Fdir.syncEnter s) (Fdir.syncEnter s') :=
  h.idle (silent_syncEnter s) (by rw [syncEnter_lib]) (silent_syncEnter s') (by rw [syncEnter_lib])

theorem syncExit (h : Twins s s') : Twins (Fdir.syncExit s) (Fdir.syncExit s') :=
  h.idle (silent_syncExit s) (by rw [syncExit_lib]) (silent_syncExit s') (by rw [syncExit_lib])

theorem scanLoop (h : Twins s s') (now maxAge : UInt32) (rounds i : ℕ) :
    Twins (Fdir.scanLoop now maxAge rounds i s) (Fdir.scanLoop now maxAge rounds i s') := by
  induction rounds generalizing i s s' with
  | zero => exact h
  | succ rounds ih =>
      have hcount : s'.lib.entityCount = s.lib.entityCount :=
        h.read Lib.entityCount fun _ ↦ rfl
      have hdue : watchdogDue s'.lib now maxAge (UInt8.ofNat i) =
          watchdogDue s.lib now maxAge (UInt8.ofNat i) :=
        h.read (fun l ↦ watchdogDue l now maxAge (UInt8.ofNat i)) fun _ ↦ rfl
      simp only [Fdir.scanLoop, hcount, hdue]
      split
      · split
        · exact ih (h.syncExit.handleFailure _).syncEnter (i + 1)
        · exact ih h (i + 1)
      · exact h

theorem checkWatchdogs (h : Twins s s') :
    Twins (Fdir.checkWatchdogs s) (Fdir.checkWatchdogs s') := by
  have hnow : (getNowMs s').1 = (getNowMs s).1 := by
    rw [getNowMs_fst_of_stopped h.left.sound.ready h.left.stopped,
      getNowMs_fst_of_stopped h.right.sound.ready h.right.stopped, h.clock]
  have hconfig : s'.lib.config = s.lib.config := h.read Lib.config fun _ ↦ rfl
  have hread : Twins (supervisionEnabled (getNowMs s).2).2 (supervisionEnabled (getNowMs s').2).2 :=
    h.idle ((silent_getNowMs s).trans (silent_supervisionEnabled _))
      (by rw [supervisionEnabled_lib, getNowMs_lib])
      ((silent_getNowMs s').trans (silent_supervisionEnabled _))
      (by rw [supervisionEnabled_lib, getNowMs_lib])
  simp only [Fdir.checkWatchdogs, supervisionEnabled_fst, getNowMs_lib, if_neg h.left.enabled,
    if_neg h.right.enabled, hnow, hconfig]
  exact (hread.syncEnter.scanLoop _ _ _ _).syncExit

theorem sameOutcome (h : Twins s s') : SameOutcome s.lib s'.lib :=
  ⟨h.read Lib.mode fun _ ↦ rfl, h.read Lib.subsystems fun _ ↦ rfl,
    fun id ↦ h.read (fun l ↦ l.record id) fun _ ↦ rfl⟩

end Twins

/-! ## The loop of the tick -/

/-- The loop of `fdir_supervisor_tick`, which takes the reports off the queue one by
one and handles each, until the queue has none. -/
inductive Drains : State B → List FailureReport → State B → Prop where
  | done {s : State B} (hget : (failureQueueGet s).1 = none) : Drains s [] (failureQueueGet s).2
  | next {s s' : State B} {report : FailureReport} {reports : List FailureReport}
      (hget : (failureQueueGet s).1 = some report)
      (hrest : Drains (handleFailure (failureQueueGet s).2 (some report)) reports s') :
      Drains s (report :: reports) s'

theorem handle_of_pending {s : State B} (hs : s.lib.Sound)
    (henabled : s.lib.supervisionEnabled ≠ 0) (hqueue : s.lib.queue.Valid)
    {report : FailureReport} {reports : List FailureReport}
    (hpending : s.lib.queue.pending = report :: reports) :
    (failureQueueGet s).1 = some report ∧
      (handleFailure (failureQueueGet s).2 (some report)).lib.Sound ∧
      (handleFailure (failureQueueGet s).2 (some report)).lib.supervisionEnabled ≠ 0 ∧
      (handleFailure (failureQueueGet s).2 (some report)).lib.queue.Valid ∧
      (handleFailure (failureQueueGet s).2 (some report)).lib.queue.pending = reports := by
  obtain ⟨hget, hvalid, hrest⟩ := FailureQueue.getUnsafe_of_cons hqueue hpending
  obtain ⟨hreport, hlib⟩ := failureQueueGet_of_some hget
  have hsound : (failureQueueGet s).2.lib.Sound := by
    rw [hlib]
    exact hs.congr rfl rfl rfl rfl rfl
  have henabled' : (failureQueueGet s).2.lib.supervisionEnabled ≠ 0 := by rwa [hlib]
  have hhandle := handleFailure_lib _ hsound.limit_eq henabled' report
  refine ⟨hreport, ?_, ?_, ?_, ?_⟩
  · rw [hhandle]
    exact Lib.sound_handle hsound _ _
  · rwa [hhandle, Lib.handle_supervisionEnabled]
  · rw [hhandle, Lib.handle_queue, hlib]
    exact hvalid
  · rw [hhandle, Lib.handle_queue, hlib]
    exact hrest

/-- The loop ends, after one round for each pending report, and leaves the queue
empty; `drainQueue` follows it. -/
theorem drainQueue_drains (rounds : ℕ) (s : State B) (hs : s.lib.Sound)
    (henabled : s.lib.supervisionEnabled ≠ 0) (hqueue : s.lib.queue.Valid)
    (hrounds : s.lib.queue.pending.length < rounds) :
    Drains s s.lib.queue.pending (drainQueue rounds s) ∧
      (drainQueue rounds s).lib.Sound ∧ (drainQueue rounds s).lib.supervisionEnabled ≠ 0 ∧
      (drainQueue rounds s).lib.queue.pending = [] := by
  generalize hpending : s.lib.queue.pending = reports at hrounds
  induction reports generalizing s rounds with
  | nil =>
      obtain ⟨rounds, rfl⟩ := Nat.exists_eq_succ_of_ne_zero (Nat.ne_of_gt hrounds)
      have hget := congrArg Prod.fst (FailureQueue.getUnsafe_of_nil hpending)
      have hrun := failureQueueGet_of_none hget
      simp only [drainQueue, hrun]
      refine ⟨?_, by simpa using hs, by simpa using henabled, by simpa using hpending⟩
      have hdone := Drains.done (congrArg Prod.fst hrun)
      rwa [hrun] at hdone
  | cons report reports ih =>
      obtain ⟨rounds, rfl⟩ := Nat.exists_eq_succ_of_ne_zero (Nat.ne_of_gt
        (Nat.zero_lt_of_lt hrounds))
      obtain ⟨hget, hsound, henabled', hvalid, hrest⟩ :=
        handle_of_pending hs henabled hqueue hpending
      obtain ⟨hdrains, hresult⟩ := ih rounds _ hsound henabled' hvalid hrest
        (Nat.lt_of_succ_lt_succ hrounds)
      simp only [drainQueue, hget]
      exact ⟨.next hget hdrains, hresult⟩

theorem scanLoop_queue {s : State B} (hs : s.lib.Sound)
    (henabled : s.lib.supervisionEnabled ≠ 0) (now maxAge : UInt32) (rounds i : ℕ) :
    (scanLoop now maxAge rounds i s).lib.queue = s.lib.queue := by
  induction rounds generalizing i s with
  | zero => rfl
  | succ rounds ih =>
      simp only [scanLoop]
      split
      · split
        · have hhandle := handleFailure_lib (syncExit s) (by rw [syncExit_lib]; exact hs.limit_eq)
            (by rwa [syncExit_lib]) (watchdogReport B (UInt8.ofNat i) now)
          rw [syncExit_lib] at hhandle
          rw [ih, syncEnter_lib, hhandle, Lib.handle_queue]
          · rw [syncEnter_lib, hhandle]
            exact Lib.sound_handle hs _ _
          · rwa [syncEnter_lib, hhandle, Lib.handle_supervisionEnabled]
        · exact ih hs henabled (i + 1)
      · rfl

theorem checkWatchdogs_queue {s : State B} (hs : s.lib.Sound)
    (henabled : s.lib.supervisionEnabled ≠ 0) :
    (checkWatchdogs s).lib.queue = s.lib.queue := by
  simp only [checkWatchdogs, supervisionEnabled_fst, getNowMs_lib, if_neg henabled, syncExit_lib]
  rw [scanLoop_queue (by simpa using hs) (by simpa using henabled), syncEnter_lib,
    supervisionEnabled_lib, getNowMs_lib]

/-! ## The order of the reports -/

/-- Handle reports one after the other. -/
def handleAll (s : State B) (reports : List FailureReport) : State B :=
  reports.foldl (fun s report ↦ handleFailure s (some report)) s

theorem Twins.handleAll {s s' : State B} (h : Twins s s') (reports : List FailureReport) :
    Twins (Fdir.handleAll s reports) (Fdir.handleAll s' reports) := by
  induction reports generalizing s s' with
  | nil => exact h
  | cons report reports ih => exact ih (h.handleFailure report)

/-- The loop has the outcome of handling the reports one after the other. -/
theorem Drains.twins {s s' : State B} {reports : List FailureReport}
    (h : Drains s reports s') (hs : Steady s) : Twins (handleAll s reports) s' := by
  have hgot : ∀ s : State B, (failureQueueGet s).2.lib.unqueued = s.lib.unqueued := by
    intro s
    simp only [failureQueueGet]
    split <;> simp [Lib.unqueued]
  induction h with
  | done hget => exact .of_idle hs (silent_failureQueueGet _) (hgot _)
  | @next s s' report reports hget hrest ih =>
      have htaken := Twins.of_idle hs (silent_failureQueueGet s) (hgot s)
      have hhandled := htaken.handleFailure report
      exact (hhandled.handleAll reports).trans (ih hhandled.right)

theorem Steady.handleFailure {s : State B} (hs : Steady s) (report : FailureReport) :
    Steady (Fdir.handleFailure s (some report)) ∧
      (Fdir.handleFailure s (some report)).world.clock = s.world.clock ∧
      (Fdir.handleFailure s (some report)).lib.unqueued =
        s.lib.unqueued.absorb (UInt32.ofNat s.world.clock) report := by
  have hasked := Twins.of_idle hs (silent_supervisionEnabled s) (by rw [supervisionEnabled_lib])
  have hclock := (handleFailureLocked_world hasked.right.sound report).1.clock_const
    hasked.right.stopped
  rw [handleFailure_of_enabled hs.enabled]
  refine ⟨hasked.right.handleFailureLocked report, hclock.trans hasked.clock, ?_⟩
  rw [hasked.right.handleFailureLocked_lib report, hasked.clock, supervisionEnabled_lib,
    Lib.absorb_unqueued]

/-- In a steady state the outcome of a list of reports is a fold over the static
variables. -/
theorem Steady.handleAll {s : State B} (hs : Steady s) (reports : List FailureReport) :
    Steady (Fdir.handleAll s reports) ∧
      (Fdir.handleAll s reports).world.clock = s.world.clock ∧
      (Fdir.handleAll s reports).lib.unqueued =
        reports.foldl (Lib.absorb (UInt32.ofNat s.world.clock)) s.lib.unqueued := by
  induction reports generalizing s with
  | nil => exact ⟨hs, rfl, rfl⟩
  | cons report reports ih =>
      obtain ⟨hsteady, hclock, hlib⟩ := hs.handleFailure report
      obtain ⟨hsteady', hclock', hlib'⟩ := ih hsteady
      refine ⟨hsteady', hclock'.trans hclock, ?_⟩
      rw [List.foldl_cons, ← hlib, ← hclock]
      exact hlib'

/-- Lists of reports that agree on the order within each entity have the same
outcome. -/
theorem Twins.handleAll_sameByKey {s s' : State B} (h : Twins s s')
    {reports reports' : List FailureReport}
    (hsame : Commute.SameByKey FailureReport.entity reports reports') :
    Twins (Fdir.handleAll s reports) (Fdir.handleAll s' reports') := by
  obtain ⟨hleft, hclock, hlib⟩ := h.left.handleAll reports
  obtain ⟨hright, hclock', hlib'⟩ := h.right.handleAll reports'
  refine ⟨hleft, hright, ?_, by rw [hclock', hclock, h.clock]⟩
  rw [hlib', hlib, h.lib, h.clock]
  refine (Commute.foldl_eq_of_sameByKey (fun _ ↦ True) (fun _ _ _ ↦ trivial) ?_ hsame
    trivial).symm
  intro l report report' _ hne
  exact Lib.absorb_comm _ l hne

/-! ## The tick -/

/-- The same state with other reports pending. -/
def State.withQueue (s : State B) (queue : FailureQueue B.failureQueueCap) : State B :=
  { s with lib := { s.lib with queue := queue } }

theorem supervisorTick_of_enabled {s : State B} (henabled : s.lib.supervisionEnabled ≠ 0) :
    supervisorTick s = checkWatchdogs (drainQueue 256 (supervisionEnabled s).2) := by
  simp only [supervisorTick, supervisionEnabled_fst, if_neg henabled]

theorem supervisorTick_drains {s : State B} (hs : s.lib.Sound)
    (henabled : s.lib.supervisionEnabled ≠ 0) (hqueue : s.lib.queue.Valid) :
    ∃ drained, Drains (supervisionEnabled s).2 s.lib.queue.pending drained ∧
      supervisorTick s = checkWatchdogs drained ∧
      (supervisorTick s).lib.queue.pending = [] := by
  have hlib := supervisionEnabled_lib s
  have hlength := FailureQueue.length_pending_le s.lib.queue
  obtain ⟨hdrains, hsound, henabled', hempty⟩ := drainQueue_drains 256
    (supervisionEnabled s).2 (by rwa [hlib]) (by rwa [hlib]) (by rwa [hlib])
    (by rw [hlib]; omega)
  rw [hlib] at hdrains
  refine ⟨_, hdrains, supervisorTick_of_enabled henabled, ?_⟩
  rw [supervisorTick_of_enabled henabled, checkWatchdogs_queue hsound henabled', hempty]

/-- From every reachable state with supervision enabled, and with whatever reports
pending, a tick takes each pending report off the queue once, oldest first,
handles it, ends with one watchdog scan, and leaves the queue empty.  When the
clock stands still and the callbacks answer by their arguments and the restart
counters, it has the outcome of handling the reports one after the other and one
scan, and the outcome is the same for any two contents of the queue that keep the
order of the reports of each entity. -/
theorem tick_drains_confluently (clock : ℕ) (pace : List Obs → ℕ) (config : Option Config)
    (lock unlock : Bool) (calls : List Call) :
    let s : State B := Run.run after (started clock pace config lock unlock) calls
    s.lib.queue.Valid ∧ (s.lib.supervisionEnabled ≠ 0 →
      (∀ queue : FailureQueue B.failureQueueCap, queue.Valid →
        ∃ drained, Drains (supervisionEnabled (s.withQueue queue)).2 queue.pending drained ∧
          supervisorTick (s.withQueue queue) = checkWatchdogs drained ∧
          (supervisorTick (s.withQueue queue)).lib.queue.pending = []) ∧
      (s.lib.Regular → s.ClockStopped →
        (∀ queue : FailureQueue B.failureQueueCap, queue.Valid →
          SameOutcome (checkWatchdogs (handleAll (s.withQueue queue) queue.pending)).lib
            (supervisorTick (s.withQueue queue)).lib) ∧
        ∀ queue queue' : FailureQueue B.failureQueueCap, queue.Valid → queue'.Valid →
          Commute.SameByKey FailureReport.entity queue.pending queue'.pending →
            SameOutcome (supervisorTick (s.withQueue queue)).lib
              (supervisorTick (s.withQueue queue')).lib)) := by
  intro s
  obtain ⟨hs, hvalid⟩ := run_valid clock pace config lock unlock calls
  refine ⟨hvalid, fun henabled ↦ ?_⟩
  have hdrains : ∀ queue : FailureQueue B.failureQueueCap, queue.Valid →
      ∃ drained, Drains (supervisionEnabled (s.withQueue queue)).2 queue.pending drained ∧
        supervisorTick (s.withQueue queue) = checkWatchdogs drained ∧
        (supervisorTick (s.withQueue queue)).lib.queue.pending = [] := by
    intro queue hqueue
    have hsound : (s.withQueue queue).lib.Sound := hs.congr rfl rfl rfl rfl rfl
    exact supervisorTick_drains hsound henabled hqueue
  refine ⟨hdrains, fun hregular hstopped ↦ ?_⟩
  have hsteady : ∀ queue : FailureQueue B.failureQueueCap, Steady (s.withQueue queue) :=
    fun queue ↦ ⟨hs.congr rfl rfl rfl rfl rfl, henabled, hregular.congr (fun _ ↦ rfl) rfl, hstopped⟩
  have htick : ∀ queue : FailureQueue B.failureQueueCap, queue.Valid →
      Twins (checkWatchdogs (handleAll (s.withQueue queue) queue.pending))
        (supervisorTick (s.withQueue queue)) := by
    intro queue hqueue
    obtain ⟨drained, hdrain, hrun, -⟩ := hdrains queue hqueue
    have hasked := Twins.of_idle (hsteady queue) (silent_supervisionEnabled _)
      (by rw [supervisionEnabled_lib])
    rw [hrun]
    exact ((hasked.handleAll _).trans (hdrain.twins hasked.right)).checkWatchdogs
  refine ⟨fun queue hqueue ↦ (htick queue hqueue).sameOutcome, ?_⟩
  intro queue queue' hqueue hqueue' hsame
  have hstart : Twins (s.withQueue queue) (s.withQueue queue') :=
    ⟨hsteady queue, hsteady queue', rfl, rfl⟩
  have hhandled := (hstart.handleAll_sameByKey hsame).checkWatchdogs
  exact (((htick queue hqueue).symm.trans hhandled).trans (htick queue' hqueue')).sameOutcome

/-- Two entities that share a subsystem, reported in either order. -/
theorem tick_drains_confluently_shared :
    let desc : EntityDesc := { EntityDesc.zero with
      linkedSubsystem := 0, onExhausted := .unavailable }
    let desc' : EntityDesc := { desc with onExhausted := .degrade }
    let calls : List Call := [.subsystemRegister (some { SubsystemDesc.zero with
      isCriticalPath := true }) true, .entityRegister (some desc) true,
      .entityRegister (some desc') true]
    let s : State .default := Run.run after (started 0 (fun _ ↦ 0) none true true) calls
    let report : FailureReport := ⟨0, .timeout, 7, [], 0, 0⟩
    let report' : FailureReport := ⟨1, .ioError, 8, [], 0, 0⟩
    let queue := ((FailureQueue.init.putUnsafe report).2.putUnsafe report').2
    let queue' := ((FailureQueue.init.putUnsafe report').2.putUnsafe report).2
    SameOutcome (supervisorTick (s.withQueue queue)).lib
      (supervisorTick (s.withQueue queue')).lib := by
  intro desc desc' calls s report report' queue queue'
  have hvalid : (FailureQueue.init : FailureQueue Build.default.failureQueueCap).Valid :=
    FailureQueue.valid_init Build.default.failureQueueCap_pos
  obtain ⟨-, htick⟩ := @tick_drains_confluently .default 0 (fun _ ↦ 0) none true true calls
  obtain ⟨-, hsteady⟩ := htick (by decide)
  have hdesc : ∀ id, (s.lib.entities id).desc.restart = none ∧
      (s.lib.entities id).desc.decide = none := by
    intro id
    change (Function.update (Function.update (fun _ ↦ EntitySlot.zero) 0 (registeredSlot _ desc)) 1
      (registeredSlot _ desc') id).desc.restart = none ∧
      (Function.update (Function.update (fun _ ↦ EntitySlot.zero) 0 (registeredSlot _ desc)) 1
      (registeredSlot _ desc') id).desc.decide = none
    simp only [Function.update_apply]
    split_ifs <;> exact ⟨rfl, rfl⟩
  have hregular : s.lib.Regular := by
    refine ⟨fun id callback h ↦ ?_, fun id callback h ↦ ?_, fun sub callback h ↦ ?_⟩
    · rw [(hdesc id).1] at h
      cases h
    · rw [(hdesc id).2] at h
      cases h
    · have hnone : s.lib.subsystems.handler sub = none := by
        change (SubsystemTable.handler ⟨Function.update (fun _ ↦ SubsystemSlot.zero) 0
          (registeredSubsystem .default { SubsystemDesc.zero with isCriticalPath := true }), 1⟩
          sub) = none
        simp only [SubsystemTable.handler, SubsystemTable.slotOf, Function.update_apply]
        split_ifs <;> rfl
      rw [hnone] at h
      cases h
  refine (hsteady hregular fun _ _ ↦ rfl).2 queue queue' ((hvalid.put report).put report')
    ((hvalid.put report').put report) fun id ↦ ?_
  change [report, report'].filter _ = [report', report].filter _
  by_cases hfirst : (0 : EntityId) = id
  · subst hfirst
    rfl
  · by_cases hsecond : (1 : EntityId) = id
    · subst hsecond
      rfl
    · simp [report, report', hfirst, hsecond]

end Fdir
