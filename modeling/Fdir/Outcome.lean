import Fdir.Frames

/-!
# The outcome of handling a failure

An entity's share of the static variables is a `Record`.  Handling a report
changes the record of the entity it names and, through the action finally
applied, the flags of the linked subsystem and the mode.  This file states that
outcome as a function of the static variables and of the application's answers,
and shows that the code computes it.
-/

namespace Fdir

variable {B : Build}

/-! ## One entity's share of the state -/

/-- The slot, health snapshot and fault latch of one entity. -/
@[ext] structure Record where
  slot : EntitySlot
  snapshot : HealthSnapshot
  latchedReason : Reason
  faultLatched : Bool

def Lib.record (l : Lib B) (id : EntityId) : Record where
  slot := l.entities id
  snapshot := l.health.health id
  latchedReason := l.health.latchedReason id
  faultLatched := l.health.faultLatched id

/-- The mode, the subsystem flags and every entity's health record, latch and
restart counters agree. -/
structure SameOutcome (l l' : Lib B) : Prop where
  mode : l'.mode = l.mode
  subsystems : l'.subsystems = l.subsystems
  record : ∀ id, l'.record id = l.record id

/-- The health of entity `id` is FAILED. -/
def Lib.failed (l : Lib B) (id : EntityId) : Prop := (l.health.health id).health = .failed

instance (l : Lib B) (id : EntityId) : Decidable (l.failed id) :=
  inferInstanceAs (Decidable (_ = _))

def Lib.setRecord (l : Lib B) (id : EntityId) (r : Record) : Lib B :=
  { l with
    entities := Function.update l.entities id r.slot
    health := { l.health with
      health := Function.update l.health.health id r.snapshot
      latchedReason := Function.update l.health.latchedReason id r.latchedReason
      faultLatched := Function.update l.health.faultLatched id r.faultLatched } }

@[simp] theorem Lib.record_setRecord_self (l : Lib B) (id : EntityId) (r : Record) :
    (l.setRecord id r).record id = r := by
  simp [Lib.record, Lib.setRecord]

theorem Lib.record_setRecord_of_ne (l : Lib B) {id other : EntityId} (h : other ≠ id)
    (r : Record) : (l.setRecord id r).record other = l.record other := by
  simp [Lib.record, Lib.setRecord, Function.update_of_ne h]

@[simp] theorem Lib.setRecord_record (l : Lib B) (id : EntityId) :
    l.setRecord id (l.record id) = l := by
  simp [Lib.record, Lib.setRecord]

@[simp] theorem Lib.setRecord_setRecord (l : Lib B) (id : EntityId) (r r' : Record) :
    (l.setRecord id r).setRecord id r' = l.setRecord id r' := by
  simp [Lib.setRecord]

theorem Lib.setRecord_comm (l : Lib B) {id other : EntityId} (h : id ≠ other) (r r' : Record) :
    (l.setRecord id r).setRecord other r' = (l.setRecord other r').setRecord id r := by
  simp only [Lib.setRecord, Function.update_comm h]

/-- The record of an entity whose fault has just been raised. -/
def Record.fail (B : Build) (r : Record) (report : FailureReport) : Record where
  slot := r.slot
  snapshot := { r.snapshot with
    health := .failed
    errorCode := report.errorCode
    detail := copyDetail B.detailSize (some report.detail) }
  latchedReason := report.reason
  faultLatched := true

def Record.bump (r : Record) (reason : Reason) : Record :=
  { r with slot := bumpRestart r.slot reason }

/-- The record a successful restart leaves behind at clock reading `now`. -/
def Record.restore (r : Record) (now : UInt32) : Record where
  slot := r.slot
  snapshot := ⟨.ok, now, 0, []⟩
  latchedReason := .initFailed
  faultLatched := false

/-! ## The decision -/

/-- What the application answers while a report is handled, and the clock
reading a successful restart stamps. -/
@[ext] structure Answers where
  decide : Action
  exhausted : Action
  restart : ℤ
  now : UInt32

/-- The action `decide` or the default policy starts from. -/
def Record.choose (r : Record) (ans : Answers) (report : FailureReport) : Action :=
  if r.slot.desc.decide.isSome ∧ ans.decide ≠ .none then ans.decide
  else defaultDecide r.slot report

/-- The handler of a subsystem, if it is registered and has one. -/
def SubsystemTable.handler (t : SubsystemTable) (sub : SubsystemId) : Option ExhaustedFn :=
  (t.slotOf sub).bind fun slot ↦ slot.desc.onEntityExhausted

/-- The override of the linked subsystem. -/
def Lib.resolve (l : Lib B) (ans : Answers) (sub : SubsystemId) (action : Action) : Action :=
  if action = .restart ∨ action = .none ∨ sub = subsystemNone then action
  else if (l.subsystems.handler sub).isSome ∧ ans.exhausted ≠ .none then ans.exhausted
  else action

/-- What is left when a restart is not possible or fails. -/
def Record.fallback (r : Record) : Action :=
  if r.slot.desc.onExhausted = .restart then .none else r.slot.desc.onExhausted

/-- The record after the restart attempt, if `action` is one, and the action that
is applied in the end. -/
def Record.settle (r : Record) (ans : Answers) (action : Action) (reason : Reason) :
    Record × Action :=
  if action = .restart then
    if r.slot.desc.restart.isSome then
      if ans.restart = 0 then ((r.bump reason).restore ans.now, .restart)
      else (r.bump reason, r.fallback)
    else (r, r.fallback)
  else (r, action)

/-! ## The consequences for subsystem and mode -/

/-- The flags an action sets on the linked subsystem. -/
def Action.mark : Action → SubsystemTable → SubsystemId → SubsystemTable
  | .degrade => SubsystemTable.markDegradedUnsafe
  | .unavailable | .safe | .reboot => SubsystemTable.markUnavailableUnsafe
  | .none | .restart | .other _ => fun t _ ↦ t

/-- The mode an action raises the system to. -/
def Action.floor : Action → Mode
  | .degrade | .unavailable => .degraded
  | .safe => .safe
  | .reboot => .rebootPending
  | .none | .restart | .other _ => .nominal

/-- The static variables after an action of an entity linked to `sub`. -/
def Lib.strike (l : Lib B) (sub : SubsystemId) (action : Action) : Lib B :=
  { l with
    subsystems := if sub = subsystemNone then l.subsystems else action.mark l.subsystems sub
    mode := max l.mode action.floor }

/-- The action `decide`, the default policy and the linked subsystem agree on. -/
def Lib.action (l : Lib B) (ans : Answers) (report : FailureReport) : Action :=
  l.resolve ans (l.entities report.entity).desc.linkedSubsystem
    (((l.record report.entity).fail B report).choose ans report)

/-- The record of the entity a report names after its recovery, and the action
that is applied in the end. -/
def Lib.verdict (l : Lib B) (ans : Answers) (report : FailureReport) : Record × Action :=
  ((l.record report.entity).fail B report).settle ans (l.action ans report) report.reason

/-- The outcome of the recovery of a registered entity. -/
def Lib.recover (l : Lib B) (ans : Answers) (report : FailureReport) : Lib B :=
  ((l.setRecord report.entity (l.verdict ans report).1).strike
    (l.entities report.entity).desc.linkedSubsystem (l.verdict ans report).2).review

/-- A report the library acts on: its fault is not latched. -/
def Lib.raises (l : Lib B) (report : FailureReport) : Prop :=
  l.health.faultIsLatchedUnsafe report.entity report.reason = false

instance (l : Lib B) (report : FailureReport) : Decidable (l.raises report) :=
  inferInstanceAs (Decidable (_ = _))

/-- The recovery of a registered entity calls its restart callback. -/
def Lib.attempts (l : Lib B) (ans : Answers) (report : FailureReport) : Prop :=
  l.action ans report = .restart ∧ (l.entities report.entity).desc.restart.isSome

instance (l : Lib B) (ans : Answers) (report : FailureReport) :
    Decidable (l.attempts ans report) := inferInstanceAs (Decidable (_ ∧ _))

/-- The outcome of the critical section of `fdir_handle_failure`. -/
def Lib.handle (l : Lib B) (ans : Answers) (report : FailureReport) : Lib B :=
  if l.health.faultIsLatchedUnsafe report.entity report.reason then l
  else if l.entityCount ≤ report.entity ∨ (l.entities report.entity).used = false then
    l.raise .degraded
  else l.recover ans report

section Frame

variable (l : Lib B) (ans : Answers) (report : FailureReport)

@[simp] theorem Lib.handle_supervisionEnabled :
    (l.handle ans report).supervisionEnabled = l.supervisionEnabled := by
  unfold Lib.handle
  split_ifs <;> rfl

@[simp] theorem Lib.handle_queue : (l.handle ans report).queue = l.queue := by
  unfold Lib.handle
  split_ifs <;> rfl

@[simp] theorem Lib.handle_entityCount : (l.handle ans report).entityCount = l.entityCount := by
  unfold Lib.handle
  split_ifs <;> rfl

@[simp] theorem Lib.handle_entityLimit :
    (l.handle ans report).health.entityLimit = l.health.entityLimit := by
  unfold Lib.handle
  split_ifs <;> rfl

@[simp] theorem Lib.handle_config : (l.handle ans report).config = l.config := by
  unfold Lib.handle
  split_ifs <;> rfl

theorem Lib.record_handle_of_ne {id : EntityId} (h : id ≠ report.entity) :
    (l.handle ans report).record id = l.record id := by
  unfold Lib.handle
  split_ifs
  · rfl
  · rfl
  · exact Lib.record_setRecord_of_ne l h _

theorem Lib.failed_handle_of_ne {id : EntityId} (h : id ≠ report.entity) :
    (l.handle ans report).failed id ↔ l.failed id := by
  have hsnapshot := congrArg Record.snapshot (Lib.record_handle_of_ne l ans report h)
  simp only [Lib.record] at hsnapshot
  rw [Lib.failed, Lib.failed, hsnapshot]

theorem Lib.record_handle_self
    (hlatched : l.health.faultIsLatchedUnsafe report.entity report.reason = false)
    (hknown : ¬ (l.entityCount ≤ report.entity ∨ (l.entities report.entity).used = false)) :
    (l.handle ans report).record report.entity = (l.verdict ans report).1 := by
  simp only [Lib.handle, hlatched, Bool.false_eq_true, if_false, if_neg hknown]
  exact Lib.record_setRecord_self l report.entity _

/-- A recovery ends with the record restored or still failed. -/
theorem Record.settle_cases (r : Record) (ans : Answers) (action : Action) (reason : Reason) :
    ((r.settle ans action reason).1.snapshot = ⟨.ok, ans.now, 0, []⟩ ∧
        (r.settle ans action reason).1.latchedReason = .initFailed ∧
        (r.settle ans action reason).1.faultLatched = false) ∨
      ((r.settle ans action reason).1.snapshot = r.snapshot ∧
        (r.settle ans action reason).1.latchedReason = r.latchedReason ∧
        (r.settle ans action reason).1.faultLatched = r.faultLatched) := by
  unfold Record.settle
  split_ifs
  · exact Or.inl ⟨rfl, rfl, rfl⟩
  all_goals exact Or.inr ⟨rfl, rfl, rfl⟩

end Frame

/-! ## The code computes the outcome -/

/-- What `decide` answers in state `s`. -/
def decideAnswer (s : State B) (report : FailureReport) : Action :=
  let slot := s.lib.entities report.entity
  match slot.desc.decide with
  | none => .none
  | some decide => decide (s.context report.entity) report.entity report slot.restartCount
      slot.watchdogRestartCount slot.desc.user

/-- What the restart callback answers in state `s`, once the counter is bumped. -/
def restartAnswer (s : State B) (id : EntityId) (reason : Reason) : ℤ :=
  let slot := s.lib.entities id
  match slot.desc.restart with
  | none => 0
  | some restart =>
      restart ((s.write fun l ↦ l.setSlot id (bumpRestart slot reason)).context id) id
        slot.desc.user

/-- The clock reading a successful restart in state `s` stamps. -/
def restartClock (s : State B) (id : EntityId) (reason : Reason) : UInt32 :=
  (getNowMs (s.log (.restart id reason (restartAnswer s id reason)))).1

section EntityLimit

variable (t : HealthTable) (id : EntityId)

@[simp] theorem clearLatchUnsafe_entityLimit :
    (t.clearLatchUnsafe id).2.entityLimit = t.entityLimit := by
  unfold HealthTable.clearLatchUnsafe
  split <;> rfl

@[simp] theorem setUnsafe_entityLimit (health : Health) (errorCode : UInt16) (detail : CStr) :
    (t.setUnsafe id health errorCode detail).entityLimit = t.entityLimit := by
  unfold HealthTable.setUnsafe
  split <;> rfl

@[simp] theorem resetUnsafe_entityLimit (nowMs : UInt32) :
    (t.resetUnsafe id nowMs).entityLimit = t.entityLimit := by
  unfold HealthTable.resetUnsafe
  split <;> rfl

@[simp] theorem heartbeat_entityLimit (nowMs : UInt32) :
    (t.heartbeat id nowMs).entityLimit = t.entityLimit := by
  unfold HealthTable.heartbeat
  split <;> rfl

end EntityLimit

theorem getNowMs_fst_congr {s s' : State B} (hready : s.lib.portReady = s'.lib.portReady)
    (hclock : s.world.clock = s'.world.clock) (hpace : s.world.pace = s'.world.pace)
    (htrace : s.world.trace = s'.world.trace) : (getNowMs s).1 = (getNowMs s').1 := by
  simp only [getNowMs, hready, hclock, hpace, htrace]
  split <;> rfl

theorem healthResetUnsafe_lib {s : State B} {id : EntityId}
    (hid : id < s.lib.health.entityLimit) :
    (healthResetUnsafe s id).lib =
      { s.lib with health := s.lib.health.resetUnsafe id (getNowMs s).1 } := by
  simp [healthResetUnsafe, UInt8.not_le.mpr hid]

theorem fail_lib {l : Lib B} {report : FailureReport}
    (hid : report.entity < l.health.entityLimit) :
    { l with
      health := (l.health.latchFaultUnsafe report.entity report.reason).2.setUnsafe report.entity
        .failed report.errorCode (copyDetail B.detailSize (some report.detail)) } =
      l.setRecord report.entity ((l.record report.entity).fail B report) := by
  have hlimit : ¬ l.health.entityLimit ≤ report.entity := UInt8.not_le.mpr hid
  by_cases hlatched : l.health.faultLatched report.entity = true ∧
      l.health.latchedReason report.entity = report.reason
  · have hreason : Function.update l.health.latchedReason report.entity report.reason =
        l.health.latchedReason := by
      rw [← hlatched.2, Function.update_eq_self]
    have hflag : Function.update l.health.faultLatched report.entity true =
        l.health.faultLatched := by
      rw [← hlatched.1, Function.update_eq_self]
    simp [HealthTable.latchFaultUnsafe, HealthTable.setUnsafe, Lib.setRecord, Lib.record,
      Record.fail, hlimit, hlatched, hreason, hflag]
  · simp [HealthTable.latchFaultUnsafe, HealthTable.setUnsafe, Lib.setRecord, Lib.record,
      Record.fail, hlimit, hlatched]

theorem bump_lib (l : Lib B) (id : EntityId) (reason : Reason) :
    l.setSlot id (bumpRestart (l.entities id) reason) =
      l.setRecord id ((l.record id).bump reason) := by
  simp [Lib.setSlot, Lib.setRecord, Lib.record, Record.bump]

theorem restore_lib {l : Lib B} {id : EntityId} (hid : id < l.health.entityLimit)
    (now : UInt32) :
    { l with health := (l.health.clearLatchUnsafe id).2.resetUnsafe id now } =
      l.setRecord id ((l.record id).restore now) := by
  simp [HealthTable.clearLatchUnsafe, HealthTable.resetUnsafe, Lib.setRecord, Lib.record,
    Record.restore, UInt8.not_le.mpr hid]


theorem tryRestart_of_none {s : State B} {id : EntityId} {reason : Reason}
    (hrestart : (s.lib.entities id).desc.restart = none) :
    tryRestart s id reason = (.errPort, s) := by
  simp [tryRestart, hrestart]

theorem tryRestart_fst (s : State B) (id : EntityId) (reason : Reason) :
    (tryRestart s id reason).1 = .ok ↔
      (s.lib.entities id).desc.restart.isSome ∧ restartAnswer s id reason = 0 := by
  cases hrestart : (s.lib.entities id).desc.restart with
  | none => simp [tryRestart, hrestart]
  | some restart =>
      simp only [tryRestart, restartAnswer, hrestart, Option.isSome_some, true_and]
      split
      next h => simpa using h
      next h => simpa using h

/-- The state of a restart attempt when the callback has answered. -/
def restartCalled (s : State B) (id : EntityId) (reason : Reason) : State B :=
  (s.write fun l ↦ l.setSlot id (bumpRestart (s.lib.entities id) reason)).log
    (.restart id reason (restartAnswer s id reason))

theorem restartCalled_lib (s : State B) (id : EntityId) (reason : Reason) :
    (restartCalled s id reason).lib = s.lib.setRecord id ((s.lib.record id).bump reason) :=
  bump_lib s.lib id reason

theorem tryRestart_of_failed {s : State B} {id : EntityId} {reason : Reason}
    (hrestart : (s.lib.entities id).desc.restart.isSome)
    (hanswer : restartAnswer s id reason ≠ 0) :
    tryRestart s id reason = (.errState, restartCalled s id reason) := by
  obtain ⟨restart, hsome⟩ := Option.isSome_iff_exists.mp hrestart
  simp only [restartAnswer, hsome] at hanswer
  simp [tryRestart, restartCalled, restartAnswer, hsome, hanswer]

theorem tryRestart_lib_of_ok {s : State B} {id : EntityId} {reason : Reason}
    (hid : id < s.lib.health.entityLimit)
    (hrestart : (s.lib.entities id).desc.restart.isSome)
    (hanswer : restartAnswer s id reason = 0) :
    (tryRestart s id reason).2.lib =
      s.lib.setRecord id (((s.lib.record id).bump reason).restore (restartClock s id reason)) := by
  let cleared := (restartCalled s id reason).write fun l ↦
    { l with health := (l.health.clearLatchUnsafe id).2 }
  have hreset : (tryRestart s id reason).2.lib = (healthResetUnsafe cleared id).lib := by
    obtain ⟨restart, hsome⟩ := Option.isSome_iff_exists.mp hrestart
    simp only [restartAnswer, hsome] at hanswer
    simp only [tryRestart, hsome, hanswer, ne_eq, not_true_eq_false, if_false,
      emitEventFull_lib, cleared, restartCalled, restartAnswer]
    split <;> simp
  have hlimit : id < cleared.lib.health.entityLimit := by
    change id < ((restartCalled s id reason).lib.health.clearLatchUnsafe id).2.entityLimit
    rw [clearLatchUnsafe_entityLimit, restartCalled_lib]
    exact hid
  have hclock : (getNowMs cleared).1 = restartClock s id reason :=
    getNowMs_fst_congr rfl rfl rfl rfl
  rw [hreset, healthResetUnsafe_lib hlimit, hclock]
  change { (restartCalled s id reason).lib with
    health := ((restartCalled s id reason).lib.health.clearLatchUnsafe id).2.resetUnsafe id
      (restartClock s id reason) } = _
  rw [restartCalled_lib]
  have hbumped : id < (s.lib.setRecord id ((s.lib.record id).bump reason)).health.entityLimit :=
    hid
  have hrestore := restore_lib hbumped (restartClock s id reason)
  rw [hrestore, Lib.record_setRecord_self, Lib.setRecord_setRecord]

theorem tryRestart_lib {s : State B} {id : EntityId} (hid : id < s.lib.health.entityLimit)
    (reason : Reason) (ans : Answers) (hanswer : ans.restart = restartAnswer s id reason)
    (hnow : ans.now = restartClock s id reason) :
    (tryRestart s id reason).2.lib =
      s.lib.setRecord id ((s.lib.record id).settle ans .restart reason).1 := by
  have hslot : (s.lib.record id).slot.desc.restart = (s.lib.entities id).desc.restart := rfl
  by_cases hrestart : (s.lib.entities id).desc.restart.isSome
  · by_cases hzero : restartAnswer s id reason = 0
    · rw [tryRestart_lib_of_ok hid hrestart hzero]
      simp [Record.settle, hslot, hrestart, hanswer, hzero, hnow]
    · rw [tryRestart_of_failed hrestart hzero, restartCalled_lib]
      simp [Record.settle, hslot, hrestart, hanswer, hzero]
  · rw [tryRestart_of_none (by simpa using hrestart)]
    simp [Record.settle, hslot, hrestart]

/-! ## From the decision to the final state -/

@[simp] theorem markLinked_lib (mark : SubsystemTable → SubsystemId → SubsystemTable)
    (detail : CStr) (s : State B) (id : EntityId) (report : FailureReport) :
    (markLinked mark detail s id report).lib =
      { s.lib with
        subsystems := if (s.lib.entities id).desc.linkedSubsystem = subsystemNone then
            s.lib.subsystems
          else mark s.lib.subsystems (s.lib.entities id).desc.linkedSubsystem } := by
  by_cases hsub : (s.lib.entities id).desc.linkedSubsystem = subsystemNone
  · simp [markLinked, hsub]
  · simp [markLinked, hsub]

theorem Lib.review_review (l : Lib B) : l.review.review = l.review := by
  simp only [Lib.review]
  split
  · rw [max_assoc, max_self]
  · rfl

/-- Apart from a dual-path check, which is made again in the end, an action
strikes the linked subsystem and the mode. -/
theorem review_applyFinalAction_lib (s : State B) (id : EntityId) (action : Action)
    (report : FailureReport) :
    (applyFinalAction s id action report).lib.review =
      (s.lib.strike (s.lib.entities id).desc.linkedSubsystem action).review := by
  have hidle : s.lib = { s.lib with mode := max s.lib.mode .nominal } := by
    rw [max_eq_left (Mode.nominal_le s.lib.mode)]
  have hkept : ∀ sub : SubsystemId,
      (if sub = subsystemNone then s.lib.subsystems else s.lib.subsystems) = s.lib.subsystems :=
    fun sub ↦ ite_self _
  cases action with
  | degrade =>
      simp only [applyFinalAction, enterDegradedModeUnsafe_lib, markLinked_lib]
      rfl
  | unavailable =>
      simp only [applyFinalAction, evaluateDualPath_lib, enterDegradedModeUnsafe_lib,
        markLinked_lib, Lib.review_review]
      rfl
  | safe =>
      simp only [applyFinalAction, enterSafeModeUnsafe_lib, markLinked_lib]
      rfl
  | reboot =>
      simp only [applyFinalAction, tryRebootUnsafe_lib, markLinked_lib]
      rfl
  | none | restart | other code =>
      simp only [applyFinalAction, Lib.strike, Action.mark, Action.floor, hkept, ← hidle]

theorem evaluate_applyAction_lib {s : State B} {id : EntityId}
    (hid : id < s.lib.health.entityLimit) (action : Action) (report : FailureReport)
    (ans : Answers) (hanswer : ans.restart = restartAnswer s id report.reason)
    (hnow : ans.now = restartClock s id report.reason) :
    (evaluateDualPath (applyAction s id action report)).lib =
      let settled := (s.lib.record id).settle ans action report.reason
      ((s.lib.setRecord id settled.1).strike (s.lib.entities id).desc.linkedSubsystem
        settled.2).review := by
  have hslot : (s.lib.record id).slot = s.lib.entities id := rfl
  rw [evaluateDualPath_lib]
  by_cases haction : action = .restart
  · subst haction
    have hlib := tryRestart_lib hid report.reason ans hanswer hnow
    have hlinked : ((tryRestart s id report.reason).2.lib.entities id).desc.linkedSubsystem =
        (s.lib.entities id).desc.linkedSubsystem := by
      rw [hlib]
      simp only [Lib.setRecord, Function.update_self, Record.settle]
      split_ifs <;> simp only [Record.restore, Record.bump, bumpRestart, hslot] <;>
        split_ifs <;> rfl
    by_cases hok : (tryRestart s id report.reason).1 = .ok
    · obtain ⟨hrestart, hzero⟩ := (tryRestart_fst s id report.reason).mp hok
      have hidle : ∀ l : Lib B, l.strike (s.lib.entities id).desc.linkedSubsystem .restart = l := by
        intro l
        simp [Lib.strike, Action.mark, Action.floor, max_eq_left (Mode.nominal_le l.mode)]
      simp only [applyAction, if_true, hok, ne_eq, not_true_eq_false, if_false, hlib]
      simp [Record.settle, hslot, hrestart, hanswer, hzero, hidle]
    · have hfallback : ((s.lib.record id).settle ans .restart report.reason).2 =
          (s.lib.record id).fallback := by
        rw [tryRestart_fst] at hok
        by_cases hrestart : (s.lib.entities id).desc.restart.isSome
        · have hzero : ¬ restartAnswer s id report.reason = 0 := fun h ↦ hok ⟨hrestart, h⟩
          simp [Record.settle, hslot, hrestart, hanswer, hzero]
        · simp [Record.settle, hslot, hrestart]
      simp only [applyAction, if_true, hok, ne_eq, not_false_eq_true]
      rw [review_applyFinalAction_lib, hlinked, hlib, hfallback]
      rfl
  · simp only [applyAction, if_neg haction, Record.settle]
    rw [review_applyFinalAction_lib, Lib.setRecord_record]

/-! ## Choosing the action -/

@[simp] theorem chooseAction_lib (s : State B) (report : FailureReport) :
    (chooseAction s report).2.lib = s.lib := by
  cases hdecide : (s.lib.entities report.entity).desc.decide with
  | none => simp [chooseAction, hdecide]
  | some decide => simp [chooseAction, hdecide]

theorem chooseAction_fst (s : State B) (report : FailureReport) (ans : Answers)
    (hdecide : ans.decide = decideAnswer s report) :
    (chooseAction s report).1 = (s.lib.record report.entity).choose ans report := by
  have hslot : (s.lib.record report.entity).slot = s.lib.entities report.entity := rfl
  unfold Record.choose
  cases hsome : (s.lib.entities report.entity).desc.decide with
  | none => simp [chooseAction, hslot, hsome]
  | some decide => simp [chooseAction, hslot, hsome, hdecide, decideAnswer, ite_not]

theorem subsystemOnEntityExhausted_fst (s : State B) (sub : SubsystemId) (id : EntityId)
    (report : Option FailureReport) (h : s.lib.subsystems.handler sub = none) :
    (subsystemOnEntityExhausted s sub id report).1 = .none := by
  unfold subsystemOnEntityExhausted
  cases hslot : s.lib.subsystems.slotOf sub with
  | none => rfl
  | some slot =>
      rw [SubsystemTable.handler, hslot] at h
      simp only [Option.bind_some] at h
      simp [h]

@[simp] theorem resolveExhaustedAction_lib (s : State B) (id : EntityId) (action : Action)
    (report : FailureReport) : (resolveExhaustedAction s id action report).2.lib = s.lib := by
  unfold resolveExhaustedAction
  simp only
  split_ifs <;> simp

theorem resolveExhaustedAction_fst (s : State B) (id : EntityId) (action : Action)
    (report : FailureReport) (ans : Answers)
    (hexhausted : ans.exhausted = (subsystemOnEntityExhausted s
      (s.lib.entities id).desc.linkedSubsystem id (some report)).1) :
    (resolveExhaustedAction s id action report).1 =
      s.lib.resolve ans (s.lib.entities id).desc.linkedSubsystem action := by
  unfold resolveExhaustedAction Lib.resolve
  rw [hexhausted]
  by_cases hkept : action = .restart ∨ action = .none
  · rcases hkept with rfl | rfl <;> simp
  · by_cases hsub : (s.lib.entities id).desc.linkedSubsystem = subsystemNone
    · simp [hkept, hsub]
    · have hkept' : ¬ (action = .restart ∨ action = .none ∨
          (s.lib.entities id).desc.linkedSubsystem = subsystemNone) := by
        tauto
      simp only [if_neg hkept, if_neg hsub, if_neg hkept']
      cases hhandler : s.lib.subsystems.handler (s.lib.entities id).desc.linkedSubsystem with
      | none =>
          simp [subsystemOnEntityExhausted_fst _ _ _ _ hhandler]
      | some handler =>
          simp only [Option.isSome_some, true_and]
          split <;> rfl

/-- The state in which the recovery of an entity consults the application. -/
def failedState (s : State B) (report : FailureReport) : State B :=
  healthSetUnsafe (s.write fun l ↦ { l with
    health := (l.health.latchFaultUnsafe report.entity report.reason).2 })
    report.entity .failed report.errorCode (some report.detail)

theorem failedState_lib {s : State B} {report : FailureReport}
    (hid : report.entity < s.lib.health.entityLimit) :
    (failedState s report).lib =
      s.lib.setRecord report.entity ((s.lib.record report.entity).fail B report) :=
  fail_lib hid

/-- The state in which the recovery of an entity applies its action. -/
def resolvedState (s : State B) (report : FailureReport) : State B :=
  let chosen := chooseAction (failedState s report) report
  (resolveExhaustedAction chosen.2 report.entity chosen.1 report).2

theorem resolvedState_lib {s : State B} {report : FailureReport}
    (hid : report.entity < s.lib.health.entityLimit) :
    (resolvedState s report).lib =
      s.lib.setRecord report.entity ((s.lib.record report.entity).fail B report) := by
  simp only [resolvedState, resolveExhaustedAction_lib, chooseAction_lib]
  exact failedState_lib hid

section Resolved

variable {s : State B} {report : FailureReport}

theorem resolvedState_limit (hid : report.entity < s.lib.health.entityLimit) :
    report.entity < (resolvedState s report).lib.health.entityLimit := by
  rwa [resolvedState_lib hid]

theorem resolvedState_entities (hid : report.entity < s.lib.health.entityLimit) :
    (resolvedState s report).lib.entities = s.lib.entities := by
  rw [resolvedState_lib hid]
  simp [Lib.setRecord, Lib.record, Record.fail]

theorem resolvedState_record (hid : report.entity < s.lib.health.entityLimit) :
    (resolvedState s report).lib.record report.entity =
      (s.lib.record report.entity).fail B report := by
  rw [resolvedState_lib hid, Lib.record_setRecord_self]

theorem resolvedState_latched (hid : report.entity < s.lib.health.entityLimit) :
    (resolvedState s report).lib.health.faultLatched report.entity = true ∧
      (resolvedState s report).lib.health.latchedReason report.entity = report.reason := by
  rw [resolvedState_lib hid]
  simp [Lib.setRecord, Record.fail]

theorem resolvedState_subsystems (hid : report.entity < s.lib.health.entityLimit) :
    (resolvedState s report).lib.subsystems = s.lib.subsystems := by
  rw [resolvedState_lib hid]
  rfl

theorem resolvedState_mode (hid : report.entity < s.lib.health.entityLimit) :
    (resolvedState s report).lib.mode = s.lib.mode := by
  rw [resolvedState_lib hid]
  rfl

end Resolved

/-- The answers the application gives while `recoverEntity` runs from `s`. -/
def answers (s : State B) (report : FailureReport) : Answers where
  decide := decideAnswer (failedState s report) report
  exhausted := (subsystemOnEntityExhausted (chooseAction (failedState s report) report).2
    (s.lib.entities report.entity).desc.linkedSubsystem report.entity (some report)).1
  restart := restartAnswer (resolvedState s report) report.entity report.reason
  now := restartClock (resolvedState s report) report.entity report.reason

theorem failedState_entities {s : State B} {report : FailureReport}
    (hid : report.entity < s.lib.health.entityLimit) :
    (failedState s report).lib.entities = s.lib.entities := by
  rw [failedState_lib hid]
  simp [Lib.setRecord, Lib.record, Record.fail]

theorem chooseAction_failedState {s : State B} {report : FailureReport}
    (hid : report.entity < s.lib.health.entityLimit) :
    (chooseAction (failedState s report) report).1 =
      ((s.lib.record report.entity).fail B report).choose (answers s report) report := by
  have h := chooseAction_fst (failedState s report) report (answers s report) rfl
  rwa [failedState_lib hid, Lib.record_setRecord_self] at h

/-- Once the application has been consulted, the recovery applies the action all
have agreed on. -/
theorem recoverEntity_eq {s : State B} {report : FailureReport}
    (hid : report.entity < s.lib.health.entityLimit) :
    recoverEntity s report = evaluateDualPath (applyAction (resolvedState s report)
      report.entity (s.lib.action (answers s report) report) report) := by
  let chosen := chooseAction (failedState s report) report
  let resolved := resolveExhaustedAction chosen.2 report.entity chosen.1 report
  have hentities := failedState_entities hid
  have haction : resolved.1 = s.lib.action (answers s report) report := by
    have h := resolveExhaustedAction_fst chosen.2 report.entity chosen.1 report
      (answers s report) (by rw [chooseAction_lib, hentities]; rfl)
    rw [chooseAction_lib, hentities, failedState_lib hid] at h
    rw [Lib.action, ← chooseAction_failedState hid]
    exact h
  rw [← haction]
  rfl

theorem recoverEntity_lib {s : State B} {report : FailureReport}
    (hid : report.entity < s.lib.health.entityLimit) :
    (recoverEntity s report).lib = s.lib.recover (answers s report) report := by
  rw [recoverEntity_eq hid, evaluate_applyAction_lib (resolvedState_limit hid) _ report
    (answers s report) rfl rfl, resolvedState_entities hid, resolvedState_lib hid,
    Lib.record_setRecord_self]
  simp only [Lib.setRecord_setRecord]
  rfl

/-- The state the critical section of `fdir_handle_failure` recovers from. -/
def raisedState (s : State B) (report : FailureReport) : State B :=
  let s := syncEnter s
  emitEventFull s (if report.reason = .watchdog then .watchdog else .failure) s.lib.mode
    report.entity report.reason report.errorCode .entity .raised (some report.detail)

theorem raisedState_lib (s : State B) (report : FailureReport) :
    (raisedState s report).lib = s.lib := by
  simp [raisedState]

theorem handleFailureLocked_of_latched {s : State B} {report : FailureReport}
    (hlatched : s.lib.health.faultIsLatchedUnsafe report.entity report.reason = true) :
    handleFailureLocked s report = syncExit (syncEnter s) := by
  simp [handleFailureLocked, hlatched]

theorem handleFailureLocked_of_unknown {s : State B} {report : FailureReport}
    (hlatched : s.lib.health.faultIsLatchedUnsafe report.entity report.reason = false)
    (hunknown : s.lib.entityCount ≤ report.entity ∨
      (s.lib.entities report.entity).used = false) :
    handleFailureLocked s report = syncExit (enterDegradedModeUnsafe (raisedState s report)) := by
  simp only [handleFailureLocked, syncEnter_lib, emitEventFull_lib, hlatched,
    Bool.false_eq_true, if_false, if_pos hunknown, raisedState]

theorem handleFailureLocked_of_known {s : State B} {report : FailureReport}
    (hlatched : s.lib.health.faultIsLatchedUnsafe report.entity report.reason = false)
    (hknown : ¬ (s.lib.entityCount ≤ report.entity ∨
      (s.lib.entities report.entity).used = false)) :
    handleFailureLocked s report = syncExit (recoverEntity (raisedState s report) report) := by
  simp only [handleFailureLocked, syncEnter_lib, emitEventFull_lib, hlatched,
    Bool.false_eq_true, if_false, if_neg hknown, raisedState]

theorem handleFailureLocked_lib {s : State B}
    (hlimit : s.lib.health.entityLimit = s.lib.entityCount)
    (report : FailureReport) :
    (handleFailureLocked s report).lib =
      s.lib.handle (answers (raisedState s report) report) report := by
  unfold Lib.handle
  by_cases hlatched : s.lib.health.faultIsLatchedUnsafe report.entity report.reason = true
  · rw [if_pos hlatched, handleFailureLocked_of_latched hlatched, syncExit_lib, syncEnter_lib]
  · rw [if_neg hlatched]
    rw [Bool.not_eq_true] at hlatched
    by_cases hunknown : s.lib.entityCount ≤ report.entity ∨
        (s.lib.entities report.entity).used = false
    · rw [if_pos hunknown, handleFailureLocked_of_unknown hlatched hunknown, syncExit_lib,
        enterDegradedModeUnsafe_lib, raisedState_lib]
    · have hid : report.entity < (raisedState s report).lib.health.entityLimit := by
        rw [raisedState_lib, hlimit]
        exact UInt8.not_le.mp fun h ↦ hunknown (Or.inl h)
      rw [if_neg hunknown, handleFailureLocked_of_known hlatched hunknown, syncExit_lib,
        recoverEntity_lib hid, raisedState_lib]

end Fdir
