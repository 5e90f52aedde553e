import Fdir.Api

/-!
# What the helpers leave alone

Hooks and locks act on the world only, and the helpers under the lock change
exactly the static variables named here.  Raising the mode takes the maximum in
the order NOMINAL < DEGRADED < SAFE < REBOOT_PENDING.
-/

namespace Fdir

variable {B : Build}

/-! ## Operations on the world -/

@[simp] theorem syncEnter_lib (s : State B) : (syncEnter s).lib = s.lib := by
  unfold syncEnter
  split <;> rfl

@[simp] theorem syncExit_lib (s : State B) : (syncExit s).lib = s.lib := by
  unfold syncExit
  split <;> rfl

@[simp] theorem getNowMs_lib (s : State B) : (getNowMs s).2.lib = s.lib := by
  unfold getNowMs
  split <;> rfl

@[simp] theorem emitEvent_lib (s : State B) (event : Event) :
    (emitEvent s event).lib = s.lib := by
  unfold emitEvent
  split <;> rfl

@[simp] theorem requestReboot_lib (s : State B) (reason : CStr) :
    (requestReboot s reason).lib = s.lib := by
  unfold requestReboot
  split <;> rfl

@[simp] theorem stamp_lib (s : State B) (id : EntityId) : (s.stamp id).lib = s.lib := by
  unfold State.stamp
  split <;> rfl

@[simp] theorem emitEventFull_lib (s : State B) (kind : EventKind) (mode : Mode)
    (entity : EntityId) (reason : Reason) (errorCode : UInt16) (level : Level) (phase : Phase)
    (detail : Option CStr) :
    (emitEventFull s kind mode entity reason errorCode level phase detail).lib = s.lib := by
  simp [emitEventFull]

@[simp] theorem emitSubsystemState_lib (s : State B) (sub : SubsystemId) (entity : EntityId)
    (reason : Reason) (errorCode : UInt16) (phase : Phase) (detail : CStr) :
    (emitSubsystemState s sub entity reason errorCode phase detail).lib = s.lib := by
  simp [emitSubsystemState]

@[simp] theorem notifySystemHandler_lib (s : State B) (mode : Mode)
    (report : Option FailureReport) : (notifySystemHandler s mode report).lib = s.lib := by
  unfold notifySystemHandler
  split <;> rfl

@[simp] theorem systemMode_fst (s : State B) : (systemMode s).1 = s.lib.mode := by
  simp [systemMode]

@[simp] theorem systemMode_lib (s : State B) : (systemMode s).2.lib = s.lib := by
  simp [systemMode]

@[simp] theorem supervisionEnabled_fst (s : State B) :
    (supervisionEnabled s).1 = s.lib.supervisionEnabled := by
  simp [supervisionEnabled]

@[simp] theorem supervisionEnabled_lib (s : State B) :
    (supervisionEnabled s).2.lib = s.lib := by
  simp [supervisionEnabled]

@[simp] theorem subsystemOnEntityExhausted_lib (s : State B) (sub : SubsystemId)
    (entity : EntityId) (report : Option FailureReport) :
    (subsystemOnEntityExhausted s sub entity report).2.lib = s.lib := by
  unfold subsystemOnEntityExhausted
  split
  · rfl
  · split <;> rfl

/-- Whatever the gate answers, it only takes and releases the lock. -/
theorem entityMayRun_snd (s : State B) (id : EntityId) :
    (entityMayRun s id).2 = syncExit (syncEnter s) := by
  simp only [entityMayRun]
  split_ifs
  · rfl
  · rfl
  · cases (syncEnter s).lib.health.snapshot id with
    | none => rfl
    | some snapshot => exact apply_ite Prod.snd _ _ _ |>.trans (ite_self _)

@[simp] theorem query_lib (s : State B) (q : Query) : (q.exec s).2.lib = s.lib := by
  cases q with
  | entityMayRun id => simp [Query.exec, entityMayRun_snd]
  | healthSnapshotCopy id out =>
      simp only [Query.exec, snapshotCopy]
      split_ifs <;> simp
  | healthFaultIsLatched id reason => simp [Query.exec, faultIsLatched]
  | failureQueueFullLatched => simp [Query.exec, failureQueueFullLatched]
  | _ => simp [Query.exec]

/-! ## The mode -/

/-- Raise the mode to at least `mode`. -/
def Lib.raise (l : Lib B) (mode : Mode) : Lib B := { l with mode := max l.mode mode }

/-- The dual-path rule: SAFE when enough critical subsystems are unavailable. -/
def Lib.review (l : Lib B) : Lib B :=
  { l with
    mode := if l.config.safeModeCriticalFailureThreshold ≤
        l.subsystems.criticalUnavailableCount then max l.mode .safe else l.mode }

@[simp] theorem setMode_lib (s : State B) (mode : Mode) (entity : EntityId)
    (detail : Option CStr) (report : Option FailureReport) :
    (setMode s mode entity detail report).lib = { s.lib with mode := mode } := by
  unfold setMode
  split
  next h => rw [← h]
  next => simp

@[simp] theorem enterDegradedModeUnsafe_lib (s : State B) :
    (enterDegradedModeUnsafe s).lib = s.lib.raise .degraded := by
  unfold enterDegradedModeUnsafe Lib.raise
  cases hmode : s.lib.mode
  · rw [if_pos rfl, setMode_lib]
    rfl
  all_goals
    rw [if_neg (by decide)]
    conv_lhs => rw [← show { s.lib with mode := s.lib.mode } = s.lib from rfl, hmode]
    rfl

@[simp] theorem enterSafeModeUnsafe_lib (s : State B) :
    (enterSafeModeUnsafe s).lib = s.lib.raise .safe := by
  unfold enterSafeModeUnsafe Lib.raise
  cases hmode : s.lib.mode
  case rebootPending =>
    rw [if_neg (by decide)]
    conv_lhs => rw [← show { s.lib with mode := s.lib.mode } = s.lib from rfl, hmode]
    rfl
  all_goals
    rw [if_pos (by decide), setMode_lib]
    rfl

@[simp] theorem tryRebootUnsafe_lib (s : State B) (reason : Option CStr) :
    (tryRebootUnsafe s reason).lib = s.lib.raise .rebootPending := by
  simp only [tryRebootUnsafe, requestReboot_lib, setMode_lib, Lib.raise,
    max_eq_right (Mode.le_rebootPending s.lib.mode)]

@[simp] theorem evaluateDualPath_lib (s : State B) :
    (evaluateDualPath s).lib = s.lib.review := by
  unfold evaluateDualPath Lib.review
  split
  · rw [enterSafeModeUnsafe_lib]
    rfl
  · rfl

end Fdir
