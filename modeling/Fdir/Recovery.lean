import Fdir.Health
import Fdir.Subsystem

/-!
# Recovery

The operations of `recovery.c`: the recovery of one entity, the handling of a
failure report, the watchdog scan, the supervisor tick and the ground commands.
A function that spans two critical sections is composed of them; a name ending
in `Locked` is the part of the function of that name under its own lock.
-/

namespace Fdir

variable {B : Build}

/-! ## Recovery of one entity -/

def defaultDecide (slot : EntitySlot) (report : FailureReport) : Action :=
  if report.reason = .watchdog then
    if slot.desc.maxWatchdogRestarts = restartUnlimited ∨
        slot.watchdogRestartCount < slot.desc.maxWatchdogRestarts then .restart
    else slot.desc.onExhausted
  else if slot.desc.maxRestarts = restartUnlimited ∨
      slot.restartCount < slot.desc.maxRestarts then .restart
  else slot.desc.onExhausted

def bumpRestart (slot : EntitySlot) (reason : Reason) : EntitySlot :=
  if reason = .watchdog then
    if slot.watchdogRestartCount < 255 then
      { slot with watchdogRestartCount := slot.watchdogRestartCount + 1 }
    else slot
  else if slot.restartCount < 255 then
    { slot with restartCount := slot.restartCount + 1 }
  else slot

/-- Store a slot of the entity table. -/
def Lib.setSlot (l : Lib B) (id : EntityId) (slot : EntitySlot) : Lib B :=
  { l with entities := Function.update l.entities id slot }

def tryRestart (s : State B) (id : EntityId) (reason : Reason) : Status × State B :=
  let slot := s.lib.entities id
  match slot.desc.restart with
  | none => (.errPort, s)
  | some restart =>
      let s := s.write fun l ↦ l.setSlot id (bumpRestart slot reason)
      let answer := restart (s.context id) id slot.desc.user
      let s := s.log (.restart id reason answer)
      if answer ≠ 0 then (.errState, s)
      else
        let cleared := (s.lib.health.clearLatchUnsafe id).1
        let s := s.write fun l ↦ { l with health := (l.health.clearLatchUnsafe id).2 }
        let s := healthResetUnsafe s id
        let s := match cleared with
          | some prev =>
              emitEventFull s .failure s.lib.mode id prev 0 .entity .cleared slot.desc.name
          | none => s
        (.ok, emitEventFull s .restart s.lib.mode id reason 0 .entity .raised slot.desc.name)

def resolveExhaustedAction (s : State B) (id : EntityId) (action : Action)
    (report : FailureReport) : Action × State B :=
  let sub := (s.lib.entities id).desc.linkedSubsystem
  if action = .restart ∨ action = .none then (action, s)
  else if sub = subsystemNone then (action, s)
  else
    let answer := subsystemOnEntityExhausted s sub id (some report)
    if answer.1 ≠ .none then
      (answer.1, emitSubsystemState answer.2 sub id report.reason report.errorCode .raised
        "policy_override".toList)
    else (action, answer.2)

/-- Mark the linked subsystem of `id` and announce it, if there is one. -/
def markLinked (mark : SubsystemTable → SubsystemId → SubsystemTable) (detail : CStr)
    (s : State B) (id : EntityId) (report : FailureReport) : State B :=
  let sub := (s.lib.entities id).desc.linkedSubsystem
  if sub ≠ subsystemNone then
    let s := s.write fun l ↦ { l with subsystems := mark l.subsystems sub }
    emitSubsystemState s sub id report.reason report.errorCode .raised detail
  else s

/-- The cases of `apply_action` other than RESTART.  The recursive call of the
source is made for the fallback of a failed restart, which is never RESTART
again, so that it ends in one of these cases. -/
def applyFinalAction (s : State B) (id : EntityId) (action : Action) (report : FailureReport) :
    State B :=
  match action with
  | .degrade =>
      enterDegradedModeUnsafe
        (markLinked SubsystemTable.markDegradedUnsafe "degraded".toList s id report)
  | .unavailable =>
      evaluateDualPath (enterDegradedModeUnsafe
        (markLinked SubsystemTable.markUnavailableUnsafe "unavailable".toList s id report))
  | .safe =>
      enterSafeModeUnsafe
        (markLinked SubsystemTable.markUnavailableUnsafe "unavailable".toList s id report)
  | .reboot =>
      tryRebootUnsafe
        (markLinked SubsystemTable.markUnavailableUnsafe "unavailable".toList s id report)
        (some (if report.detail ≠ [] then report.detail else "fdir_reboot".toList))
  | .none | .restart | .other _ => s

def applyAction (s : State B) (id : EntityId) (action : Action) (report : FailureReport) :
    State B :=
  if action = .restart then
    let restarted := tryRestart s id report.reason
    if restarted.1 ≠ .ok then
      let fallback := (s.lib.entities id).desc.onExhausted
      applyFinalAction restarted.2 id (if fallback = .restart then .none else fallback) report
    else restarted.2
  else applyFinalAction s id action report

/-! ## Registration and queries -/

def entityRegister (s : State B) (desc : Option EntityDesc) (outId : Bool) :
    Status × Option EntityId × State B :=
  let s := syncEnter s
  match desc, outId with
  | some desc, true =>
      if B.entityCap ≤ s.lib.entityCount.toNat then (.errFull, none, syncExit s)
      else if desc.onExhausted = .restart then (.errParam, none, syncExit s)
      else
        let id := s.lib.entityCount
        let name := copyDetail B.nameSize desc.name
        let slot : EntitySlot := {
          desc := { desc with name := some name }
          name := name
          used := true
          restartCount := 0
          watchdogRestartCount := 0 }
        let s := s.write fun l ↦ { l.setSlot id slot with
          entityCount := l.entityCount + 1
          health := l.health.setEntityLimit (l.entityCount + 1) }
        (.ok, some id, syncExit (healthResetUnsafe s id))
  | _, _ => (.errParam, none, syncExit s)

def entityName (l : Lib B) (id : EntityId) : CStr :=
  if l.entityCount ≤ id ∨ (l.entities id).used = false then "unknown".toList
  else (l.entities id).desc.name.getD "unnamed".toList

def systemMode (s : State B) : Mode × State B :=
  let s := syncEnter s
  (s.lib.mode, syncExit s)

def supervisionEnabled (s : State B) : UInt8 × State B :=
  let s := syncEnter s
  (s.lib.supervisionEnabled, syncExit s)

def setSupervisionEnabled (s : State B) (enabled : UInt8) : UInt8 × State B :=
  let s := syncEnter s
  let prev := s.lib.supervisionEnabled
  if prev = enabled then (prev, syncExit s)
  else
    let s := s.write fun l ↦ { l with supervisionEnabled := enabled }
    let s := if enabled = 0 then s.write fun l ↦ { l with queue := .init } else s
    (prev, syncExit (emitEventFull s .note s.lib.mode entityNone .user 0 .system .raised
      (some (if enabled ≠ 0 then "supervision_enabled".toList
        else "supervision_disabled".toList))))

def entityMayRun (s : State B) (id : EntityId) : Bool × State B :=
  let s := syncEnter s
  if s.lib.supervisionEnabled = 0 then (true, syncExit s)
  else if .safe ≤ s.lib.mode then (false, syncExit s)
  else
    match s.lib.health.snapshot id with
    | none => (false, syncExit s)
    | some snapshot =>
        if snapshot.health = .failed then (false, syncExit s) else (true, syncExit s)

/-- The product is taken in 32 bits. -/
def heartbeatMaxAgeMs (config : Config) : UInt32 :=
  config.missedHeartbeatTolerance.toUInt32 * config.healthCheckPeriodMs

/-! ## Ground commands -/

def setSystemMode (s : State B) (mode : ℕ) : Status × State B :=
  let s := syncEnter s
  match Mode.ofCode? mode with
  | none => (.errParam, syncExit s)
  | some .rebootPending => (.errState, syncExit s)
  | some mode => (.ok, syncExit (setMode s mode entityNone (some "ground_mode_set".toList) none))

def deescalateSystemMode (s : State B) : Status × State B :=
  let s := syncEnter s
  if s.lib.mode = .safe then
    (.ok, syncExit (setMode s .degraded entityNone (some "ground_deescalate".toList) none))
  else if s.lib.mode = .degraded then
    (.ok, syncExit (setMode s .nominal entityNone (some "ground_deescalate".toList) none))
  else (.errState, syncExit s)

def enterDegradedMode (s : State B) : State B :=
  syncExit (enterDegradedModeUnsafe (syncEnter s))

def enterSafeMode (s : State B) : State B :=
  syncExit (enterSafeModeUnsafe (syncEnter s))

def reassessSystemMode (s : State B) : State B :=
  syncExit (evaluateDualPath (syncEnter s))

def tryReboot (s : State B) (reason : Option CStr) : State B :=
  syncExit (tryRebootUnsafe (syncEnter s) reason)

def logNote (s : State B) (note : Option CStr) : State B :=
  let s := syncEnter s
  syncExit (emitEventFull s .note s.lib.mode entityNone .user 0 .system .raised note)

def logQueueOverflow (s : State B) (queueId : UInt16) (overflowDelta depthHighWater : UInt32) :
    State B :=
  let text := "q".toList ++ (toString queueId.toNat).toList ++ " d".toList ++
    (toString overflowDelta.toNat).toList ++ " h".toList ++
    (toString depthHighWater.toNat).toList
  let detail := copyDetail B.detailSize (some text)
  let s := syncEnter s
  syncExit (emitEventFull s .queueOverflow s.lib.mode entityNone .queueOverflow queueId .system
    .raised (some detail))

/-! ## Handling a failure -/

/-- The action `fdir_handle_failure` starts from: what `decide` answers, or the
default policy when there is no `decide` or it answers NONE. -/
def chooseAction (s : State B) (report : FailureReport) : Action × State B :=
  let slot := s.lib.entities report.entity
  match slot.desc.decide with
  | none => (defaultDecide slot report, s)
  | some decide =>
      let answer := decide (s.context report.entity) report.entity report slot.restartCount
        slot.watchdogRestartCount slot.desc.user
      (if answer = .none then defaultDecide slot report else answer,
        s.log (.decide report.entity report answer))

/-- The recovery of a registered entity whose fault has just been raised. -/
def recoverEntity (s : State B) (report : FailureReport) : State B :=
  let s := s.write fun l ↦ { l with
    health := (l.health.latchFaultUnsafe report.entity report.reason).2 }
  let s := healthSetUnsafe s report.entity .failed report.errorCode (some report.detail)
  let chosen := chooseAction s report
  let resolved := resolveExhaustedAction chosen.2 report.entity chosen.1 report
  evaluateDualPath (applyAction resolved.2 report.entity resolved.1 report)

def handleFailureLocked (s : State B) (report : FailureReport) : State B :=
  let s := syncEnter s
  if s.lib.health.faultIsLatchedUnsafe report.entity report.reason then syncExit s
  else
    let kind := if report.reason = .watchdog then EventKind.watchdog else .failure
    let s := emitEventFull s kind s.lib.mode report.entity report.reason report.errorCode .entity
      .raised (some report.detail)
    if s.lib.entityCount ≤ report.entity ∨ (s.lib.entities report.entity).used = false then
      syncExit (enterDegradedModeUnsafe s)
    else syncExit (recoverEntity s report)

def handleFailure (s : State B) (report : Option FailureReport) : State B :=
  match report with
  | none => s
  | some report =>
      let enabled := supervisionEnabled s
      if enabled.1 = 0 then enabled.2 else handleFailureLocked enabled.2 report

/-! ## The watchdog scan -/

def watchdogReport (B : Build) (id : EntityId) (nowMs : UInt32) : FailureReport where
  entity := id
  reason := .watchdog
  errorCode := 0
  detail := copyDetail B.detailSize (some "heartbeat_timeout".toList)
  timestampMs := nowMs
  flags := faultFlagCritical

/-- The tests of the loop body of `fdir_check_watchdogs`: the entity is used, its
WATCHDOG fault is not latched, it is not FAILED, and it is stale. -/
def watchdogDue (l : Lib B) (nowMs maxAge : UInt32) (id : EntityId) : Bool :=
  (l.entities id).used && !l.health.faultIsLatchedUnsafe id .watchdog &&
    (l.health.snapshot id).isSome && !l.health.snapshotFailed id &&
    l.health.isStale id nowMs maxAge

/-- The loop of `fdir_check_watchdogs` from index `i`.  The index is an 8-bit
value below an 8-bit count, so that at most 255 rounds are made; `rounds` is the
number left. -/
def scanLoop (nowMs maxAge : UInt32) : ℕ → ℕ → State B → State B
  | 0, _, s => s
  | rounds + 1, i, s =>
      if i < s.lib.entityCount.toNat then
        let id := UInt8.ofNat i
        if watchdogDue s.lib nowMs maxAge id then
          let s := handleFailure (syncExit s) (some (watchdogReport B id nowMs))
          scanLoop nowMs maxAge rounds (i + 1) (syncEnter s)
        else scanLoop nowMs maxAge rounds (i + 1) s
      else s

def checkWatchdogs (s : State B) : State B :=
  let now := getNowMs s
  let maxAge := heartbeatMaxAgeMs now.2.lib.config
  let enabled := supervisionEnabled now.2
  if enabled.1 = 0 then enabled.2
  else syncExit (scanLoop now.1 maxAge 255 0 (syncEnter enabled.2))

/-! ## The supervisor tick -/

def failureQueueGet (s : State B) : Option FailureReport × State B :=
  let s := syncEnter s
  let got := s.lib.queue.getUnsafe
  match got.1 with
  | none => (none, syncExit s)
  | some report => (some report, syncExit (s.write fun l ↦ { l with queue := got.2 }))

/-- The loop of `fdir_supervisor_tick`.  Handling a report puts nothing into the
queue, so that an 8-bit count of reports is drained in at most 255 rounds and
one more finds the queue empty. -/
def drainQueue : ℕ → State B → State B
  | 0, s => s
  | rounds + 1, s =>
      let got := failureQueueGet s
      match got.1 with
      | none => got.2
      | some report => drainQueue rounds (handleFailure got.2 (some report))

def supervisorTick (s : State B) : State B :=
  let enabled := supervisionEnabled s
  if enabled.1 = 0 then enabled.2
  else checkWatchdogs (drainQueue 256 enabled.2)

/-! ## Initialisation -/

def fdirInit (s : State B) (config : Option Config) (port : Option Port) : Status × State B :=
  let bound := portBind s port
  if bound.1 ≠ .ok then bound
  else
    (.ok, bound.2.write fun l ↦ { l with
      config := config.getD configDefault
      health := .init
      subsystems := .init
      queue := .init
      entities := fun _ ↦ .zero
      entityCount := 0
      mode := .nominal
      supervisionEnabled := 1 })

end Fdir
