import Fdir.State

/-!
# Events and the system mode

The event constructors of `recovery.c` and the helpers that change the system
mode while the port lock is held.
-/

namespace Fdir

variable {B : Build}

def severityForEvent (kind : EventKind) (reason : Reason) (mode : Mode) : Severity :=
  if kind = .modeChange then
    if .safe ≤ mode then .critical
    else if mode = .degraded then .warning
    else .info
  else if kind = .restart then .info
  else if kind = .queueOverflow then .warning
  else if reason = .watchdog ∨ reason = .initFailed then .error
  else if kind = .failure ∨ kind = .watchdog then .error
  else .info

def emitEventFull (s : State B) (kind : EventKind) (mode : Mode) (entity : EntityId)
    (reason : Reason) (errorCode : UInt16) (level : Level) (phase : Phase)
    (detail : Option CStr) : State B :=
  let now := getNowMs s
  emitEvent now.2 {
    kind := kind
    mode := mode
    entity := entity
    subsystem := subsystemNone
    reason := reason
    errorCode := errorCode
    timestampMs := now.1
    detail := copyDetail B.detailSize detail
    level := level
    severity := severityForEvent kind reason mode
    phase := phase
    anomalyId := if entity ≠ entityNone then anomalyId entity reason else 0 }

def severityForSubsystem (phase : Phase) (detail : CStr) : Severity :=
  if phase = .cleared then .info
  else if detail = "unavailable".toList ∨ detail = "policy_override".toList then .error
  else .warning

def emitSubsystemState (s : State B) (sub : SubsystemId) (entity : EntityId)
    (reason : Reason) (errorCode : UInt16) (phase : Phase) (detail : CStr) : State B :=
  let now := getNowMs s
  emitEvent now.2 {
    kind := .failure
    mode := s.lib.mode
    entity := entity
    subsystem := sub
    reason := reason
    errorCode := errorCode
    timestampMs := now.1
    detail := copyDetail B.detailSize (some detail)
    level := .subsystem
    severity := severityForSubsystem phase detail
    phase := phase
    anomalyId := subsystemAnomalyId sub reason }

def notifySystemHandler (s : State B) (mode : Mode) (report : Option FailureReport) : State B :=
  if s.lib.config.onSystemEscalation then s.log (.escalation mode report) else s

def setMode (s : State B) (mode : Mode) (entity : EntityId) (detail : Option CStr)
    (report : Option FailureReport) : State B :=
  if s.lib.mode = mode then s
  else
    let s := s.write fun l ↦ { l with mode := mode }
    let s := emitEventFull s .modeChange s.lib.mode entity .user 0 .system .raised detail
    notifySystemHandler s s.lib.mode report

def enterDegradedModeUnsafe (s : State B) : State B :=
  if s.lib.mode = .nominal then
    setMode s .degraded entityNone (some "degraded".toList) none
  else s

def enterSafeModeUnsafe (s : State B) : State B :=
  if s.lib.mode ≠ .rebootPending then
    setMode s .safe entityNone (some "safe".toList) none
  else s

def tryRebootUnsafe (s : State B) (reason : Option CStr) : State B :=
  let why := reason.getD "reboot".toList
  requestReboot (setMode s .rebootPending entityNone (some why) none) why

def evaluateDualPath (s : State B) : State B :=
  if s.lib.config.safeModeCriticalFailureThreshold ≤
      s.lib.subsystems.criticalUnavailableCount then
    enterSafeModeUnsafe s
  else s

end Fdir
