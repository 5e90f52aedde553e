import Mathlib

/-!
# Shared types of the library

The enumerations, records and build parameters of `types.h`, with the entity
and subsystem descriptors of `recovery.h` and `subsystem.h`.  Definitions keep
the names of the source in camel case, without the prefixes `fdir_`, `FDIR_`
and `g_`.  Function pointers of the application are Lean functions; everything
such a function may base its answer on, besides its arguments, is collected in
a `Context`.
-/

namespace Fdir

/-- The build parameters.  `FDIR_ENTITY_CAP` is bounded by the `#error` of
`types.h`; an array of the C program cannot be empty. -/
structure Build where
  entityCap : ℕ
  subsystemCap : ℕ
  failureQueueCap : ℕ
  detailSize : ℕ
  nameSize : ℕ
  entityCap_pos : 0 < entityCap
  entityCap_le : entityCap ≤ 128
  failureQueueCap_pos : 0 < failureQueueCap

/-- The values the headers choose when the build sets none. -/
def Build.default : Build where
  entityCap := 16
  subsystemCap := 8
  failureQueueCap := 8
  detailSize := 32
  nameSize := 32
  entityCap_pos := by decide
  entityCap_le := by decide
  failureQueueCap_pos := by decide

abbrev EntityId := UInt8
abbrev SubsystemId := UInt8

/-- The characters of a C string before its terminating NUL. -/
abbrev CStr := List Char

/-- A `void *user` value, handed back to the callback that owns it. -/
abbrev UserPtr := ℕ

def entityNone : EntityId := 0xFF
def subsystemNone : SubsystemId := 0xFF
def faultFlagCritical : UInt8 := 0x01
def restartUnlimited : UInt8 := 255

inductive Status where
  | ok | errParam | errFull | errNotFound | errState | errPort | errBusy
  deriving DecidableEq, Repr

inductive Mode where
  | nominal | degraded | safe | rebootPending
  deriving DecidableEq, Repr

def Mode.code : Mode → ℕ
  | .nominal => 0
  | .degraded => 1
  | .safe => 2
  | .rebootPending => 3

theorem Mode.code_injective : Function.Injective Mode.code := by
  intro m n h
  cases m <;> cases n <;> first | rfl | cases h

/-- Modes are compared as the integers they are. -/
instance : LinearOrder Mode := LinearOrder.lift' Mode.code Mode.code_injective

theorem Mode.le_iff_code {m n : Mode} : m ≤ n ↔ m.code ≤ n.code := Iff.rfl

theorem Mode.nominal_le (m : Mode) : Mode.nominal ≤ m := Nat.zero_le _

theorem Mode.le_rebootPending (m : Mode) : m ≤ .rebootPending := by
  cases m <;> decide

/-- The mode an integer argument denotes, when it is an enumerator. -/
def Mode.ofCode? : ℕ → Option Mode
  | 0 => some .nominal
  | 1 => some .degraded
  | 2 => some .safe
  | 3 => some .rebootPending
  | _ => none

inductive Health where
  | ok | degraded | failed
  deriving DecidableEq, Repr

inductive Reason where
  | initFailed | ioError | timeout | protocolError | watchdog | queueOverflow | user
  deriving DecidableEq, Repr

def Reason.code : Reason → UInt16
  | .initFailed => 0
  | .ioError => 1
  | .timeout => 2
  | .protocolError => 3
  | .watchdog => 4
  | .queueOverflow => 5
  | .user => 6

/-- A recovery action.  A callback may return an integer that is no enumerator
of `fdir_action_t`; such an answer is an `other`. -/
inductive Action where
  | none | restart | degrade | unavailable | safe | reboot
  | other (code : ℤ)
  deriving DecidableEq, Repr

inductive Level where
  | entity | subsystem | system
  deriving DecidableEq, Repr

inductive Severity where
  | info | warning | error | critical
  deriving DecidableEq, Repr

inductive Phase where
  | raised | cleared
  deriving DecidableEq, Repr

inductive EventKind where
  | failure | modeChange | restart | watchdog | note | queueOverflow
  deriving DecidableEq, Repr

def anomalyId (entity : EntityId) (reason : Reason) : UInt16 :=
  (entity.toUInt16 <<< 8) ||| reason.code

def subsystemAnomalyId (sub : SubsystemId) (reason : Reason) : UInt16 :=
  (0x8000 : UInt16) ||| (sub.toUInt16 <<< 8) ||| reason.code

structure FailureReport where
  entity : EntityId
  reason : Reason
  errorCode : UInt16
  detail : CStr
  timestampMs : UInt32
  flags : UInt8
  deriving DecidableEq, Repr

/-- The report `memset` leaves behind. -/
def FailureReport.zero : FailureReport := ⟨0, .initFailed, 0, [], 0, 0⟩

structure HealthSnapshot where
  health : Health
  lastHeartbeatMs : UInt32
  errorCode : UInt16
  detail : CStr
  deriving DecidableEq, Repr

def HealthSnapshot.zero : HealthSnapshot := ⟨.ok, 0, 0, []⟩

structure Event where
  kind : EventKind
  mode : Mode
  entity : EntityId
  subsystem : SubsystemId
  reason : Reason
  errorCode : UInt16
  timestampMs : UInt32
  detail : CStr
  level : Level
  severity : Severity
  phase : Phase
  anomalyId : UInt16
  deriving DecidableEq, Repr

/-- One interaction of the library with its surroundings: a port hook it calls
or an application callback it calls, with the answer it gets. -/
inductive Obs where
  | lock
  | unlock
  | clock (ms : UInt32)
  | event (e : Event)
  | reboot (why : CStr)
  | escalation (mode : Mode) (report : Option FailureReport)
  | decide (id : EntityId) (report : FailureReport) (answer : Action)
  | exhausted (sub : SubsystemId) (id : EntityId) (report : Option FailureReport) (answer : Action)
  | restart (id : EntityId) (reason : Reason) (answer : ℤ)
  deriving DecidableEq, Repr

/-- What the application may base a callback's answer on besides its arguments:
all that has passed between it and the library, and the restart counters of the
entity concerned. -/
structure Context where
  restartCount : UInt8
  watchdogRestartCount : UInt8
  history : List Obs

abbrev RestartFn := Context → EntityId → UserPtr → ℤ
abbrev DecideFn := Context → EntityId → FailureReport → UInt8 → UInt8 → UserPtr → Action
abbrev ExhaustedFn :=
  Context → SubsystemId → EntityId → Option FailureReport → UserPtr → Action

/-- A callback that is `none` is a NULL pointer. -/
structure EntityDesc where
  name : Option CStr
  maxRestarts : UInt8
  maxWatchdogRestarts : UInt8
  onExhausted : Action
  linkedSubsystem : SubsystemId
  restart : Option RestartFn
  decide : Option DecideFn
  user : UserPtr

def EntityDesc.zero : EntityDesc := ⟨none, 0, 0, .none, 0, none, none, 0⟩

structure SubsystemDesc where
  name : Option CStr
  isCriticalPath : Bool
  onEntityExhausted : Option ExhaustedFn
  user : UserPtr

def SubsystemDesc.zero : SubsystemDesc := ⟨none, false, none, 0⟩

/-- Of the system handler only its presence matters: it returns nothing. -/
structure Config where
  healthCheckPeriodMs : UInt32
  missedHeartbeatTolerance : UInt8
  safeModeCriticalFailureThreshold : UInt8
  onSystemEscalation : Bool
  deriving DecidableEq, Repr

def configDefault : Config where
  healthCheckPeriodMs := 500
  missedHeartbeatTolerance := 3
  safeModeCriticalFailureThreshold := 2
  onSystemEscalation := false

/-- Which hooks the integrator supplied. -/
structure Port where
  getNowMs : Bool
  emitEvent : Bool
  requestReboot : Bool
  lock : Bool
  unlock : Bool
  deriving DecidableEq, Repr

def Port.zero : Port := ⟨false, false, false, false, false⟩

end Fdir
