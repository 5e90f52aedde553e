import Fdir.Report

/-!
# Calls and runs

A run of the library is a list of calls of its public interface, each made with
arbitrary arguments, from the state a successful `fdir_init` leaves behind.
-/

namespace Fdir

variable {B : Build}

/-- The entry points that only read the static variables. -/
inductive Query where
  | configDefault
  | entityCount
  | entityName (id : EntityId)
  | systemMode
  | supervisionEnabled
  | entityMayRun (id : EntityId)
  | config
  | heartbeatMaxAgeMs
  | healthSnapshot (id : EntityId)
  | healthSnapshotCopy (id : EntityId) (out : Bool)
  | healthIsStale (id : EntityId) (nowMs maxAgeMs : UInt32)
  | healthFaultIsLatched (id : EntityId) (reason : Reason)
  | failureQueueFullLatched
  | subsystemsCriticalUnavailableCount
  | subsystemName (id : SubsystemId)
  | subsystemIsAvailable (id : SubsystemId)
  | subsystemIsDegraded (id : SubsystemId)
  | subsystemIsCriticalPath (id : SubsystemId)

/-- A call of the public interface; a pointer argument that is `none`, or an
output pointer that is `false`, is NULL. -/
inductive Call where
  | query (q : Query)
  | entityRegister (desc : Option EntityDesc) (outId : Bool)
  | subsystemRegister (desc : Option SubsystemDesc) (outId : Bool)
  | setSupervisionEnabled (enabled : UInt8)
  | setSystemMode (mode : ℕ)
  | deescalateSystemMode
  | enterDegradedMode
  | enterSafeMode
  | reassessSystemMode
  | tryReboot (reason : Option CStr)
  | logNote (note : Option CStr)
  | logQueueOverflow (queueId : UInt16) (overflowDelta depthHighWater : UInt32)
  | supervisorTick
  | handleFailure (report : Option FailureReport)
  | checkWatchdogs
  | submitFailure (report : Option FailureReport)
  | reportFault (entity : EntityId) (reason : Reason) (errorCode : UInt16)
      (detail : Option CStr)
  | reportFaultEx (entity : EntityId) (reason : Reason) (errorCode : UInt16)
      (detail : Option CStr) (flags : UInt8)
  | heartbeatNotify (id : EntityId)
  | healthSet (id : EntityId) (health : Health) (errorCode : UInt16) (detail : Option CStr)
  | healthReset (id : EntityId)
  | subsystemMarkAvailable (id : SubsystemId)
  | subsystemMarkUnavailable (id : SubsystemId)
  | subsystemMarkDegraded (id : SubsystemId)
  | subsystemOnEntityExhausted (sub : SubsystemId) (entity : EntityId)
      (report : Option FailureReport)
  | workerMayRun (id : EntityId)

/-- What a call returns. -/
inductive Reply where
  | unit
  | status (status : Status)
  | issued (status : Status) (id : Option UInt8)
  | byte (value : UInt8)
  | bool (value : Bool)
  | word (value : UInt32)
  | mode (mode : Mode)
  | action (action : Action)
  | text (text : CStr)
  | config (config : Config)
  | snapshot (snapshot : Option HealthSnapshot)

def Query.exec (s : State B) : Query → Reply × State B
  | .configDefault => (.config Fdir.configDefault, s)
  | .entityCount => (.byte s.lib.entityCount, s)
  | .entityName id => (.text (Fdir.entityName s.lib id), s)
  | .systemMode => let r := Fdir.systemMode s; (.mode r.1, r.2)
  | .supervisionEnabled => let r := Fdir.supervisionEnabled s; (.byte r.1, r.2)
  | .entityMayRun id => let r := Fdir.entityMayRun s id; (.bool r.1, r.2)
  | .config => (.config s.lib.config, s)
  | .heartbeatMaxAgeMs => (.word (Fdir.heartbeatMaxAgeMs s.lib.config), s)
  | .healthSnapshot id => (.snapshot (s.lib.health.snapshot id), s)
  | .healthSnapshotCopy id out => let r := snapshotCopy s id out; (.snapshot r.1, r.2)
  | .healthIsStale id nowMs maxAgeMs => (.bool (s.lib.health.isStale id nowMs maxAgeMs), s)
  | .healthFaultIsLatched id reason => let r := faultIsLatched s id reason; (.bool r.1, r.2)
  | .failureQueueFullLatched => let r := Fdir.failureQueueFullLatched s; (.bool r.1, r.2)
  | .subsystemsCriticalUnavailableCount =>
      (.byte s.lib.subsystems.criticalUnavailableCount, s)
  | .subsystemName id => (.text (s.lib.subsystems.name id), s)
  | .subsystemIsAvailable id => (.bool (s.lib.subsystems.isAvailable id), s)
  | .subsystemIsDegraded id => (.bool (s.lib.subsystems.isDegraded id), s)
  | .subsystemIsCriticalPath id => (.bool (s.lib.subsystems.isCriticalPath id), s)

/-- Make one call, to completion. -/
def Call.exec (s : State B) : Call → Reply × State B
  | .query q => q.exec s
  | .entityRegister desc outId =>
      let r := Fdir.entityRegister s desc outId; (.issued r.1 r.2.1, r.2.2)
  | .subsystemRegister desc outId =>
      let r := Fdir.subsystemRegister s desc outId; (.issued r.1 r.2.1, r.2.2)
  | .setSupervisionEnabled enabled =>
      let r := Fdir.setSupervisionEnabled s enabled; (.byte r.1, r.2)
  | .setSystemMode mode => let r := Fdir.setSystemMode s mode; (.status r.1, r.2)
  | .deescalateSystemMode => let r := Fdir.deescalateSystemMode s; (.status r.1, r.2)
  | .enterDegradedMode => (.unit, Fdir.enterDegradedMode s)
  | .enterSafeMode => (.unit, Fdir.enterSafeMode s)
  | .reassessSystemMode => (.unit, Fdir.reassessSystemMode s)
  | .tryReboot reason => (.unit, Fdir.tryReboot s reason)
  | .logNote note => (.unit, Fdir.logNote s note)
  | .logQueueOverflow queueId overflowDelta depthHighWater =>
      (.unit, Fdir.logQueueOverflow s queueId overflowDelta depthHighWater)
  | .supervisorTick => (.unit, Fdir.supervisorTick s)
  | .handleFailure report => (.unit, Fdir.handleFailure s report)
  | .checkWatchdogs => (.unit, Fdir.checkWatchdogs s)
  | .submitFailure report => let r := Fdir.submitFailure s report; (.status r.1, r.2)
  | .reportFault entity reason errorCode detail =>
      let r := Fdir.reportFault s entity reason errorCode detail; (.status r.1, r.2)
  | .reportFaultEx entity reason errorCode detail flags =>
      let r := Fdir.reportFaultEx s entity reason errorCode detail flags; (.status r.1, r.2)
  | .heartbeatNotify id => (.unit, Fdir.heartbeatNotify s id)
  | .healthSet id health errorCode detail => (.unit, Fdir.healthSet s id health errorCode detail)
  | .healthReset id => (.unit, Fdir.healthReset s id)
  | .subsystemMarkAvailable id => (.unit, Fdir.subsystemMarkAvailable s id)
  | .subsystemMarkUnavailable id => (.unit, Fdir.subsystemMarkUnavailable s id)
  | .subsystemMarkDegraded id => (.unit, Fdir.subsystemMarkDegraded s id)
  | .subsystemOnEntityExhausted sub entity report =>
      let r := Fdir.subsystemOnEntityExhausted s sub entity report; (.action r.1, r.2)
  | .workerMayRun id => let r := Fdir.workerMayRun s id; (.bool r.1, r.2)

/-- The state a call leaves behind. -/
def after (s : State B) (c : Call) : State B := (c.exec s).2

/-- The whole interface: the calls above, `fdir_init`, and the hooks of `port.h`. -/
inductive Op where
  | call (c : Call)
  | init (config : Option Config) (port : Option Port)
  | getNowMs
  | emitEvent (event : Event)
  | requestReboot (reason : CStr)

def Op.exec (s : State B) : Op → Reply × State B
  | .call c => c.exec s
  | .init config port => let r := fdirInit s config port; (.status r.1, r.2)
  | .getNowMs => let r := Fdir.getNowMs s; (.word r.1, r.2)
  | .emitEvent event => (.unit, Fdir.emitEvent s event)
  | .requestReboot reason => (.unit, Fdir.requestReboot s reason)

/-- A port with every required hook; its lock hooks are optional. -/
def Port.complete (lock unlock : Bool) : Port := ⟨true, true, true, lock, unlock⟩

theorem portIsValid_iff (port : Port) :
    portIsValid (some port) = true ↔ ∃ lock unlock, port = Port.complete lock unlock := by
  obtain ⟨getNowMs, emitEvent, requestReboot, lock, unlock⟩ := port
  simp [portIsValid, Port.complete, and_assoc]

/-- The state a successful `fdir_init` leaves behind when it is the first call. -/
def started (clock : ℕ) (pace : List Obs → ℕ) (config : Option Config) (lock unlock : Bool) :
    State B :=
  (fdirInit (.powerOn clock pace) config (some (.complete lock unlock))).2

end Fdir
