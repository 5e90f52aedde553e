import Fdir.Foundation.Cells
import Fdir.Machine

/-!
# The library with checked arrays

The functions of `recovery.c`, `health.c` and `report.c` once more, with every access to
`g_entities`, `g_health`, `g_latched_reason` and `g_fault_latched` checked against
`FDIR_ENTITY_CAP` where the source makes it.  Such a function has no result once an access is
out of range.
-/

namespace Fdir

open Foundation

variable {B : Build}

/-- The arrays have a cell for `id`. -/
def Build.Within (B : Build) (id : EntityId) : Prop := id.toNat < B.entityCap

instance (B : Build) : DecidablePred B.Within := fun id ↦
  inferInstanceAs (Decidable (id.toNat < B.entityCap))

namespace Checked

/-! ## `health.c` -/

section Health

variable (B : Build) (t : HealthTable) (id : EntityId)

/-- The test `g_fault_latched[id] != 0U && g_latched_reason[id] == reason`. -/
def sameFault (reason : Reason) : Option Bool := do
  let latched ← fetch B.Within t.faultLatched id
  if latched then
    let latchedReason ← fetch B.Within t.latchedReason id
    return decide (latchedReason = reason)
  else return false

def faultIsLatchedUnsafe (reason : Reason) : Option Bool :=
  if t.entityLimit ≤ id then some false else sameFault B t id reason

def latchFaultUnsafe (reason : Reason) : Option (Bool × HealthTable) :=
  if t.entityLimit ≤ id then some (false, t)
  else do
    let same ← sameFault B t id reason
    if same then return (true, t)
    else
      let faultLatched ← store B.Within t.faultLatched id true
      let latchedReason ← store B.Within t.latchedReason id reason
      return (false, { t with faultLatched := faultLatched, latchedReason := latchedReason })

def clearLatchUnsafe : Option (Option Reason × HealthTable) :=
  if t.entityLimit ≤ id then some (none, t)
  else do
    let latched ← fetch B.Within t.faultLatched id
    let prev ← if latched then (fetch B.Within t.latchedReason id).map some else some none
    let faultLatched ← store B.Within t.faultLatched id false
    let latchedReason ← store B.Within t.latchedReason id .initFailed
    return (prev, { t with faultLatched := faultLatched, latchedReason := latchedReason })

def snapshot : Option (Option HealthSnapshot) :=
  if t.entityLimit ≤ id then some none else (fetch B.Within t.health id).map some

def isStale (nowMs maxAgeMs : UInt32) : Option Bool := do
  match ← snapshot B t id with
  | none => return false
  | some snapshot =>
      if snapshot.health = .failed then return false
      else return decide (maxAgeMs < nowMs - snapshot.lastHeartbeatMs)

def snapshotFailed : Option Bool := do
  match ← snapshot B t id with
  | none => return false
  | some snapshot => return decide (snapshot.health = .failed)

def setUnsafe (health : Health) (errorCode : UInt16) (detail : CStr) : Option HealthTable :=
  if t.entityLimit ≤ id then some t
  else do
    let old ← fetch B.Within t.health id
    let cells ← store B.Within t.health id
      { old with health := health, errorCode := errorCode, detail := detail }
    return { t with health := cells }

def resetUnsafe (nowMs : UInt32) : Option HealthTable :=
  if t.entityLimit ≤ id then some t
  else do
    let cells ← store B.Within t.health id ⟨.ok, nowMs, 0, []⟩
    return { t with health := cells }

/-- The heartbeat is stored before the health is looked at. -/
def heartbeat (nowMs : UInt32) : Option HealthTable :=
  if t.entityLimit ≤ id then some t
  else do
    let old ← fetch B.Within t.health id
    let stamped ← store B.Within t.health id { old with lastHeartbeatMs := nowMs }
    let beaten ← fetch B.Within stamped id
    if beaten.health = .failed then return { t with health := stamped }
    else
      let cells ← store B.Within stamped id { beaten with health := .ok }
      return { t with health := cells }

end Health

def healthSetUnsafe (s : State B) (id : EntityId) (health : Health) (errorCode : UInt16)
    (detail : Option CStr) : Option (State B) := do
  let t ← setUnsafe B s.lib.health id health errorCode (copyDetail B.detailSize detail)
  return s.write fun l ↦ { l with health := t }

def healthResetUnsafe (s : State B) (id : EntityId) : Option (State B) :=
  if s.lib.health.entityLimit ≤ id then some s
  else do
    let now := getNowMs s
    let t ← resetUnsafe B now.2.lib.health id now.1
    return (now.2.stamp id).write fun l ↦ { l with health := t }

def faultIsLatched (s : State B) (id : EntityId) (reason : Reason) : Option (Bool × State B) := do
  let s := syncEnter s
  let latched ← faultIsLatchedUnsafe B s.lib.health id reason
  return (latched, syncExit s)

def heartbeatNotify (s : State B) (id : EntityId) : Option (State B) :=
  let s := syncEnter s
  if s.lib.health.entityLimit ≤ id then some (syncExit s)
  else do
    let now := getNowMs s
    let t ← heartbeat B now.2.lib.health id now.1
    return syncExit ((now.2.stamp id).write fun l ↦ { l with health := t })

def healthSet (s : State B) (id : EntityId) (health : Health) (errorCode : UInt16)
    (detail : Option CStr) : Option (State B) :=
  let s := syncEnter s
  if s.lib.health.entityLimit ≤ id then some (syncExit s)
  else (healthSetUnsafe s id health errorCode detail).map syncExit

def healthReset (s : State B) (id : EntityId) : Option (State B) :=
  let s := syncEnter s
  if s.lib.health.entityLimit ≤ id then some (syncExit s)
  else (healthResetUnsafe s id).map syncExit

def snapshotCopy (s : State B) (id : EntityId) (out : Bool) :
    Option (Option HealthSnapshot × State B) :=
  if !out || decide (s.lib.health.entityLimit ≤ id) then some (none, s)
  else do
    let s := syncEnter s
    let copied ← fetch B.Within s.lib.health.health id
    return (some copied, syncExit s)

/-! ## The recovery of an entity -/

def tryRestart (s : State B) (id : EntityId) (reason : Reason) : Option (Status × State B) := do
  let slot ← fetch B.Within s.lib.entities id
  match slot.desc.restart with
  | none => return (.errPort, s)
  | some restart =>
      let entities ← store B.Within s.lib.entities id (bumpRestart slot reason)
      let s := s.write fun l ↦ { l with entities := entities }
      let answer := restart (s.context id) id slot.desc.user
      let s := s.log (.restart id reason answer)
      if answer ≠ 0 then return (.errState, s)
      else
        let cleared ← clearLatchUnsafe B s.lib.health id
        let s := s.write fun l ↦ { l with health := cleared.2 }
        let s ← healthResetUnsafe s id
        let s := match cleared.1 with
          | some prev =>
              emitEventFull s .failure s.lib.mode id prev 0 .entity .cleared slot.desc.name
          | none => s
        return (.ok, emitEventFull s .restart s.lib.mode id reason 0 .entity .raised slot.desc.name)

def resolveExhaustedAction (s : State B) (id : EntityId) (action : Action)
    (report : FailureReport) : Option (Action × State B) :=
  if action = .restart ∨ action = .none then some (action, s)
  else do
    let slot ← fetch B.Within s.lib.entities id
    let sub := slot.desc.linkedSubsystem
    if sub = subsystemNone then return (action, s)
    else
      let answer := subsystemOnEntityExhausted s sub id (some report)
      if answer.1 ≠ .none then
        return (answer.1, emitSubsystemState answer.2 sub id report.reason report.errorCode .raised
          "policy_override".toList)
      else return (action, answer.2)

/-- Mark the subsystem that `slot` is linked to and announce it, if there is one. -/
def markLinked (slot : EntitySlot) (mark : SubsystemTable → SubsystemId → SubsystemTable)
    (detail : CStr) (s : State B) (id : EntityId) (report : FailureReport) : State B :=
  let sub := slot.desc.linkedSubsystem
  if sub ≠ subsystemNone then
    let s := s.write fun l ↦ { l with subsystems := mark l.subsystems sub }
    emitSubsystemState s sub id report.reason report.errorCode .raised detail
  else s

def applyFinalAction (s : State B) (id : EntityId) (action : Action) (report : FailureReport) :
    Option (State B) := do
  let slot ← fetch B.Within s.lib.entities id
  match action with
  | .degrade =>
      return enterDegradedModeUnsafe
        (markLinked slot SubsystemTable.markDegradedUnsafe "degraded".toList s id report)
  | .unavailable =>
      return evaluateDualPath (enterDegradedModeUnsafe
        (markLinked slot SubsystemTable.markUnavailableUnsafe "unavailable".toList s id report))
  | .safe =>
      return enterSafeModeUnsafe
        (markLinked slot SubsystemTable.markUnavailableUnsafe "unavailable".toList s id report)
  | .reboot =>
      return tryRebootUnsafe
        (markLinked slot SubsystemTable.markUnavailableUnsafe "unavailable".toList s id report)
        (some (if report.detail ≠ [] then report.detail else "fdir_reboot".toList))
  | .none | .restart | .other _ => return s

def applyAction (s : State B) (id : EntityId) (action : Action) (report : FailureReport) :
    Option (State B) := do
  let slot ← fetch B.Within s.lib.entities id
  if action = .restart then
    let restarted ← tryRestart s id report.reason
    if restarted.1 ≠ .ok then
      let fallback := slot.desc.onExhausted
      applyFinalAction restarted.2 id (if fallback = .restart then .none else fallback) report
    else return restarted.2
  else applyFinalAction s id action report

def chooseAction (s : State B) (report : FailureReport) : Option (Action × State B) := do
  let slot ← fetch B.Within s.lib.entities report.entity
  match slot.desc.decide with
  | none => return (defaultDecide slot report, s)
  | some decide =>
      let answer := decide (s.context report.entity) report.entity report slot.restartCount
        slot.watchdogRestartCount slot.desc.user
      return (if answer = .none then defaultDecide slot report else answer,
        s.log (.decide report.entity report answer))

def recoverEntity (s : State B) (report : FailureReport) : Option (State B) := do
  let latched ← latchFaultUnsafe B s.lib.health report.entity report.reason
  let s := s.write fun l ↦ { l with health := latched.2 }
  let s ← healthSetUnsafe s report.entity .failed report.errorCode (some report.detail)
  let chosen ← chooseAction s report
  let resolved ← resolveExhaustedAction chosen.2 report.entity chosen.1 report
  let s ← applyAction resolved.2 report.entity resolved.1 report
  return evaluateDualPath s

def handleFailureLocked (s : State B) (report : FailureReport) : Option (State B) := do
  let s := syncEnter s
  let latched ← faultIsLatchedUnsafe B s.lib.health report.entity report.reason
  if latched then return syncExit s
  else
    let kind := if report.reason = .watchdog then EventKind.watchdog else .failure
    let s := emitEventFull s kind s.lib.mode report.entity report.reason report.errorCode .entity
      .raised (some report.detail)
    if s.lib.entityCount ≤ report.entity then return syncExit (enterDegradedModeUnsafe s)
    else
      let slot ← fetch B.Within s.lib.entities report.entity
      if slot.used = false then return syncExit (enterDegradedModeUnsafe s)
      else return syncExit (← recoverEntity s report)

def handleFailure (s : State B) (report : Option FailureReport) : Option (State B) :=
  match report with
  | none => some s
  | some report =>
      let enabled := supervisionEnabled s
      if enabled.1 = 0 then some enabled.2 else handleFailureLocked enabled.2 report

/-! ## The scan and the tick -/

def watchdogDue (l : Lib B) (nowMs maxAge : UInt32) (id : EntityId) : Option Bool := do
  let slot ← fetch B.Within l.entities id
  if slot.used = false then return false
  else
    let latched ← faultIsLatchedUnsafe B l.health id .watchdog
    if latched then return false
    else
      match ← snapshot B l.health id with
      | none => return false
      | some snapshot =>
          if snapshot.health = .failed then return false
          else isStale B l.health id nowMs maxAge

def scanLoop (nowMs maxAge : UInt32) : ℕ → ℕ → State B → Option (State B)
  | 0, _, s => some s
  | rounds + 1, i, s =>
      if i < s.lib.entityCount.toNat then do
        let id := UInt8.ofNat i
        let due ← watchdogDue s.lib nowMs maxAge id
        if due then
          let s ← handleFailure (syncExit s) (some (watchdogReport B id nowMs))
          scanLoop nowMs maxAge rounds (i + 1) (syncEnter s)
        else scanLoop nowMs maxAge rounds (i + 1) s
      else some s

def checkWatchdogs (s : State B) : Option (State B) :=
  let now := getNowMs s
  let maxAge := heartbeatMaxAgeMs now.2.lib.config
  let enabled := supervisionEnabled now.2
  if enabled.1 = 0 then some enabled.2
  else (scanLoop now.1 maxAge 255 0 (syncEnter enabled.2)).map syncExit

def drainQueue : ℕ → State B → Option (State B)
  | 0, s => some s
  | rounds + 1, s =>
      let got := failureQueueGet s
      match got.1 with
      | none => some got.2
      | some report => (handleFailure got.2 (some report)).bind (drainQueue rounds)

def supervisorTick (s : State B) : Option (State B) :=
  let enabled := supervisionEnabled s
  if enabled.1 = 0 then some enabled.2
  else (drainQueue 256 enabled.2).bind checkWatchdogs

/-! ## Registration, queries and reports -/

def entityRegister (s : State B) (desc : Option EntityDesc) (outId : Bool) :
    Option (Status × Option EntityId × State B) :=
  let s := syncEnter s
  match desc, outId with
  | some desc, true =>
      if B.entityCap ≤ s.lib.entityCount.toNat then some (.errFull, none, syncExit s)
      else if desc.onExhausted = .restart then some (.errParam, none, syncExit s)
      else do
        let id := s.lib.entityCount
        let name := copyDetail B.nameSize desc.name
        let slot : EntitySlot := {
          desc := { desc with name := some name }
          name := name
          used := true
          restartCount := 0
          watchdogRestartCount := 0 }
        let entities ← store B.Within s.lib.entities id slot
        let s := s.write fun l ↦ { l with
          entities := entities
          entityCount := l.entityCount + 1
          health := l.health.setEntityLimit (l.entityCount + 1) }
        let s ← healthResetUnsafe s id
        return (.ok, some id, syncExit s)
  | _, _ => some (.errParam, none, syncExit s)

def entityName (l : Lib B) (id : EntityId) : Option CStr :=
  if l.entityCount ≤ id then some "unknown".toList
  else do
    let slot ← fetch B.Within l.entities id
    if slot.used = false then return "unknown".toList
    else return slot.desc.name.getD "unnamed".toList

def entityMayRun (s : State B) (id : EntityId) : Option (Bool × State B) :=
  let s := syncEnter s
  if s.lib.supervisionEnabled = 0 then some (true, syncExit s)
  else if .safe ≤ s.lib.mode then some (false, syncExit s)
  else do
    match ← snapshot B s.lib.health id with
    | none => return (false, syncExit s)
    | some snapshot =>
        if snapshot.health = .failed then return (false, syncExit s) else return (true, syncExit s)

def reportFaultImpl (s : State B) (entity : EntityId) (reason : Reason) (errorCode : UInt16)
    (detail : Option CStr) (flags : UInt8) : Option (Status × State B) :=
  let s := syncEnter s
  if s.lib.supervisionEnabled = 0 then some (.ok, syncExit s)
  else do
    let latched ← faultIsLatchedUnsafe B s.lib.health entity reason
    if latched then return (.ok, syncExit s)
    else
      let failed ← snapshotFailed B s.lib.health entity
      if failed then return (.ok, syncExit s)
      else
        let now := getNowMs s
        let report : FailureReport := {
          entity := entity
          reason := reason
          errorCode := errorCode
          detail := copyDetail B.detailSize detail
          timestampMs := now.1
          flags := flags }
        let enqueued := enqueueFailureUnsafe now.2 report
        if enqueued.1 ≠ .ok then return (enqueued.1, syncExit enqueued.2)
        else
          let s ← healthSetUnsafe enqueued.2 entity .failed errorCode detail
          return (.ok, syncExit s)

def workerMayRun (s : State B) (id : EntityId) : Option (Bool × State B) :=
  let mode := systemMode s
  if .safe ≤ mode.1 then (heartbeatNotify mode.2 id).map fun s ↦ (false, s)
  else entityMayRun mode.2 id

/-! ## The whole interface -/

def query (s : State B) : Query → Option (Reply × State B)
  | .entityName id => (entityName s.lib id).map fun name ↦ (.text name, s)
  | .entityMayRun id => (entityMayRun s id).map fun r ↦ (.bool r.1, r.2)
  | .healthSnapshot id => (snapshot B s.lib.health id).map fun r ↦ (.snapshot r, s)
  | .healthSnapshotCopy id out => (snapshotCopy s id out).map fun r ↦ (.snapshot r.1, r.2)
  | .healthIsStale id nowMs maxAgeMs =>
      (isStale B s.lib.health id nowMs maxAgeMs).map fun stale ↦ (.bool stale, s)
  | .healthFaultIsLatched id reason => (faultIsLatched s id reason).map fun r ↦ (.bool r.1, r.2)
  | q => some (q.exec s)

/-- The calls left to `Call.exec` make no access. -/
def exec (s : State B) : Call → Option (Reply × State B)
  | .query q => query s q
  | .entityRegister desc outId =>
      (entityRegister s desc outId).map fun r ↦ (.issued r.1 r.2.1, r.2.2)
  | .supervisorTick => (supervisorTick s).map fun s ↦ (.unit, s)
  | .handleFailure report => (handleFailure s report).map fun s ↦ (.unit, s)
  | .checkWatchdogs => (checkWatchdogs s).map fun s ↦ (.unit, s)
  | .reportFault entity reason errorCode detail =>
      (reportFaultImpl s entity reason errorCode detail faultFlagCritical).map
        fun r ↦ (.status r.1, r.2)
  | .reportFaultEx entity reason errorCode detail flags =>
      (reportFaultImpl s entity reason errorCode detail flags).map fun r ↦ (.status r.1, r.2)
  | .heartbeatNotify id => (heartbeatNotify s id).map fun s ↦ (.unit, s)
  | .healthSet id health errorCode detail =>
      (healthSet s id health errorCode detail).map fun s ↦ (.unit, s)
  | .healthReset id => (healthReset s id).map fun s ↦ (.unit, s)
  | .workerMayRun id => (workerMayRun s id).map fun r ↦ (.bool r.1, r.2)
  | c => some (c.exec s)

/-- `fdir_init` clears the arrays by their size. -/
def op (s : State B) : Op → Option (Reply × State B)
  | .call c => exec s c
  | op => some (op.exec s)

def firstDue (l : Lib B) (nowMs maxAge : UInt32) (next : ℕ) : Option (Option ℕ) :=
  (List.range' next (l.entityCount.toNat - next)).findM? fun i ↦
    watchdogDue l nowMs maxAge (UInt8.ofNat i)

def advance (s : State B) : Pc → Option (Pc × State B)
  | .handleLocked report ret => (handleFailureLocked s report).map fun s ↦ (ret.pc, s)
  | .watchScan readAt nowMs maxAge next =>
      let s := syncEnter s
      (firstDue s.lib nowMs maxAge next).map fun
        | none => (.idle, syncExit s)
        | some i => (.handleTest (watchdogReport B (UInt8.ofNat i) nowMs)
            (.scan readAt nowMs maxAge (i + 1)), syncExit s)
  | .gateHeartbeat id => (heartbeatNotify s id).map fun s ↦ (.idle, s)
  | .gateRun id => (entityMayRun s id).map fun r ↦ (.idle, r.2)
  | pc => some (pc.advance s)

def step (m : Machine B) : Turn → Option (Machine B)
  | .call thread c =>
      if m.pcs thread = .idle then
        match c.entry with
        | none => (exec m.state c).map fun r ↦ { m with state := r.2 }
        | some pc => some { m with pcs := Function.update m.pcs thread pc }
      else some m
  | .advance thread =>
      (advance m.state (m.pcs thread)).map fun next ↦
        ⟨next.2, Function.update m.pcs thread next.1⟩
  | .elapse ms => some { m with state := m.state.elapse ms }

end Checked

end Fdir
