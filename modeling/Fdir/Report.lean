import Fdir.Recovery

/-!
# Fault reports and the worker gate

The operations of `report.c` and `worker.c`.
-/

namespace Fdir

variable {B : Build}

def failureQueuePut (s : State B) (report : FailureReport) : ℤ × State B :=
  let s := syncEnter s
  let put := s.lib.queue.putUnsafe report
  (put.1, syncExit (s.write fun l ↦ { l with queue := put.2 }))

def failureQueueFullLatched (s : State B) : Bool × State B :=
  let s := syncEnter s
  (s.lib.queue.fullLatched, syncExit s)

/-- The status both enqueueing paths return for a rejected report. -/
def rejectedStatus (flags : UInt8) : Status :=
  if flags &&& faultFlagCritical ≠ 0 then .errBusy else .errState

def enqueueFailureUnsafe (s : State B) (report : FailureReport) : Status × State B :=
  let put := s.lib.queue.putUnsafe report
  let s := s.write fun l ↦ { l with queue := put.2 }
  if put.1 ≠ 0 then (rejectedStatus report.flags, s) else (.ok, s)

def submitFailure (s : State B) (report : Option FailureReport) : Status × State B :=
  match report with
  | none => (.errParam, s)
  | some report =>
      let enabled := supervisionEnabled s
      if enabled.1 = 0 then (.ok, enabled.2)
      else
        let put := failureQueuePut enabled.2 report
        if put.1 ≠ 0 then (rejectedStatus report.flags, put.2) else (.ok, put.2)

def reportFaultImpl (s : State B) (entity : EntityId) (reason : Reason) (errorCode : UInt16)
    (detail : Option CStr) (flags : UInt8) : Status × State B :=
  let s := syncEnter s
  if s.lib.supervisionEnabled = 0 then (.ok, syncExit s)
  else if s.lib.health.faultIsLatchedUnsafe entity reason then (.ok, syncExit s)
  else if s.lib.health.snapshotFailed entity then (.ok, syncExit s)
  else
    let now := getNowMs s
    let report : FailureReport := {
      entity := entity
      reason := reason
      errorCode := errorCode
      detail := copyDetail B.detailSize detail
      timestampMs := now.1
      flags := flags }
    let enqueued := enqueueFailureUnsafe now.2 report
    if enqueued.1 ≠ .ok then (enqueued.1, syncExit enqueued.2)
    else (.ok, syncExit (healthSetUnsafe enqueued.2 entity .failed errorCode detail))

def reportFault (s : State B) (entity : EntityId) (reason : Reason) (errorCode : UInt16)
    (detail : Option CStr) : Status × State B :=
  reportFaultImpl s entity reason errorCode detail faultFlagCritical

def reportFaultEx (s : State B) (entity : EntityId) (reason : Reason) (errorCode : UInt16)
    (detail : Option CStr) (flags : UInt8) : Status × State B :=
  reportFaultImpl s entity reason errorCode detail flags

def workerMayRun (s : State B) (id : EntityId) : Bool × State B :=
  let mode := systemMode s
  if .safe ≤ mode.1 then (false, heartbeatNotify mode.2 id)
  else entityMayRun mode.2 id

end Fdir
