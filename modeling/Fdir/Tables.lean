import Fdir.Types

/-!
# The entity, health and subsystem tables

The static arrays of `recovery.c`, `health.c` and `subsystem.c`, with those
operations of the two latter modules that only read or write their own arrays.
An id out of range is answered by the range test of the source; the arrays
themselves are total functions of the 8-bit id.
-/

namespace Fdir

/-- Copy into a buffer of `size` bytes, the last of which ends the string. -/
def copyDetail (size : ℕ) (src : Option CStr) : CStr :=
  match src with
  | none => []
  | some text => text.take (size - 1)

structure EntitySlot where
  desc : EntityDesc
  name : CStr
  used : Bool
  restartCount : UInt8
  watchdogRestartCount : UInt8

def EntitySlot.zero : EntitySlot := ⟨.zero, [], false, 0, 0⟩

/-! ## Health records and the fault latch -/

/-- The static variables of `health.c`. -/
structure HealthTable where
  health : EntityId → HealthSnapshot
  latchedReason : EntityId → Reason
  faultLatched : EntityId → Bool
  entityLimit : UInt8

namespace HealthTable

variable (t : HealthTable) (id : EntityId)

def init : HealthTable where
  health := fun _ ↦ .zero
  latchedReason := fun _ ↦ .initFailed
  faultLatched := fun _ ↦ false
  entityLimit := 0

def setEntityLimit (limit : UInt8) : HealthTable := { t with entityLimit := limit }

def faultIsLatchedUnsafe (reason : Reason) : Bool :=
  if t.entityLimit ≤ id then false
  else t.faultLatched id && decide (t.latchedReason id = reason)

def latchFaultUnsafe (reason : Reason) : Bool × HealthTable :=
  if t.entityLimit ≤ id then (false, t)
  else if t.faultLatched id && decide (t.latchedReason id = reason) then (true, t)
  else (false, { t with
    faultLatched := Function.update t.faultLatched id true
    latchedReason := Function.update t.latchedReason id reason })

/-- The sentinel `0xFF`, which is no reason, is `none`. -/
def clearLatchUnsafe : Option Reason × HealthTable :=
  if t.entityLimit ≤ id then (none, t)
  else
    (if t.faultLatched id then some (t.latchedReason id) else none, { t with
      faultLatched := Function.update t.faultLatched id false
      latchedReason := Function.update t.latchedReason id .initFailed })

def snapshot : Option HealthSnapshot :=
  if t.entityLimit ≤ id then none else some (t.health id)

def isStale (nowMs maxAgeMs : UInt32) : Bool :=
  match t.snapshot id with
  | none => false
  | some snapshot =>
      if snapshot.health = .failed then false
      else decide (maxAgeMs < nowMs - snapshot.lastHeartbeatMs)

/-- Whether the snapshot of `id` exists and says FAILED. -/
def snapshotFailed : Bool :=
  match t.snapshot id with
  | none => false
  | some snapshot => decide (snapshot.health = .failed)

/-- The writes of `fdir_health_set` and `fdir_health_set_unsafe`. -/
def setUnsafe (health : Health) (errorCode : UInt16) (detail : CStr) : HealthTable :=
  if t.entityLimit ≤ id then t
  else { t with
    health := Function.update t.health id
      { t.health id with health := health, errorCode := errorCode, detail := detail } }

/-- The writes of `fdir_health_reset` and `fdir_health_reset_unsafe` at clock
reading `nowMs`. -/
def resetUnsafe (nowMs : UInt32) : HealthTable :=
  if t.entityLimit ≤ id then t
  else { t with health := Function.update t.health id ⟨.ok, nowMs, 0, []⟩ }

/-- The writes of `fdir_health_heartbeat_notify` at clock reading `nowMs`. -/
def heartbeat (nowMs : UInt32) : HealthTable :=
  if t.entityLimit ≤ id then t
  else { t with
    health := Function.update t.health id
      { t.health id with
        lastHeartbeatMs := nowMs
        health := if (t.health id).health = .failed then .failed else .ok } }

end HealthTable

/-! ## Subsystem flags -/

structure SubsystemSlot where
  desc : SubsystemDesc
  name : CStr
  available : Bool
  degraded : Bool
  used : Bool

def SubsystemSlot.zero : SubsystemSlot := ⟨.zero, [], false, false, false⟩

/-- The static variables of `subsystem.c`. -/
structure SubsystemTable where
  subs : SubsystemId → SubsystemSlot
  subCount : UInt8

namespace SubsystemTable

variable (t : SubsystemTable) (id : SubsystemId)

def init : SubsystemTable where
  subs := fun _ ↦ .zero
  subCount := 0

def slotOf : Option SubsystemSlot :=
  if t.subCount ≤ id || !(t.subs id).used then none else some (t.subs id)

def criticalUnavailable (i : ℕ) : Bool :=
  let slot := t.subs (UInt8.ofNat i)
  slot.used && slot.desc.isCriticalPath && !slot.available

/-- The accumulator of the loop has 8 bits. -/
def criticalUnavailableCount : UInt8 :=
  (List.range t.subCount.toNat).foldl
    (fun count i ↦ if t.criticalUnavailable i then count + 1 else count) 0

def name : CStr :=
  match t.slotOf id with
  | none => "unknown".toList
  | some slot => slot.desc.name.getD "unnamed".toList

def isAvailable : Bool := (t.slotOf id).any fun slot ↦ slot.available

def isDegraded : Bool := (t.slotOf id).any fun slot ↦ slot.degraded

def isCriticalPath : Bool := (t.slotOf id).any fun slot ↦ slot.desc.isCriticalPath

/-- Store `f slot` for a registered subsystem. -/
def updateSlot (f : SubsystemSlot → SubsystemSlot) : SubsystemTable :=
  match t.slotOf id with
  | none => t
  | some slot => { t with subs := Function.update t.subs id (f slot) }

def markAvailableUnsafe : SubsystemTable :=
  t.updateSlot id fun slot ↦ { slot with available := true, degraded := false }

def markUnavailableUnsafe : SubsystemTable :=
  t.updateSlot id fun slot ↦ { slot with available := false, degraded := true }

def markDegradedUnsafe : SubsystemTable :=
  t.updateSlot id fun slot ↦ { slot with degraded := true }

end SubsystemTable

end Fdir
