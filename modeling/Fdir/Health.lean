import Fdir.State

/-!
# Health operations

The operations of `health.c` that read the clock or take the port lock.
-/

namespace Fdir

variable {B : Build}

def healthSetUnsafe (s : State B) (id : EntityId) (health : Health) (errorCode : UInt16)
    (detail : Option CStr) : State B :=
  s.write fun l ↦ { l with
    health := l.health.setUnsafe id health errorCode (copyDetail B.detailSize detail) }

def healthResetUnsafe (s : State B) (id : EntityId) : State B :=
  if s.lib.health.entityLimit ≤ id then s
  else
    let now := getNowMs s
    (now.2.stamp id).write fun l ↦ { l with health := l.health.resetUnsafe id now.1 }

def faultIsLatched (s : State B) (id : EntityId) (reason : Reason) : Bool × State B :=
  let s := syncEnter s
  (s.lib.health.faultIsLatchedUnsafe id reason, syncExit s)

def heartbeatNotify (s : State B) (id : EntityId) : State B :=
  let s := syncEnter s
  if s.lib.health.entityLimit ≤ id then syncExit s
  else
    let now := getNowMs s
    syncExit ((now.2.stamp id).write fun l ↦ { l with health := l.health.heartbeat id now.1 })

def healthSet (s : State B) (id : EntityId) (health : Health) (errorCode : UInt16)
    (detail : Option CStr) : State B :=
  let s := syncEnter s
  if s.lib.health.entityLimit ≤ id then syncExit s
  else syncExit (healthSetUnsafe s id health errorCode detail)

def healthReset (s : State B) (id : EntityId) : State B :=
  let s := syncEnter s
  if s.lib.health.entityLimit ≤ id then syncExit s
  else syncExit (healthResetUnsafe s id)

/-- `out` says that the caller's buffer is not NULL. -/
def snapshotCopy (s : State B) (id : EntityId) (out : Bool) : Option HealthSnapshot × State B :=
  if !out || decide (s.lib.health.entityLimit ≤ id) then (none, s)
  else
    let s := syncEnter s
    (some (s.lib.health.health id), syncExit s)

end Fdir
