import Fdir.Events

/-!
# Subsystem operations

The operations of `subsystem.c` that take the port lock, emit an event or call
a handler of the application.
-/

namespace Fdir

variable {B : Build}

/-- `outId` says that the caller's id pointer is not NULL; the result is the
issued id. -/
def subsystemRegister (s : State B) (desc : Option SubsystemDesc) (outId : Bool) :
    Status × Option SubsystemId × State B :=
  let s := syncEnter s
  match desc, outId with
  | some desc, true =>
      if B.subsystemCap ≤ s.lib.subsystems.subCount.toNat then (.errFull, none, syncExit s)
      else
        let id := s.lib.subsystems.subCount
        let name := copyDetail B.nameSize desc.name
        let slot : SubsystemSlot := {
          desc := { desc with name := some name }
          name := name
          available := true
          degraded := false
          used := true }
        let s := s.write fun l ↦ { l with subsystems := {
          subs := Function.update l.subsystems.subs id slot
          subCount := l.subsystems.subCount + 1 } }
        (.ok, some id, syncExit s)
  | _, _ => (.errParam, none, syncExit s)

/-- The common body of the three public marks: the mark under the lock, and the
event that announces it, for a registered subsystem. -/
def markSubsystem (mark : SubsystemTable → SubsystemId → SubsystemTable) (phase : Phase)
    (detail : CStr) (s : State B) (id : SubsystemId) : State B :=
  let s := syncEnter s
  if (s.lib.subsystems.slotOf id).isSome then
    let s := s.write fun l ↦ { l with subsystems := mark l.subsystems id }
    syncExit (emitSubsystemState s id entityNone .user 0 phase detail)
  else syncExit s

def subsystemMarkAvailable (s : State B) (id : SubsystemId) : State B :=
  markSubsystem SubsystemTable.markAvailableUnsafe .cleared "available".toList s id

def subsystemMarkUnavailable (s : State B) (id : SubsystemId) : State B :=
  markSubsystem SubsystemTable.markUnavailableUnsafe .raised "unavailable".toList s id

def subsystemMarkDegraded (s : State B) (id : SubsystemId) : State B :=
  markSubsystem SubsystemTable.markDegradedUnsafe .raised "degraded".toList s id

def subsystemOnEntityExhausted (s : State B) (sub : SubsystemId) (entity : EntityId)
    (report : Option FailureReport) : Action × State B :=
  match s.lib.subsystems.slotOf sub with
  | none => (.none, s)
  | some slot =>
      match slot.desc.onEntityExhausted with
      | none => (.none, s)
      | some handler =>
          let answer := handler (s.context entity) sub entity report slot.desc.user
          (answer, s.log (.exhausted sub entity report answer))

end Fdir
