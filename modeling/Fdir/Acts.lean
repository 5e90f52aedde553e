import Fdir.Evolution
import Fdir.Marks

/-!
# Acts

Between taking and releasing the port lock the library performs acts: it reads
the clock, calls the application, writes static variables, or changes the mode or
a subsystem and announces the change.  Whatever the library does is a sequence of
such stretches under the lock, and of clock readings and callbacks outside it.
A `Scope` limits the entities and subsystems that events are about and the marks
that are made, and says whether subsystems are registered, their handlers
consulted and queue overflows noted.
-/

namespace Fdir

open Relation (ReflTransGen)

variable {B : Build}

/-! ## The acts -/

/-- A change of a subsystem that is announced. -/
inductive Mark where
  | available | unavailable | degraded
  deriving DecidableEq, Repr

def Mark.apply : Mark → SubsystemTable → SubsystemId → SubsystemTable
  | .available => SubsystemTable.markAvailableUnsafe
  | .unavailable => SubsystemTable.markUnavailableUnsafe
  | .degraded => SubsystemTable.markDegradedUnsafe

/-- The text of the event. -/
def Mark.detail : Mark → CStr
  | .available => "available".toList
  | .unavailable => "unavailable".toList
  | .degraded => "degraded".toList

structure Scope where
  entity : EntityId → Prop
  marks : Mark → SubsystemTable → SubsystemId → Prop
  overrides : SubsystemTable → SubsystemId → Prop
  enrols : Prop
  consults : Prop
  overflows : Prop

def Scope.all : Scope := ⟨fun _ ↦ True, fun _ _ _ ↦ True, fun _ _ ↦ True, True, True, True⟩

/-- Nothing that events tell or locking depends on has changed. -/
structure Lib.Unannounced (l l' : Lib B) : Prop where
  mode : l'.mode = l.mode
  subsystems : l'.subsystems = l.subsystems
  port : l'.port = l.port
  ready : l'.portReady = l.portReady

/-- A new subsystem in the first free slot. -/
def SubsystemTable.enrol (t : SubsystemTable) (slot : SubsystemSlot) : SubsystemTable where
  subs := Function.update t.subs t.subCount slot
  subCount := t.subCount + 1

inductive Act (scope : Scope) : State B → State B → Prop where
  | clock (s : State B) : Act scope s (getNowMs s).2
  | stamp (s : State B) (id : EntityId) : Act scope s (s.stamp id)
  | call (s : State B) {o : Obs} (ho : o.emitted = none) (hconsulted : o.consulted = none) :
      Act scope s (s.log o)
  | consult (s : State B) (sub : SubsystemId) (id : EntityId) (report : Option FailureReport)
      (answer : Action) (hconsults : scope.consults) :
      Act scope s (s.log (.exhausted sub id report answer))
  | reboot (s : State B) (why : CStr) : Act scope s (requestReboot s why)
  | write (s : State B) (f : Lib B → Lib B) (hf : s.lib.Unannounced (f s.lib)) :
      Act scope s (s.write f)
  | event (s : State B) (kind : EventKind) (entity : EntityId) (reason : Reason)
      (errorCode : UInt16) (level : Level) (phase : Phase) (detail : Option CStr)
      (hkind : kind ≠ .modeChange)
      (hlevel : level = .system ∨ level = .entity ∧ scope.entity entity)
      (hnote : kind = .queueOverflow → scope.overflows) :
      Act scope s (emitEventFull s kind s.lib.mode entity reason errorCode level phase detail)
  | mode (s : State B) (mode : Mode) (entity : EntityId) (detail : Option CStr)
      (hmode : s.lib.mode ≠ mode) :
      Act scope s (emitEventFull (s.write fun l ↦ { l with mode := mode }) .modeChange mode
        entity .user 0 .system .raised detail)
  | mark (s : State B) (mark : Mark) (sub : SubsystemId) (entity : EntityId) (reason : Reason)
      (errorCode : UInt16) (phase : Phase) (hsub : scope.marks mark s.lib.subsystems sub) :
      Act scope s (emitSubsystemState
        (s.write fun l ↦ { l with subsystems := mark.apply l.subsystems sub })
        sub entity reason errorCode phase mark.detail)
  | override (s : State B) (sub : SubsystemId) (entity : EntityId) (reason : Reason)
      (errorCode : UInt16) (phase : Phase) (hsub : scope.overrides s.lib.subsystems sub) :
      Act scope s (emitSubsystemState s sub entity reason errorCode phase
        "policy_override".toList)
  | enrol (s : State B) (slot : SubsystemSlot) (henrols : scope.enrols)
      (havailable : slot.available = true) (hdegraded : slot.degraded = false)
      (hused : slot.used = true) :
      Act scope s (s.write fun l ↦ { l with subsystems := l.subsystems.enrol slot })

/-- What the library does while it holds the lock. -/
abbrev Work (scope : Scope) : State B → State B → Prop := ReflTransGen (Act scope)

/-- One critical section, or a step outside. -/
inductive Stretch (scope : Scope) : State B → State B → Prop where
  | critical {s s' : State B} (h : Work scope (syncEnter s) s') : Stretch scope s (syncExit s')
  | clock (s : State B) : Stretch scope s (getNowMs s).2
  | call (s : State B) {o : Obs} (ho : o.emitted = none) : Stretch scope s (s.log o)

/-- What the library does altogether. -/
abbrev Trail (scope : Scope) : State B → State B → Prop := ReflTransGen (Stretch scope)

theorem Act.work {scope : Scope} {s s' : State B} (h : Act scope s s') : Work scope s s' :=
  .single h

theorem Work.critical {scope : Scope} {s s' : State B} (h : Work scope (syncEnter s) s') :
    Trail scope s (syncExit s') :=
  .single (.critical h)

/-! ## The helpers under the lock -/

section Helpers

variable {scope : Scope} (s : State B)

theorem healthSetUnsafe_work (id : EntityId) (health : Health) (errorCode : UInt16)
    (detail : Option CStr) : Work scope s (healthSetUnsafe s id health errorCode detail) :=
  (Act.write s _ ⟨rfl, rfl, rfl, rfl⟩).work

theorem healthResetUnsafe_work (id : EntityId) : Work scope s (healthResetUnsafe s id) := by
  unfold healthResetUnsafe
  split
  · exact .refl
  · exact ((Act.clock s).work.tail (.stamp _ id)).tail (.write _ _ ⟨rfl, rfl, rfl, rfl⟩)

theorem notifySystemHandler_work (mode : Mode) (report : Option FailureReport) :
    Work scope s (notifySystemHandler s mode report) := by
  unfold notifySystemHandler
  split
  · exact (Act.call s rfl rfl).work
  · exact .refl

theorem setMode_work (mode : Mode) (entity : EntityId) (detail : Option CStr)
    (report : Option FailureReport) : Work scope s (setMode s mode entity detail report) := by
  unfold setMode
  split
  · exact .refl
  · next hmode =>
    have hset : Work scope s _ := (Act.mode s mode entity detail hmode).work
    exact hset.trans (notifySystemHandler_work _ _ _)

theorem enterDegradedModeUnsafe_work : Work scope s (enterDegradedModeUnsafe s) := by
  unfold enterDegradedModeUnsafe
  split
  · exact setMode_work s _ _ _ _
  · exact .refl

theorem enterSafeModeUnsafe_work : Work scope s (enterSafeModeUnsafe s) := by
  unfold enterSafeModeUnsafe
  split
  · exact setMode_work s _ _ _ _
  · exact .refl

theorem tryRebootUnsafe_work (reason : Option CStr) : Work scope s (tryRebootUnsafe s reason) :=
  (setMode_work s _ _ _ _).tail (.reboot _ _)

theorem evaluateDualPath_work : Work scope s (evaluateDualPath s) := by
  unfold evaluateDualPath
  split
  · exact enterSafeModeUnsafe_work s
  · exact .refl

theorem subsystemOnEntityExhausted_work (hconsults : scope.consults) (sub : SubsystemId)
    (id : EntityId) (report : Option FailureReport) :
    Work scope s (subsystemOnEntityExhausted s sub id report).2 := by
  unfold subsystemOnEntityExhausted
  split
  · exact .refl
  · split
    · exact .refl
    · exact (Act.consult s sub id report _ hconsults).work

theorem chooseAction_work (report : FailureReport) : Work scope s (chooseAction s report).2 := by
  simp only [chooseAction]
  split
  · exact .refl
  · exact (Act.call s rfl rfl).work

/-- Only an override is announced. -/
theorem resolveExhaustedAction_work (hconsults : scope.consults) (id : EntityId)
    (action : Action) (report : FailureReport)
    (hsub : action ≠ .restart → action ≠ .none →
      (s.lib.entities id).desc.linkedSubsystem ≠ subsystemNone →
      (subsystemOnEntityExhausted s (s.lib.entities id).desc.linkedSubsystem id
        (some report)).1 ≠ .none →
      scope.overrides s.lib.subsystems (s.lib.entities id).desc.linkedSubsystem) :
    Work scope s (resolveExhaustedAction s id action report).2 := by
  have hasked : Work scope s _ := subsystemOnEntityExhausted_work s hconsults
    (s.lib.entities id).desc.linkedSubsystem id (some report)
  simp only [resolveExhaustedAction]
  split
  · exact .refl
  · next haction =>
    rw [not_or] at haction
    split
    · exact .refl
    · next hlinked =>
      split
      · next hanswer =>
        refine hasked.tail (.override _ _ _ _ _ _ ?_)
        rw [subsystemOnEntityExhausted_lib]
        exact hsub haction.1 haction.2 hlinked hanswer
      · exact hasked

theorem markLinked_work (mark : Mark) (id : EntityId) (report : FailureReport)
    (hsub : (s.lib.entities id).desc.linkedSubsystem ≠ subsystemNone →
      scope.marks mark s.lib.subsystems (s.lib.entities id).desc.linkedSubsystem) :
    Work scope s (markLinked mark.apply mark.detail s id report) := by
  simp only [markLinked]
  split
  · next hlinked => exact (Act.mark s mark _ id _ _ _ (hsub hlinked)).work
  · exact .refl

/-- How an action marks the linked subsystem. -/
def Action.mark? : Action → Option Mark
  | .degrade => some .degraded
  | .unavailable | .safe | .reboot => some .unavailable
  | .none | .restart | .other _ => .none

theorem applyFinalAction_work (id : EntityId) (action : Action) (report : FailureReport)
    (hsub : ∀ mark, action.mark? = some mark →
      (s.lib.entities id).desc.linkedSubsystem ≠ subsystemNone →
        scope.marks mark s.lib.subsystems (s.lib.entities id).desc.linkedSubsystem) :
    Work scope s (applyFinalAction s id action report) := by
  cases action with
  | degrade =>
      exact (markLinked_work s .degraded id report (hsub _ rfl)).trans
        (enterDegradedModeUnsafe_work _)
  | unavailable =>
      exact (markLinked_work s .unavailable id report (hsub _ rfl)).trans
        ((enterDegradedModeUnsafe_work _).trans (evaluateDualPath_work _))
  | safe =>
      exact (markLinked_work s .unavailable id report (hsub _ rfl)).trans
        (enterSafeModeUnsafe_work _)
  | reboot =>
      exact (markLinked_work s .unavailable id report (hsub _ rfl)).trans
        (tryRebootUnsafe_work _ _)
  | none | restart | other code => exact .refl

theorem tryRestart_work (id : EntityId) (reason : Reason) (hid : scope.entity id) :
    Work scope s (tryRestart s id reason).2 := by
  have hevent : ∀ (s : State B) kind phase cause detail,
      kind ≠ .modeChange ∧ kind ≠ .queueOverflow →
      Work scope s (emitEventFull s kind s.lib.mode id cause 0 .entity phase detail) :=
    fun s kind phase cause detail hkind ↦
      (Act.event s kind id cause 0 .entity phase detail hkind.1 (Or.inr ⟨rfl, hid⟩)
        fun hnote ↦ absurd hnote hkind.2).work
  simp only [tryRestart]
  split
  · exact .refl
  · next restart hsome =>
    have hcalled : Work scope s ((s.write fun l ↦
        l.setSlot id (bumpRestart (s.lib.entities id) reason)).log
          (.restart id reason (restart ((s.write fun l ↦
            l.setSlot id (bumpRestart (s.lib.entities id) reason)).context id) id
            (s.lib.entities id).desc.user))) :=
      (Act.write s _ ⟨rfl, rfl, rfl, rfl⟩).work.tail (.call _ rfl rfl)
    split
    · exact hcalled
    · refine hcalled.trans ((Act.write _ (fun l ↦
        { l with health := (l.health.clearLatchUnsafe id).2 }) ⟨rfl, rfl, rfl, rfl⟩).work.trans ?_)
      refine (healthResetUnsafe_work _ id).trans ?_
      split
      · exact (hevent _ _ _ _ _ (by decide)).trans (hevent _ _ _ _ _ (by decide))
      · exact hevent _ _ _ _ _ (by decide)

end Helpers

end Fdir
