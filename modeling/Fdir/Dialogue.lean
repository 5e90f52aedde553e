import Fdir.Trails

/-!
# The dialogue with the surroundings

A listener follows the record of everything the library says to its surroundings: lock
hooks, clock readings, events, reboot requests and callbacks.  It accepts a record only
if every hook runs under the lock, every change of the mode is announced once and the
system handler told of it at once, a reboot is requested in REBOOT_PENDING only, and the
callbacks about an entity follow the announcement of its anomaly, in the order decide,
subsystem policy, restart.
-/

namespace Fdir

open Foundation

variable {B : Build}

/-! ## The listener -/

/-- How far the handling of an announced anomaly has got. -/
inductive Progress where
  | raised | decided | consulted | restarting | tried
  deriving DecidableEq, Repr

def Progress.rank : Progress → ℕ
  | .raised => 0
  | .decided => 1
  | .consulted => 2
  | .restarting => 3
  | .tried => 4

/-- Outside the lock, under it, or under it with an anomaly announced. -/
inductive Stage where
  | outside
  | inside
  | handling (id : EntityId) (reason : Reason) (progress : Progress)
  deriving DecidableEq, Repr

namespace Stage

/-- Under the lock, with no restarted entity left to announce. -/
def settled : Stage → Bool
  | .outside => false
  | .inside => true
  | .handling _ _ progress => decide (progress ≠ .restarting)

/-- A callback about `id` and `reason`, which takes its handling from before `progress`
to `next`. -/
def call (stage : Stage) (id : EntityId) (reason : Reason) (progress next : Progress) :
    Option Stage :=
  match stage with
  | .handling id' reason' progress' =>
      if id' = id ∧ reason' = reason ∧ progress'.rank < progress.rank then
        some (.handling id reason next)
      else none
  | _ => none

/-- An event other than a change of the mode. -/
def tell (stage : Stage) (e : Event) : Option Stage :=
  match e.level with
  | .system => if stage = .inside then some stage else none
  | .subsystem => if stage.settled then some stage else none
  | .entity =>
      if e.kind = .restart ∧ e.phase = .raised then
        if stage = .handling e.entity e.reason .restarting then
          some (.handling e.entity e.reason .tried)
        else none
      else if e.phase = .cleared then
        match stage with
        | .handling id _ .restarting =>
            if e.kind = .failure ∧ e.entity = id then some stage else none
        | _ => none
      else if stage = .inside ∧ e.kind = if e.reason = .watchdog then .watchdog else .failure then
        some (.handling e.entity e.reason .raised)
      else none

end Stage

/-- `owed` says that the system handler has not been told of the mode yet. -/
structure Listener where
  mode : Mode
  owed : Bool
  stage : Stage
  deriving DecidableEq, Repr

namespace Listener

def start : Listener := ⟨.nominal, false, .outside⟩

def move (x : Listener) (stage : Stage) : Listener := { x with stage := stage }

/-- The listener after one more interaction, if that is in order.  `handler` says
whether there is a system handler. -/
def hear (handler : Bool) (x : Listener) (o : Obs) : Option Listener :=
  if x.owed then
    if o = .escalation x.mode none then some { x with owed := false } else none
  else
    match o with
    | .lock => if x.stage = .outside then some (x.move .inside) else none
    | .unlock => if x.stage.settled then some (x.move .outside) else none
    | .clock _ => some x
    | .event e =>
        if e.kind = .modeChange then
          if x.stage.settled ∧ e.level = .system ∧ e.mode ≠ x.mode then
            some { x with mode := e.mode, owed := handler }
          else none
        else if e.mode = x.mode then (x.stage.tell e).map x.move
        else none
    | .reboot _ => if x.stage.settled ∧ x.mode = .rebootPending then some x else none
    | .escalation _ _ => none
    | .decide id report _ =>
        if report.entity = id then
          (x.stage.call id report.reason .decided .decided).map x.move
        else none
    | .exhausted _ id report _ =>
        if x.stage = .outside then some x
        else
          match report with
          | none => none
          | some report => (x.stage.call id report.reason .consulted .consulted).map x.move
    | .restart id reason answer =>
        (x.stage.call id reason .restarting (if answer = 0 then .restarting else .tried)).map x.move

/-- The listener after a whole record. -/
def follow (handler : Bool) (x : Listener) (record : List Obs) : Option Listener :=
  record.foldlM (hear handler) x

@[simp] theorem follow_nil (handler : Bool) (x : Listener) : x.follow handler [] = some x := rfl

theorem follow_append (handler : Bool) (x : Listener) (record more : List Obs) :
    x.follow handler (record ++ more) =
      (x.follow handler record).bind fun y ↦ y.follow handler more :=
  List.foldlM_append

theorem follow_cons (handler : Bool) (x : Listener) (o : Obs) (record : List Obs) :
    x.follow handler (o :: record) = (x.hear handler o).bind fun y ↦ y.follow handler record :=
  List.foldlM_cons

theorem follow_single (handler : Bool) (x : Listener) (o : Obs) :
    x.follow handler [o] = x.hear handler o := by
  rw [follow_cons]
  cases x.hear handler o <;> rfl

end Listener

/-! ## The record so far -/

/-- The lock hooks are bound, the record so far is in order, and the handling is at
`stage`. -/
structure State.Heard (s : State B) (stage : Stage) : Prop where
  ready : s.lib.portReady = true
  lock : s.lib.port.lock = true
  unlock : s.lib.port.unlock = true
  record : Listener.start.follow s.lib.config.onSystemEscalation s.world.trace =
    some ⟨s.lib.mode, false, stage⟩

namespace State.Heard

variable {s s' : State B} {stage stage' : Stage}

/-- A step that adds `more` to the record. -/
theorem extend (h : s.Heard stage) (hready : s'.lib.portReady = s.lib.portReady)
    (hport : s'.lib.port = s.lib.port) (hconfig : s'.lib.config = s.lib.config)
    {more : List Obs} (htrace : s'.world.trace = s.world.trace ++ more)
    (hmore : (Listener.mk s.lib.mode false stage).follow s.lib.config.onSystemEscalation more =
      some ⟨s'.lib.mode, false, stage'⟩) : s'.Heard stage' where
  ready := hready.trans h.ready
  lock := by rw [hport, h.lock]
  unlock := by rw [hport, h.unlock]
  record := by
    rw [hconfig, htrace, Listener.follow_append, h.record]
    exact hmore

theorem log (h : s.Heard stage) {o : Obs}
    (ho : (Listener.mk s.lib.mode false stage).hear s.lib.config.onSystemEscalation o =
      some ⟨s.lib.mode, false, stage'⟩) : (s.log o).Heard stage' := by
  refine h.extend rfl rfl rfl (State.log_trace s o) ?_
  rw [Listener.follow_single]
  exact ho

theorem write (h : s.Heard stage) (f : Lib B → Lib B)
    (hready : (f s.lib).portReady = s.lib.portReady) (hport : (f s.lib).port = s.lib.port)
    (hconfig : (f s.lib).config = s.lib.config) (hmode : (f s.lib).mode = s.lib.mode) :
    (s.write f).Heard stage := by
  refine h.extend hready hport hconfig (List.append_nil _).symm ?_
  rw [Listener.follow_nil]
  exact congrArg (fun mode ↦ some (Listener.mk mode false stage)) hmode.symm

theorem stamp (h : s.Heard stage) (id : EntityId) : (s.stamp id).Heard stage := by
  unfold State.stamp
  split
  · exact h
  · exact ⟨h.ready, h.lock, h.unlock, h.record⟩

theorem syncEnter (h : s.Heard .outside) : (syncEnter s).Heard .inside := by
  simp only [Fdir.syncEnter, h.ready, h.lock, Bool.and_self, if_true]
  exact h.extend rfl rfl rfl rfl (Listener.follow_single _ _ _)

theorem syncExit (h : s.Heard stage) (hstage : stage.settled = true) :
    (syncExit s).Heard .outside := by
  simp only [Fdir.syncExit, h.ready, h.unlock, Bool.and_self, if_true]
  refine h.extend rfl rfl rfl rfl ?_
  rw [Listener.follow_single]
  simp only [Listener.hear, Bool.false_eq_true, if_false, if_pos hstage]
  rfl

theorem getNowMs (h : s.Heard stage) : (getNowMs s).2.Heard stage := by
  simp only [Fdir.getNowMs, h.ready, if_true]
  exact h.extend rfl rfl rfl rfl (Listener.follow_single _ _ _)

theorem elapse (h : s.Heard stage) (ms : ℕ) : (s.elapse ms).Heard stage :=
  ⟨h.ready, h.lock, h.unlock, h.record⟩

/-! ### Events -/

theorem emitEvent (h : s.Heard stage) {e : Event}
    (he : (Listener.mk s.lib.mode false stage).hear s.lib.config.onSystemEscalation (.event e) =
      some ⟨s.lib.mode, false, stage'⟩) : (emitEvent s e).Heard stage' := by
  simp only [Fdir.emitEvent, h.ready, if_true]
  refine h.extend rfl rfl rfl (State.emit_trace s e) ?_
  rw [Listener.follow_single]
  exact he

theorem emitEventFull (h : s.Heard stage) {kind : EventKind} (hkind : kind ≠ .modeChange)
    {entity : EntityId} {reason : Reason} {level : Level} {phase : Phase}
    (hstage : ∀ e : Event, e.kind = kind → e.entity = entity → e.reason = reason →
      e.level = level → e.phase = phase → stage.tell e = some stage')
    (errorCode : UInt16) (detail : Option CStr) :
    (emitEventFull s kind s.lib.mode entity reason errorCode level phase detail).Heard stage' := by
  have hread := h.getNowMs
  refine hread.emitEvent ?_
  rw [getNowMs_lib]
  simp only [Listener.hear, Bool.false_eq_true, if_false, if_neg hkind, if_true]
  rw [hstage _ rfl rfl rfl rfl rfl]
  rfl

theorem emitSubsystemState (h : s.Heard stage) (hstage : stage.settled = true)
    (sub : SubsystemId) (entity : EntityId) (reason : Reason) (errorCode : UInt16)
    (phase : Phase) (detail : CStr) :
    (emitSubsystemState s sub entity reason errorCode phase detail).Heard stage := by
  have hread := h.getNowMs
  refine hread.emitEvent ?_
  rw [getNowMs_lib]
  simp only [Listener.hear, Stage.tell, Bool.false_eq_true, if_false, reduceCtorEq, if_true,
    if_pos hstage]
  rfl

/-! ### The mode -/

/-- A change of the mode, and the word to the system handler. -/
theorem trace_setMode_handler (hready : s.lib.portReady = true) {mode : Mode}
    (hmode : s.lib.mode ≠ mode) (entity : EntityId) (detail : Option CStr) :
    ∃ (e : Event) (ms : UInt32), (setMode s mode entity detail none).world.trace =
        s.world.trace ++ (.clock ms :: .event e ::
          if s.lib.config.onSystemEscalation then [.escalation mode none] else []) ∧
      e.kind = .modeChange ∧ e.mode = mode ∧ e.level = .system := by
  let changed := s.write fun l ↦ { l with mode := mode }
  obtain ⟨e, ms, htrace, hkind, hevent, -, hlevel, -⟩ := trace_emitEventFull changed hready
    .modeChange mode entity .user 0 .system .raised detail
  refine ⟨e, ms, ?_, hkind, hevent, hlevel⟩
  simp only [setMode, if_neg hmode, notifySystemHandler, State.write_lib, emitEventFull_lib]
  split
  · rw [State.log_trace, htrace]
    simp [changed]
  · rw [htrace]
    rfl

theorem setMode (h : s.Heard stage) (hstage : stage.settled = true) (mode : Mode)
    (entity : EntityId) (detail : Option CStr) :
    (setMode s mode entity detail none).Heard stage := by
  by_cases hmode : s.lib.mode = mode
  · rwa [Fdir.setMode, if_pos hmode]
  · obtain ⟨e, ms, htrace, hkind, rfl, hlevel⟩ :=
      trace_setMode_handler h.ready hmode entity detail
    refine h.extend (by simp) (by simp) (by simp) htrace ?_
    have hne : e.mode ≠ s.lib.mode := Ne.symm hmode
    rw [setMode_lib]
    cases hhandler : s.lib.config.onSystemEscalation <;>
      simp [Listener.follow_cons, Listener.hear, hkind, hstage, hlevel, hne]

theorem enterDegradedModeUnsafe (h : s.Heard stage) (hstage : stage.settled = true) :
    (enterDegradedModeUnsafe s).Heard stage := by
  unfold Fdir.enterDegradedModeUnsafe
  split
  · exact h.setMode hstage _ _ _
  · exact h

theorem enterSafeModeUnsafe (h : s.Heard stage) (hstage : stage.settled = true) :
    (enterSafeModeUnsafe s).Heard stage := by
  unfold Fdir.enterSafeModeUnsafe
  split
  · exact h.setMode hstage _ _ _
  · exact h

theorem evaluateDualPath (h : s.Heard stage) (hstage : stage.settled = true) :
    (evaluateDualPath s).Heard stage := by
  unfold Fdir.evaluateDualPath
  split
  · exact h.enterSafeModeUnsafe hstage
  · exact h

theorem tryRebootUnsafe (h : s.Heard stage) (hstage : stage.settled = true)
    (reason : Option CStr) : (tryRebootUnsafe s reason).Heard stage := by
  have hset := h.setMode hstage .rebootPending entityNone (some (reason.getD "reboot".toList))
  simp only [Fdir.tryRebootUnsafe, requestReboot, if_pos hset.ready]
  refine hset.log ?_
  simp [Listener.hear, hstage]

/-! ### The handling of a failure -/

section Handling

variable {id : EntityId} {reason : Reason} {progress : Progress} {report : FailureReport}

theorem healthSetUnsafe (h : s.Heard stage) (id : EntityId) (health : Health)
    (errorCode : UInt16) (detail : Option CStr) :
    (healthSetUnsafe s id health errorCode detail).Heard stage :=
  h.write _ rfl rfl rfl rfl

theorem healthResetUnsafe (h : s.Heard stage) (id : EntityId) :
    (healthResetUnsafe s id).Heard stage := by
  unfold Fdir.healthResetUnsafe
  split
  · exact h
  · exact (h.getNowMs.stamp id).write _ rfl rfl rfl rfl

theorem chooseAction (h : s.Heard (.handling report.entity report.reason .raised)) :
    ∃ progress, progress.rank < Progress.consulted.rank ∧
      (chooseAction s report).2.Heard (.handling report.entity report.reason progress) := by
  simp only [Fdir.chooseAction]
  split
  · exact ⟨.raised, by decide, h⟩
  · refine ⟨.decided, by decide, h.log ?_⟩
    simp [Listener.hear, Stage.call, Progress.rank, Listener.move]

theorem subsystemOnEntityExhausted (hprogress : progress.rank < Progress.consulted.rank)
    (h : s.Heard (.handling report.entity report.reason progress)) (sub : SubsystemId) :
    ∃ next : Progress, next.rank < Progress.restarting.rank ∧
      (subsystemOnEntityExhausted s sub report.entity (some report)).2.Heard
        (.handling report.entity report.reason next) := by
  have hsame : progress.rank < Progress.restarting.rank := hprogress.trans (by decide)
  unfold Fdir.subsystemOnEntityExhausted
  split
  · exact ⟨progress, hsame, h⟩
  · split
    · exact ⟨progress, hsame, h⟩
    · refine ⟨.consulted, by decide, h.log ?_⟩
      simp [Listener.hear, Stage.call, hprogress, Listener.move]

theorem settled_of_rank_lt (hprogress : progress.rank < Progress.restarting.rank) :
    (Stage.handling id reason progress).settled = true := by
  refine decide_eq_true ?_
  rintro rfl
  exact lt_irrefl _ hprogress

theorem resolveExhaustedAction (hprogress : progress.rank < Progress.consulted.rank)
    (h : s.Heard (.handling report.entity report.reason progress)) (action : Action) :
    ∃ next : Progress, next.rank < Progress.restarting.rank ∧
      (resolveExhaustedAction s report.entity action report).2.Heard
        (.handling report.entity report.reason next) := by
  have hsame : progress.rank < Progress.restarting.rank := hprogress.trans (by decide)
  obtain ⟨next, hnext, hasked⟩ := h.subsystemOnEntityExhausted hprogress
    (s.lib.entities report.entity).desc.linkedSubsystem
  simp only [Fdir.resolveExhaustedAction]
  split
  · exact ⟨progress, hsame, h⟩
  · split
    · exact ⟨progress, hsame, h⟩
    · split
      · exact ⟨next, hnext, hasked.emitSubsystemState (settled_of_rank_lt hnext) _ _ _ _ _ _⟩
      · exact ⟨next, hnext, hasked⟩

/-- A restart that succeeds is announced before anything else is said. -/
theorem tryRestart (hprogress : progress.rank < Progress.restarting.rank)
    (h : s.Heard (.handling id reason progress)) :
    ∃ stage : Stage, stage.settled = true ∧ (tryRestart s id reason).2.Heard stage := by
  simp only [Fdir.tryRestart]
  split
  · exact ⟨_, settled_of_rank_lt hprogress, h⟩
  · next restart hrestart =>
    have hbumped := h.write (fun l ↦ l.setSlot id (bumpRestart (s.lib.entities id) reason))
      rfl rfl rfl rfl
    split
    · next hanswer =>
      refine ⟨.handling id reason .tried, rfl, hbumped.log ?_⟩
      simp [Listener.hear, Stage.call, hprogress, hanswer, Listener.move]
    · next hanswer =>
      rw [not_not] at hanswer
      let bumped := s.write fun l ↦ l.setSlot id (bumpRestart (s.lib.entities id) reason)
      have hcalled : (bumped.log (.restart id reason (restart (bumped.context id) id
          (s.lib.entities id).desc.user))).Heard (.handling id reason .restarting) :=
        hbumped.log (by simp [Listener.hear, Stage.call, hprogress, Listener.move, bumped, hanswer])
      have hreset := (hcalled.write (fun l ↦ { l with
        health := (l.health.clearLatchUnsafe id).2 }) rfl rfl rfl rfl).healthResetUnsafe id
      refine ⟨.handling id reason .tried, rfl, ?_⟩
      have hannounced : ∀ {s : State B} (cause : Reason) (detail : Option CStr),
          s.Heard (.handling id reason .restarting) →
          (Fdir.emitEventFull s .failure s.lib.mode id cause 0 .entity .cleared detail).Heard
            (.handling id reason .restarting) := by
        intro s cause detail h
        refine h.emitEventFull (by decide) ?_ 0 detail
        intro e hkind hentity _ hlevel hphase
        simp [Stage.tell, hkind, hentity, hlevel, hphase]
      have hrestarted : ∀ {s : State B} (detail : Option CStr),
          s.Heard (.handling id reason .restarting) →
          (Fdir.emitEventFull s .restart s.lib.mode id reason 0 .entity .raised detail).Heard
            (.handling id reason .tried) := by
        intro s detail h
        refine h.emitEventFull (by decide) ?_ 0 detail
        intro e hkind hentity hreason hlevel hphase
        simp [Stage.tell, hkind, hentity, hreason, hlevel, hphase]
      split
      · exact hrestarted _ (hannounced _ _ hreset)
      · exact hrestarted _ hreset

theorem markLinked (h : s.Heard stage) (hstage : stage.settled = true)
    (mark : SubsystemTable → SubsystemId → SubsystemTable) (detail : CStr) (id : EntityId)
    (report : FailureReport) : (markLinked mark detail s id report).Heard stage := by
  simp only [Fdir.markLinked]
  split
  · exact (h.write _ rfl rfl rfl rfl).emitSubsystemState hstage _ _ _ _ _ _
  · exact h

theorem applyFinalAction (h : s.Heard stage) (hstage : stage.settled = true) (id : EntityId)
    (action : Action) (report : FailureReport) :
    (applyFinalAction s id action report).Heard stage := by
  cases action with
  | degrade => exact (h.markLinked hstage _ _ id report).enterDegradedModeUnsafe hstage
  | unavailable =>
      exact ((h.markLinked hstage _ _ id report).enterDegradedModeUnsafe hstage).evaluateDualPath
        hstage
  | safe => exact (h.markLinked hstage _ _ id report).enterSafeModeUnsafe hstage
  | reboot => exact (h.markLinked hstage _ _ id report).tryRebootUnsafe hstage _
  | none | restart | other code => exact h

theorem applyAction (hprogress : progress.rank < Progress.restarting.rank)
    (h : s.Heard (.handling report.entity report.reason progress)) (action : Action) :
    ∃ stage : Stage, stage.settled = true ∧
      (applyAction s report.entity action report).Heard stage := by
  simp only [Fdir.applyAction]
  split
  · obtain ⟨stage, hstage, hrestarted⟩ := h.tryRestart hprogress
    refine ⟨stage, hstage, ?_⟩
    split
    · exact hrestarted.applyFinalAction hstage _ _ _
    · exact hrestarted
  · have hstage : (Stage.handling report.entity report.reason progress).settled = true :=
      settled_of_rank_lt hprogress
    exact ⟨_, hstage, h.applyFinalAction hstage _ _ _⟩

theorem recoverEntity (h : s.Heard (.handling report.entity report.reason .raised)) :
    ∃ stage : Stage, stage.settled = true ∧ (recoverEntity s report).Heard stage := by
  have hfailed := (h.write (fun l ↦ { l with
    health := (l.health.latchFaultUnsafe report.entity report.reason).2 }) rfl rfl rfl
    rfl).healthSetUnsafe report.entity .failed report.errorCode (some report.detail)
  obtain ⟨progress, hprogress, hchosen⟩ := hfailed.chooseAction
  obtain ⟨next, hnext, hresolved⟩ := hchosen.resolveExhaustedAction hprogress
    (Fdir.chooseAction _ report).1
  obtain ⟨stage, hstage, happlied⟩ := hresolved.applyAction hnext
    (Fdir.resolveExhaustedAction _ report.entity _ report).1
  exact ⟨stage, hstage, happlied.evaluateDualPath hstage⟩

theorem raisedState (h : s.Heard .outside) (report : FailureReport) :
    (raisedState s report).Heard (.handling report.entity report.reason .raised) := by
  refine h.syncEnter.emitEventFull (by split <;> decide) ?_ report.errorCode _
  intro e hkind hentity hreason hlevel hphase
  have hne : e.kind ≠ .restart := by
    rw [hkind]
    split <;> decide
  simp only [Stage.tell, hlevel]
  rw [if_neg fun hrestart ↦ hne hrestart.1, if_neg (by rw [hphase]; decide),
    if_pos ⟨trivial, by rw [hkind, hreason]⟩, hentity, hreason]

theorem handleFailureLocked (h : s.Heard .outside) (report : FailureReport) :
    (handleFailureLocked s report).Heard .outside := by
  have hraised := h.raisedState report
  by_cases hlatched : s.lib.health.faultIsLatchedUnsafe report.entity report.reason = true
  · rw [handleFailureLocked_of_latched hlatched]
    exact h.syncEnter.syncExit rfl
  · rw [Bool.not_eq_true] at hlatched
    by_cases hunknown : s.lib.entityCount ≤ report.entity ∨
        (s.lib.entities report.entity).used = false
    · rw [handleFailureLocked_of_unknown hlatched hunknown]
      exact (hraised.enterDegradedModeUnsafe rfl).syncExit rfl
    · rw [handleFailureLocked_of_known hlatched hunknown]
      obtain ⟨stage, hstage, hrecovered⟩ := hraised.recoverEntity
      exact hrecovered.syncExit hstage

end Handling

/-! ### Calls -/

theorem lock_unlock (h : s.Heard .outside) : (Fdir.syncExit (Fdir.syncEnter s)).Heard .outside :=
  h.syncEnter.syncExit rfl

theorem query (h : s.Heard .outside) (q : Query) : (q.exec s).2.Heard .outside := by
  cases q with
  | systemMode | supervisionEnabled | healthFaultIsLatched | failureQueueFullLatched =>
      exact h.lock_unlock
  | entityMayRun id =>
      simp only [Query.exec, entityMayRun_snd]
      exact h.lock_unlock
  | healthSnapshotCopy id out =>
      simp only [Query.exec, snapshotCopy]
      split
      · exact h
      · exact h.lock_unlock
  | _ => exact h

theorem note (h : s.Heard .inside) {kind : EventKind} (hkind : kind ≠ .modeChange)
    (reason : Reason) (errorCode : UInt16) (detail : Option CStr) :
    (Fdir.syncExit (Fdir.emitEventFull s kind s.lib.mode entityNone reason errorCode .system
      .raised detail)).Heard .outside := by
  have hnoted : (Fdir.emitEventFull s kind s.lib.mode entityNone reason errorCode .system
      .raised detail).Heard .inside := by
    refine h.emitEventFull hkind ?_ errorCode detail
    intro e _ _ _ hlevel _
    simp [Stage.tell, hlevel]
  exact hnoted.syncExit rfl

theorem entityRegister (h : s.Heard .outside) (desc : Option EntityDesc) (outId : Bool) :
    (entityRegister s desc outId).2.2.Heard .outside := by
  simp only [Fdir.entityRegister]
  split
  · split
    · exact h.lock_unlock
    · split
      · exact h.lock_unlock
      · exact ((h.syncEnter.write _ rfl rfl rfl rfl).healthResetUnsafe _).syncExit rfl
  · exact h.lock_unlock

theorem subsystemRegister (h : s.Heard .outside) (desc : Option SubsystemDesc) (outId : Bool) :
    (subsystemRegister s desc outId).2.2.Heard .outside := by
  simp only [Fdir.subsystemRegister]
  split
  · split
    · exact h.lock_unlock
    · exact (h.syncEnter.write _ rfl rfl rfl rfl).syncExit rfl
  · exact h.lock_unlock

theorem setSupervisionEnabled (h : s.Heard .outside) (enabled : UInt8) :
    (setSupervisionEnabled s enabled).2.Heard .outside := by
  have hflagged := h.syncEnter.write (fun l ↦ { l with supervisionEnabled := enabled })
    rfl rfl rfl rfl
  simp only [Fdir.setSupervisionEnabled]
  split
  · exact h.lock_unlock
  · split
    · exact (hflagged.write _ rfl rfl rfl rfl).note (by decide) .user 0 _
    · exact hflagged.note (by decide) .user 0 _

theorem setSystemMode (h : s.Heard .outside) (mode : ℕ) :
    (setSystemMode s mode).2.Heard .outside := by
  simp only [Fdir.setSystemMode]
  split
  · exact h.lock_unlock
  · exact h.lock_unlock
  · exact (h.syncEnter.setMode rfl _ _ _).syncExit rfl

theorem deescalateSystemMode (h : s.Heard .outside) :
    (deescalateSystemMode s).2.Heard .outside := by
  simp only [Fdir.deescalateSystemMode]
  split
  · exact (h.syncEnter.setMode rfl _ _ _).syncExit rfl
  · split
    · exact (h.syncEnter.setMode rfl _ _ _).syncExit rfl
    · exact h.lock_unlock

theorem enqueueFailureUnsafe (h : s.Heard stage) (report : FailureReport) :
    (enqueueFailureUnsafe s report).2.Heard stage := by
  have hput := h.write (fun l ↦ { l with queue := (s.lib.queue.putUnsafe report).2 })
    rfl rfl rfl rfl
  simp only [Fdir.enqueueFailureUnsafe]
  split
  · exact hput
  · exact hput

theorem reportFaultImpl (h : s.Heard .outside) (entity : EntityId) (reason : Reason)
    (errorCode : UInt16) (detail : Option CStr) (flags : UInt8) :
    (reportFaultImpl s entity reason errorCode detail flags).2.Heard .outside := by
  simp only [Fdir.reportFaultImpl]
  split
  · exact h.lock_unlock
  split
  · exact h.lock_unlock
  split
  · exact h.lock_unlock
  split
  · exact (h.syncEnter.getNowMs.enqueueFailureUnsafe _).syncExit rfl
  · exact ((h.syncEnter.getNowMs.enqueueFailureUnsafe _).healthSetUnsafe _ _ _ _).syncExit rfl

theorem heartbeatNotify (h : s.Heard .outside) (id : EntityId) :
    (heartbeatNotify s id).Heard .outside := by
  simp only [Fdir.heartbeatNotify]
  split
  · exact h.lock_unlock
  · exact ((h.syncEnter.getNowMs.stamp id).write _ rfl rfl rfl rfl).syncExit rfl

theorem healthSet (h : s.Heard .outside) (id : EntityId) (health : Health) (errorCode : UInt16)
    (detail : Option CStr) : (healthSet s id health errorCode detail).Heard .outside := by
  simp only [Fdir.healthSet]
  split
  · exact h.lock_unlock
  · exact (h.syncEnter.healthSetUnsafe _ _ _ _).syncExit rfl

theorem healthReset (h : s.Heard .outside) (id : EntityId) :
    (healthReset s id).Heard .outside := by
  simp only [Fdir.healthReset]
  split
  · exact h.lock_unlock
  · exact (h.syncEnter.healthResetUnsafe _).syncExit rfl

theorem markSubsystem (h : s.Heard .outside)
    (mark : SubsystemTable → SubsystemId → SubsystemTable) (phase : Phase) (detail : CStr)
    (id : SubsystemId) : (markSubsystem mark phase detail s id).Heard .outside := by
  simp only [Fdir.markSubsystem]
  split
  · exact ((h.syncEnter.write _ rfl rfl rfl rfl).emitSubsystemState rfl _ _ _ _ _ _).syncExit rfl
  · exact h.lock_unlock

theorem consult (h : s.Heard .outside) (sub : SubsystemId) (id : EntityId)
    (report : Option FailureReport) :
    (Fdir.subsystemOnEntityExhausted s sub id report).2.Heard .outside := by
  unfold Fdir.subsystemOnEntityExhausted
  split
  · exact h
  · split
    · exact h
    · exact h.log rfl

theorem failureQueuePut (h : s.Heard .outside) (report : FailureReport) :
    (failureQueuePut s report).2.Heard .outside :=
  (h.syncEnter.write _ rfl rfl rfl rfl).syncExit rfl

theorem failureQueueGet (h : s.Heard .outside) : (failureQueueGet s).2.Heard .outside := by
  simp only [Fdir.failureQueueGet]
  split
  · exact h.lock_unlock
  · exact (h.syncEnter.write _ rfl rfl rfl rfl).syncExit rfl

/-- A call of one section. -/
theorem after (h : s.Heard .outside) {c : Call} (hentry : c.entry = none) :
    (after s c).Heard .outside := by
  cases c with
  | query q => exact h.query q
  | entityRegister desc outId => exact h.entityRegister desc outId
  | subsystemRegister desc outId => exact h.subsystemRegister desc outId
  | setSupervisionEnabled enabled => exact h.setSupervisionEnabled enabled
  | setSystemMode mode => exact h.setSystemMode mode
  | deescalateSystemMode => exact h.deescalateSystemMode
  | enterDegradedMode => exact (h.syncEnter.enterDegradedModeUnsafe rfl).syncExit rfl
  | enterSafeMode => exact (h.syncEnter.enterSafeModeUnsafe rfl).syncExit rfl
  | reassessSystemMode => exact (h.syncEnter.evaluateDualPath rfl).syncExit rfl
  | tryReboot reason => exact (h.syncEnter.tryRebootUnsafe rfl reason).syncExit rfl
  | logNote note => exact h.syncEnter.note (by decide) .user 0 note
  | logQueueOverflow queueId overflowDelta depthHighWater =>
      exact h.syncEnter.note (by decide) .queueOverflow queueId _
  | supervisorTick | checkWatchdogs | workerMayRun => cases hentry
  | handleFailure report | submitFailure report =>
      cases report with
      | none => exact h
      | some report => cases hentry
  | reportFault entity reason errorCode detail =>
      exact h.reportFaultImpl entity reason errorCode detail faultFlagCritical
  | reportFaultEx entity reason errorCode detail flags =>
      exact h.reportFaultImpl entity reason errorCode detail flags
  | heartbeatNotify id => exact h.heartbeatNotify id
  | healthSet id health errorCode detail => exact h.healthSet id health errorCode detail
  | healthReset id => exact h.healthReset id
  | subsystemMarkAvailable id | subsystemMarkUnavailable id | subsystemMarkDegraded id =>
      exact h.markSubsystem _ _ _ id
  | subsystemOnEntityExhausted sub id report => exact h.consult sub id report

/-- The next section of a call in progress. -/
theorem advance (h : s.Heard .outside) (pc : Pc) : (pc.advance s).2.Heard .outside := by
  cases pc with
  | idle => exact h
  | submitTest | tickTest | handleTest | watchTest | watchScan | gateMode => exact h.lock_unlock
  | submitPut report => exact h.failureQueuePut report
  | drain => exact h.failureQueueGet
  | handleLocked report ret => exact h.handleFailureLocked report
  | watchClock => exact h.getNowMs
  | gateHeartbeat id => exact h.heartbeatNotify id
  | gateRun id =>
      have hgate : (Pc.advance s (.gateRun id)).2 = Fdir.syncExit (Fdir.syncEnter s) :=
        entityMayRun_snd s id
      rw [hgate]
      exact h.lock_unlock

end State.Heard

/-! ## Runs -/

theorem Machine.heard_step {m : Machine B} (h : m.state.Heard .outside) (turn : Turn) :
    (m.step turn).state.Heard .outside := by
  cases turn with
  | call thread c =>
      simp only [step]
      split
      · split
        · next hentry => exact h.after hentry
        · exact h
      · exact h
  | advance thread => exact h.advance _
  | elapse ms => exact h.elapse ms

/-- From a successful `fdir_init` on, with both lock hooks bound, and after any turns of
any threads, whatever the callbacks answer: the record of all hook and callback calls is
in order, up to the mode in force and with the lock free. -/
theorem dialogue_in_order (clock : ℕ) (pace : List Obs → ℕ) (config : Option Config)
    (turns : List Turn) :
    let m : Machine B := Run.run Machine.step (.started clock pace config true true) turns
    Listener.start.follow (config.getD configDefault).onSystemEscalation m.state.world.trace =
      some ⟨m.state.lib.mode, false, .outside⟩ := by
  intro m
  have hkept : m.state.Heard .outside ∧ m.state.lib.Sound ∧
      m.state.lib.config = config.getD configDefault := by
    refine Run.invariant (fun m : Machine B ↦ m.state.Heard .outside ∧ m.state.lib.Sound ∧
      m.state.lib.config = config.getD configDefault) ?_ ?_ turns
    · rintro m turn ⟨h, hs, hconfig⟩
      exact ⟨m.heard_step h turn, (m.stride turn).sound hs,
        ((m.stride turn).config_eq hs).trans hconfig⟩
    · exact ⟨⟨rfl, rfl, rfl, rfl⟩, started_sound clock pace config true true, rfl⟩
  rw [← hkept.2.2]
  exact hkept.1.record

end Fdir
