import Fdir.Evolution

/-!
# What handling a failure does to the world

The critical section of `fdir_handle_failure` raises one anomaly, unless it is
latched already, calls the restart callback of the entity at most once, and
clears the anomaly it raised exactly when that restart succeeds.
-/

namespace Fdir

variable {B : Build}

/-! ## The recovery of an entity -/

theorem anomalies_emitEventFull {s : State B} (hready : s.lib.portReady = true)
    {kind : EventKind} (hkind : kind = .failure ∨ kind = .watchdog) (mode : Mode)
    (entity : EntityId) (reason : Reason) (errorCode : UInt16) (phase : Phase)
    (detail : Option CStr) :
    (emitEventFull s kind mode entity reason errorCode .entity phase detail).anomalies =
      s.anomalies ++ [(entity, reason, phase)] := by
  have hnow := (silent_getNowMs s).anomalies_eq
  rw [← hnow]
  simp [emitEventFull, emitEvent, hready, State.anomalies, Obs.anomaly, hkind]

theorem evolves_emitEventFull (s : State B) (kind : EventKind) (mode : Mode)
    (entity : EntityId) (reason : Reason) (errorCode : UInt16) (level : Level) (phase : Phase)
    (detail : Option CStr) :
    Evolves (fun o ↦ o.restarted = none) s
      (emitEventFull s kind mode entity reason errorCode level phase detail) := by
  apply (Evolves.of_getNowMs (fun _ ↦ rfl) s).trans
  apply Evolves.of_emitEvent
  rfl

theorem restarts_emitEventFull (s : State B) (kind : EventKind) (mode : Mode)
    (entity : EntityId) (reason : Reason) (errorCode : UInt16) (level : Level) (phase : Phase)
    (detail : Option CStr) :
    (emitEventFull s kind mode entity reason errorCode level phase detail).restarts =
      s.restarts :=
  (evolves_emitEventFull s kind mode entity reason errorCode level phase detail).filterMap_eq
    fun _ ho ↦ ho

theorem evolves_restartCalled (s : State B) (id : EntityId) (reason : Reason) :
    Evolves (fun o ↦ o.anomaly = none) s (restartCalled s id reason) := by
  apply (Evolves.of_write s (fun l ↦ l.setSlot id (bumpRestart (s.lib.entities id) reason))
    rfl fun _ ↦ rfl).trans
  apply Evolves.of_log
  rfl

theorem restarts_restartCalled (s : State B) (id : EntityId) (reason : Reason) :
    (restartCalled s id reason).restarts =
      s.restarts ++ [(id, reason, restartAnswer s id reason)] := by
  simp [restartCalled, State.restarts, Obs.restarted]

/-- The state of a successful restart when latch and health are reset. -/
def resetState (s : State B) (id : EntityId) (reason : Reason) : State B :=
  healthResetUnsafe ((restartCalled s id reason).write fun l ↦
    { l with health := (l.health.clearLatchUnsafe id).2 }) id

theorem silent_resetState {s : State B} (hready : s.lib.portReady = true) (id : EntityId)
    (reason : Reason) :
    Evolves Obs.silent (restartCalled s id reason) (resetState s id reason) := by
  have hclear : Evolves Obs.silent (restartCalled s id reason)
      ((restartCalled s id reason).write fun l ↦
        { l with health := (l.health.clearLatchUnsafe id).2 }) := by
    refine .of_write _ _ rfl fun other ↦ ?_
    simp only [HealthTable.clearLatchUnsafe]
    split <;> rfl
  refine hclear.trans (silent_healthResetUnsafe _ ?_ id)
  exact hready

/-- The state of a successful restart when the fault it cleared is announced. -/
def clearedState (s : State B) (id : EntityId) (reason : Reason) : State B :=
  let s' := resetState s id reason
  match (s.lib.health.clearLatchUnsafe id).1 with
  | some prev =>
      emitEventFull s' .failure s'.lib.mode id prev 0 .entity .cleared (s.lib.entities id).desc.name
  | none => s'

theorem tryRestart_of_zero {s : State B} {id : EntityId} {reason : Reason}
    (hrestart : (s.lib.entities id).desc.restart.isSome)
    (hanswer : restartAnswer s id reason = 0) :
    tryRestart s id reason = (.ok, emitEventFull (clearedState s id reason) .restart
      (clearedState s id reason).lib.mode id reason 0 .entity .raised
      (s.lib.entities id).desc.name) := by
  obtain ⟨restart, hsome⟩ := Option.isSome_iff_exists.mp hrestart
  have hcleared : (restartCalled s id reason).lib.health = s.lib.health := rfl
  simp only [restartAnswer, hsome] at hanswer
  simp only [restartCalled, restartAnswer, hsome, hanswer] at hcleared
  cases hprev : (s.lib.health.clearLatchUnsafe id).1 <;>
    simp only [tryRestart, hsome, hanswer, ne_eq, not_true_eq_false, if_false, hcleared,
      clearedState, resetState, restartCalled, restartAnswer, hprev]

/-- A successful restart of an entity with a latched fault clears exactly the
anomaly of that fault. -/
theorem tryRestart_of_ok {s : State B} {id : EntityId} {reason : Reason}
    (hid : id < s.lib.health.entityLimit) (hlatched : s.lib.health.faultLatched id = true)
    (hok : (tryRestart s id reason).1 = .ok) :
    ∃ mode mode' name, (tryRestart s id reason).2 =
      emitEventFull (emitEventFull (resetState s id reason) .failure mode id
        (s.lib.health.latchedReason id) 0 .entity .cleared name)
        .restart mode' id reason 0 .entity .raised name := by
  obtain ⟨hrestart, hanswer⟩ := (tryRestart_fst s id reason).mp hok
  have hcleared : (s.lib.health.clearLatchUnsafe id).1 =
      some (s.lib.health.latchedReason id) := by
    simp [HealthTable.clearLatchUnsafe, UInt8.not_le.mpr hid, hlatched]
  have hrun := congrArg Prod.snd (tryRestart_of_zero hrestart hanswer)
  simp only [clearedState, hcleared] at hrun
  exact ⟨_, _, _, hrun⟩

theorem restarts_tryRestart {s : State B} {id : EntityId} {reason : Reason}
    (hready : s.lib.portReady = true) (hid : id < s.lib.health.entityLimit)
    (hlatched : s.lib.health.faultLatched id = true) :
    (tryRestart s id reason).2.restarts = s.restarts ++
      if (s.lib.entities id).desc.restart.isSome then [(id, reason, restartAnswer s id reason)]
      else [] := by
  by_cases hrestart : (s.lib.entities id).desc.restart.isSome
  · rw [if_pos hrestart, ← restarts_restartCalled]
    by_cases hok : (tryRestart s id reason).1 = .ok
    · obtain ⟨mode, mode', name, hrun⟩ := tryRestart_of_ok hid hlatched hok
      rw [hrun, restarts_emitEventFull, restarts_emitEventFull]
      exact (silent_resetState hready id reason).restarts_eq
    · have hanswer : restartAnswer s id reason ≠ 0 := fun h ↦
        hok ((tryRestart_fst s id reason).mpr ⟨hrestart, h⟩)
      rw [tryRestart_of_failed hrestart hanswer]
  · rw [if_neg hrestart, List.append_nil, tryRestart_of_none (by simpa using hrestart)]

theorem anomalies_tryRestart {s : State B} {id : EntityId} {reason : Reason}
    (hready : s.lib.portReady = true) (hid : id < s.lib.health.entityLimit)
    (hlatched : s.lib.health.faultLatched id = true) :
    (tryRestart s id reason).2.anomalies = s.anomalies ++
      if (s.lib.entities id).desc.restart.isSome ∧ restartAnswer s id reason = 0 then
        [(id, s.lib.health.latchedReason id, .cleared)]
      else [] := by
  have hcalled : (restartCalled s id reason).anomalies = s.anomalies :=
    (evolves_restartCalled s id reason).filterMap_eq fun _ ho ↦ ho
  by_cases hok : (tryRestart s id reason).1 = .ok
  · obtain ⟨mode, mode', name, hrun⟩ := tryRestart_of_ok hid hlatched hok
    have hreset := silent_resetState hready id reason
    have hready' : (resetState s id reason).lib.portReady = true := by
      rw [hreset.ready, (evolves_restartCalled s id reason).ready, hready]
    have hevent : EventKind.restart ≠ .failure ∧ EventKind.restart ≠ .watchdog := by decide
    rw [if_pos ((tryRestart_fst s id reason).mp hok), hrun,
      (silent_emitEventFull _ (Or.inr hevent) _ _ _ _ _ _).anomalies_eq,
      anomalies_emitEventFull hready' (Or.inl rfl), hreset.anomalies_eq, hcalled]
  · have hcond := mt (tryRestart_fst s id reason).mpr hok
    rw [if_neg hcond, List.append_nil]
    by_cases hrestart : (s.lib.entities id).desc.restart.isSome
    · rw [tryRestart_of_failed hrestart fun h ↦ hcond ⟨hrestart, h⟩, hcalled]
    · rw [tryRestart_of_none (by simpa using hrestart)]

theorem evolves_tryRestart {s : State B} {id : EntityId} (reason : Reason)
    (hready : s.lib.portReady = true) (hid : id < s.lib.health.entityLimit)
    (hlatched : s.lib.health.faultLatched id = true) :
    Evolves (fun _ ↦ True) s (tryRestart s id reason).2 := by
  have hcalled := (evolves_restartCalled s id reason).any
  by_cases hok : (tryRestart s id reason).1 = .ok
  · obtain ⟨mode, mode', name, hrun⟩ := tryRestart_of_ok hid hlatched hok
    rw [hrun]
    exact hcalled.trans ((silent_resetState hready id reason).any.trans
      ((evolves_emitEventFull _ _ _ _ _ _ _ _ _).any.trans
        (evolves_emitEventFull _ _ _ _ _ _ _ _ _).any))
  · by_cases hrestart : (s.lib.entities id).desc.restart.isSome
    · have hanswer : restartAnswer s id reason ≠ 0 := fun h ↦
        hok ((tryRestart_fst s id reason).mpr ⟨hrestart, h⟩)
      rwa [tryRestart_of_failed hrestart hanswer]
    · rw [tryRestart_of_none (by simpa using hrestart)]
      exact .refl s

theorem silent_applyAction (s : State B) (id : EntityId) (action : Action)
    (report : FailureReport) :
    Evolves Obs.silent (if action = .restart then (tryRestart s id report.reason).2 else s)
      (applyAction s id action report) := by
  simp only [applyAction]
  split
  · split
    · exact silent_applyFinalAction _ _ _ _
    · exact .refl _
  · exact silent_applyFinalAction _ _ _ _

/-! ## Handling a failure -/

theorem silent_resolvedState (s : State B) (report : FailureReport) :
    Evolves Obs.silent s (resolvedState s report) :=
  (silent_failedState s report).trans
    ((silent_chooseAction _ report).trans (silent_resolveExhaustedAction _ _ _ _))

theorem recoverEntity_world {s : State B} (hready : s.lib.portReady = true)
    {report : FailureReport} (hid : report.entity < s.lib.health.entityLimit) :
    Evolves (fun _ ↦ True) (resolvedState s report) (recoverEntity s report) ∧
      (recoverEntity s report).restarts = s.restarts ++
        (if s.lib.attempts (answers s report) report then
          [(report.entity, report.reason, (answers s report).restart)] else []) ∧
      (recoverEntity s report).anomalies = s.anomalies ++
        (if s.lib.attempts (answers s report) report ∧ (answers s report).restart = 0 then
          [(report.entity, report.reason, .cleared)] else []) := by
  have hresolved := silent_resolvedState s report
  have hready' : (resolvedState s report).lib.portReady = true := hresolved.ready.trans hready
  have hid' := resolvedState_limit hid
  have hentities := resolvedState_entities hid
  obtain ⟨hlatched, hreason⟩ := resolvedState_latched hid
  have happly := silent_applyAction (resolvedState s report) report.entity
    (s.lib.action (answers s report) report) report
  have hreview := silent_evaluateDualPath (applyAction (resolvedState s report) report.entity
    (s.lib.action (answers s report) report) report)
  rw [recoverEntity_eq hid]
  by_cases haction : s.lib.action (answers s report) report = .restart
  · rw [haction, if_pos rfl] at happly
    rw [haction] at hreview ⊢
    have hattempts : s.lib.attempts (answers s report) report ↔
        (s.lib.entities report.entity).desc.restart.isSome := by
      simp [Lib.attempts, haction]
    refine ⟨?_, ?_, ?_⟩
    · exact (evolves_tryRestart report.reason hready' hid' hlatched).trans
        (happly.any.trans hreview.any)
    · rw [hreview.restarts_eq, happly.restarts_eq, restarts_tryRestart hready' hid' hlatched,
        hresolved.restarts_eq, hentities]
      simp only [hattempts]
      rfl
    · rw [hreview.anomalies_eq, happly.anomalies_eq,
        anomalies_tryRestart hready' hid' hlatched, hresolved.anomalies_eq, hentities, hreason]
      simp only [hattempts]
      rfl
  · rw [if_neg haction] at happly
    have hattempts : ¬ s.lib.attempts (answers s report) report := fun h ↦ haction h.1
    refine ⟨(happly.trans hreview).any, ?_, ?_⟩
    · rw [hreview.restarts_eq, happly.restarts_eq, hresolved.restarts_eq, if_neg hattempts,
        List.append_nil]
    · rw [hreview.anomalies_eq, happly.anomalies_eq, hresolved.anomalies_eq,
        if_neg fun h ↦ hattempts h.1, List.append_nil]

/-! ## What overrides the default policy -/

/-- A callback about entity `id` answers RESTART. -/
def Obs.overrides (id : EntityId) : Obs → Prop
  | .decide entity _ answer => entity = id ∧ answer = .restart
  | .exhausted _ entity _ answer => entity = id ∧ answer = .restart
  | _ => False

instance (id : EntityId) (o : Obs) : Decidable (o.overrides id) := by
  unfold Obs.overrides
  split <;> infer_instance

/-- Some callback has answered RESTART for entity `id`. -/
def State.overridden (s : State B) (id : EntityId) : Prop :=
  ∃ o ∈ s.world.trace, o.overrides id

instance (s : State B) (id : EntityId) : Decidable (s.overridden id) :=
  inferInstanceAs (Decidable (∃ o ∈ s.world.trace, o.overrides id))

theorem Evolves.mem_trace {P : Obs → Prop} {s s' : State B} (h : Evolves P s s') {o : Obs}
    (ho : o ∈ s.world.trace) : o ∈ s'.world.trace := by
  obtain ⟨new, htrace, -⟩ := h.trace
  rw [htrace]
  exact List.mem_append_left _ ho

theorem Evolves.overridden {P : Obs → Prop} {s s' : State B} (h : Evolves P s s')
    {id : EntityId} (ho : s.overridden id) : s'.overridden id := by
  obtain ⟨o, hmem, hoverrides⟩ := ho
  exact ⟨o, h.mem_trace hmem, hoverrides⟩

theorem mem_trace_chooseAction {s : State B} {report : FailureReport}
    (hdecide : (s.lib.entities report.entity).desc.decide.isSome) :
    Obs.decide report.entity report (decideAnswer s report) ∈
      (chooseAction s report).2.world.trace := by
  obtain ⟨decide, hsome⟩ := Option.isSome_iff_exists.mp hdecide
  simp [chooseAction, decideAnswer, hsome]

theorem mem_trace_subsystemOnEntityExhausted {s : State B} {sub : SubsystemId}
    (hhandler : (s.lib.subsystems.handler sub).isSome) (id : EntityId)
    (report : Option FailureReport) :
    Obs.exhausted sub id report (subsystemOnEntityExhausted s sub id report).1 ∈
      (subsystemOnEntityExhausted s sub id report).2.world.trace := by
  obtain ⟨handler, hsome⟩ := Option.isSome_iff_exists.mp hhandler
  rw [SubsystemTable.handler, Option.bind_eq_some_iff] at hsome
  obtain ⟨slot, hslot, hfn⟩ := hsome
  simp [subsystemOnEntityExhausted, hslot, hfn]

theorem mem_trace_resolveExhaustedAction {s : State B} {id : EntityId} {action : Action}
    {sub : SubsystemId} (hsub : (s.lib.entities id).desc.linkedSubsystem = sub)
    (hasks : ¬ (action = .restart ∨ action = .none ∨ sub = subsystemNone))
    (hhandler : (s.lib.subsystems.handler sub).isSome) (report : FailureReport) :
    Obs.exhausted sub id (some report) (subsystemOnEntityExhausted s sub id (some report)).1 ∈
      (resolveExhaustedAction s id action report).2.world.trace := by
  have hmem := mem_trace_subsystemOnEntityExhausted hhandler id (some report)
  simp only [not_or] at hasks
  simp only [resolveExhaustedAction, hsub, hasks, or_self, if_false]
  split
  · exact (silent_emitSubsystemState _ _ _ _ _ _ _).mem_trace hmem
  · exact hmem

/-- A recovery calls restart because the default policy says so or because a
callback has answered RESTART. -/
theorem overridden_of_action {s : State B} {report : FailureReport}
    (hid : report.entity < s.lib.health.entityLimit)
    (haction : s.lib.action (answers s report) report = .restart) :
    defaultDecide (s.lib.entities report.entity) report = .restart ∨
      (resolvedState s report).overridden report.entity := by
  let chosen := chooseAction (failedState s report) report
  let sub := (s.lib.entities report.entity).desc.linkedSubsystem
  have hentities := failedState_entities hid
  have hchosen := chooseAction_failedState hid
  have hresolve := silent_resolveExhaustedAction chosen.2 report.entity chosen.1 report
  by_cases hrestart : chosen.1 = .restart
  · rw [hchosen, Record.choose] at hrestart
    split at hrestart
    · next hdecide =>
      refine Or.inr ⟨_, hresolve.mem_trace (mem_trace_chooseAction ?_), rfl, hrestart⟩
      rw [hentities]
      exact hdecide.1
    · exact Or.inl hrestart
  · have hkept : s.lib.action (answers s report) report ≠ chosen.1 :=
      fun h ↦ hrestart (h.symm.trans haction)
    rw [Lib.action, ← hchosen, Lib.resolve] at haction hkept
    split at haction
    · exact absurd haction hrestart
    · next hcond =>
      split at haction
      · next hhandler =>
        have hlinked : (chosen.2.lib.entities report.entity).desc.linkedSubsystem = sub := by
          rw [chooseAction_lib, hentities]
        have hsome : (chosen.2.lib.subsystems.handler sub).isSome := by
          rw [chooseAction_lib, failedState_lib hid]
          exact hhandler.1
        exact Or.inr ⟨_, mem_trace_resolveExhaustedAction hlinked hcond hsome report, rfl,
          haction⟩
      · exact absurd haction hrestart

/-! ## Handling a report -/

/-- The restart calls the handling of a report makes. -/
def Lib.restartCalls (l : Lib B) (ans : Answers) (report : FailureReport) :
    List (EntityId × Reason × ℤ) :=
  if l.raises report ∧ report.entity < l.entityCount ∧ l.attempts ans report then
    [(report.entity, report.reason, ans.restart)]
  else []

/-- The anomalies the handling of a report raises and clears. -/
def Lib.phases (l : Lib B) (ans : Answers) (report : FailureReport) :
    List (EntityId × Reason × Phase) :=
  if l.raises report then
    (report.entity, report.reason, .raised) ::
      if report.entity < l.entityCount ∧ l.attempts ans report ∧ ans.restart = 0 then
        [(report.entity, report.reason, .cleared)]
      else []
  else []

theorem Lib.Sound.known {l : Lib B} (h : l.Sound) {id : EntityId} (hid : id < l.entityCount) :
    ¬ (l.entityCount ≤ id ∨ (l.entities id).used = false) := by
  rw [h.unknown_iff]
  exact UInt8.not_le.mpr hid

theorem raisedState_ready {s : State B} (hs : s.lib.Sound) (report : FailureReport) :
    (raisedState s report).lib.portReady = true := by
  rw [raisedState_lib]
  exact hs.ready

theorem raisedState_limit {s : State B} (hs : s.lib.Aligned) {report : FailureReport}
    (hid : report.entity < s.lib.entityCount) :
    report.entity < (raisedState s report).lib.health.entityLimit := by
  rwa [raisedState_lib, hs]

theorem raisedState_world {s : State B} (hs : s.lib.Sound) (report : FailureReport) :
    Evolves (fun _ ↦ True) s (raisedState s report) ∧
      (raisedState s report).restarts = s.restarts ∧
      (raisedState s report).anomalies =
        s.anomalies ++ [(report.entity, report.reason, .raised)] := by
  have henter := silent_syncEnter s
  have hkind : (if report.reason = .watchdog then EventKind.watchdog else .failure) = .failure ∨
      (if report.reason = .watchdog then EventKind.watchdog else .failure) = .watchdog := by
    split
    · exact Or.inr rfl
    · exact Or.inl rfl
  refine ⟨henter.any.trans (evolves_emitEventFull _ _ _ _ _ _ _ _ _).any, ?_, ?_⟩
  · rw [raisedState, restarts_emitEventFull, henter.restarts_eq]
  · rw [raisedState, anomalies_emitEventFull (henter.ready.trans hs.ready) hkind,
      henter.anomalies_eq]

/-- What the critical section of `fdir_handle_failure` does to the world. -/
theorem handleFailureLocked_world {s : State B} (hs : s.lib.Sound) (report : FailureReport) :
    Evolves (fun _ ↦ True) s (handleFailureLocked s report) ∧
      (handleFailureLocked s report).restarts = s.restarts ++
        s.lib.restartCalls (answers (raisedState s report) report) report ∧
      (handleFailureLocked s report).anomalies = s.anomalies ++
        s.lib.phases (answers (raisedState s report) report) report := by
  obtain ⟨hraised, hrestarts, hanomalies⟩ := raisedState_world hs report
  by_cases hraises : s.lib.raises report
  · by_cases hid : report.entity < s.lib.entityCount
    · obtain ⟨hevolves, hcalls, hcleared⟩ :=
        recoverEntity_world (raisedState_ready hs report) (raisedState_limit hs.limit_eq hid)
      have hresolved := (silent_resolvedState (raisedState s report) report).any
      have hexit := silent_syncExit (recoverEntity (raisedState s report) report)
      rw [raisedState_lib] at hcalls hcleared
      rw [handleFailureLocked_of_known hraises (hs.known hid), hexit.restarts_eq,
        hexit.anomalies_eq, hcalls, hcleared, hrestarts, hanomalies]
      refine ⟨hraised.trans (hresolved.trans (hevolves.trans hexit.any)), ?_, ?_⟩
      · simp [Lib.restartCalls, hraises, hid]
      · simp [Lib.phases, hraises, hid]
    · have hrest := (silent_enterDegradedModeUnsafe (raisedState s report)).trans
        (silent_syncExit _)
      rw [handleFailureLocked_of_unknown hraises (Or.inl (UInt8.not_lt.mp hid)),
        hrest.restarts_eq, hrest.anomalies_eq, hrestarts, hanomalies]
      refine ⟨hraised.trans hrest.any, ?_, ?_⟩
      · simp [Lib.restartCalls, hid]
      · simp [Lib.phases, hraises, hid]
  · have hlatched : s.lib.health.faultIsLatchedUnsafe report.entity report.reason = true := by
      simpa [Lib.raises] using hraises
    have hquiet := (silent_syncEnter s).trans (silent_syncExit _)
    rw [handleFailureLocked_of_latched hlatched, hquiet.restarts_eq, hquiet.anomalies_eq]
    refine ⟨hquiet.any, ?_, ?_⟩
    · simp [Lib.restartCalls, hraises]
    · simp [Lib.phases, hraises]

/-- A handled report calls restart because the default policy says so or because
a callback has answered RESTART. -/
theorem overridden_handleFailureLocked {s : State B} (hs : s.lib.Sound)
    {report : FailureReport} (hraises : s.lib.raises report)
    (hid : report.entity < s.lib.entityCount)
    (hattempts : s.lib.attempts (answers (raisedState s report) report) report) :
    defaultDecide (s.lib.entities report.entity) report = .restart ∨
      (handleFailureLocked s report).overridden report.entity := by
  have hlimit := raisedState_limit hs.limit_eq hid
  have haction : (raisedState s report).lib.action
      (answers (raisedState s report) report) report = .restart := by
    rw [raisedState_lib]
    exact hattempts.1
  have hrest := (recoverEntity_world (raisedState_ready hs report) hlimit).1.trans
    (silent_syncExit (recoverEntity (raisedState s report) report)).any
  rw [handleFailureLocked_of_known hraises (hs.known hid)]
  have hcause := overridden_of_action hlimit haction
  rw [raisedState_lib] at hcause
  exact hcause.imp_right hrest.overridden

end Fdir
