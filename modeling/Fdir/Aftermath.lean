import Fdir.Confluence
import Fdir.Machine
import Fdir.Verdict

/-!
# The aftermath of a failure

Whatever the callbacks answer, handling a failure restores its entity by a
restart, or leaves it FAILED with the fault latched.  The action applied in the
end decides what becomes of the mode and of the linked subsystem; nothing else
changes.
-/

namespace Fdir

open Foundation

variable {B : Build}

/-! ## The two ends of a failure -/

/-- The restart callback was called and answered 0, and the entity is as good as new,
with the heartbeat of the clock reading that follows the restart. -/
structure Restored (s s' : State B) (report : FailureReport) : Prop where
  called : s'.restarts = s.restarts ++ [(report.entity, report.reason, 0)]
  unlatched : s'.lib.health.faultLatched report.entity = false
  health : ∃ now pre post, s'.lib.health.health report.entity = ⟨.ok, now, 0, []⟩ ∧
    s'.world.trace = s.world.trace ++ pre ++
      .restart report.entity report.reason 0 :: .clock now :: post

/-- The entity is FAILED and its fault is latched. -/
structure Lib.Condemned (l : Lib B) (report : FailureReport) : Prop where
  latched : l.health.faultLatched report.entity = true
  reason : l.health.latchedReason report.entity = report.reason
  health : (l.health.health report.entity).health = .failed
  errorCode : (l.health.health report.entity).errorCode = report.errorCode
  detail : (l.health.health report.entity).detail =
    copyDetail B.detailSize (some report.detail)

theorem Restored.not_condemned {s s' : State B} {report : FailureReport}
    (h : Restored s s' report) : ¬ s'.lib.Condemned report := by
  intro hcondemned
  have hlatched := hcondemned.latched
  rw [h.unlatched] at hlatched
  cases hlatched

/-- Silent interactions before a restart do not matter. -/
theorem Restored.precede {s s' s'' : State B} {report : FailureReport}
    (h : Evolves Obs.silent s s') (h' : Restored s' s'' report) : Restored s s'' report where
  called := by rw [h'.called, h.restarts_eq]
  unlatched := h'.unlatched
  health := by
    obtain ⟨old, hold, -⟩ := h.trace
    obtain ⟨now, pre, post, hhealth, htrace⟩ := h'.health
    refine ⟨now, old ++ pre, post, hhealth, ?_⟩
    rw [htrace, hold, List.append_assoc s.world.trace]

/-- What action `a` for entity `id` does to everything but that entity. -/
structure Lib.Struck (l l' : Lib B) (id : EntityId) (a : Action) : Prop where
  mode : l'.mode = max (max l.mode a.floor) l'.dualFloor
  linked : (l.entities id).desc.linkedSubsystem ≠ subsystemNone →
    l'.subsystems = a.mark l.subsystems (l.entities id).desc.linkedSubsystem
  unlinked : (l.entities id).desc.linkedSubsystem = subsystemNone → l'.subsystems = l.subsystems
  subs : ∀ sub ≠ (l.entities id).desc.linkedSubsystem,
    l'.subsystems.subs sub = l.subsystems.subs sub
  record : ∀ other ≠ id, l'.record other = l.record other
  queue : l'.queue = l.queue
  count : l'.entityCount = l.entityCount
  enabled : l'.supervisionEnabled = l.supervisionEnabled
  config : l'.config = l.config

/-! ## The clock reading of a restart -/

theorem resetState_trace {s : State B} {id : EntityId} (hready : s.lib.portReady = true)
    (hid : id < s.lib.health.entityLimit) (reason : Reason) :
    (resetState s id reason).world.trace = s.world.trace ++
      [.restart id reason (restartAnswer s id reason), .clock (restartClock s id reason)] := by
  let called := restartCalled s id reason
  let cleared := called.write fun l ↦ { l with health := (l.health.clearLatchUnsafe id).2 }
  have hlimit : ¬ cleared.lib.health.entityLimit ≤ id := by
    change ¬ ((called.lib.health.clearLatchUnsafe id).2).entityLimit ≤ id
    rw [clearLatchUnsafe_entityLimit, UInt8.not_le]
    exact hid
  have hready' : cleared.lib.portReady = true := hready
  have hclock : (getNowMs cleared).1 = restartClock s id reason :=
    getNowMs_fst_congr rfl rfl rfl rfl
  have hnow := getNowMs_trace hready'
  have hstamp : ∀ s : State B, (s.stamp id).world.trace = s.world.trace := by
    intro s
    unfold State.stamp
    split <;> rfl
  change (healthResetUnsafe cleared id).world.trace = _
  simp only [healthResetUnsafe, if_neg hlimit, State.write_trace, hstamp, hnow, hclock]
  change s.world.trace ++ [_] ++ [_] = _
  rw [List.append_assoc]
  rfl

/-- The restart of a recovery and its clock reading stand next to each other in the
trace. -/
theorem recoverEntity_trace {s : State B} (hready : s.lib.portReady = true)
    {report : FailureReport} (hid : report.entity < s.lib.health.entityLimit)
    (h : s.lib.restores (answers s report) report) :
    ∃ pre post, (recoverEntity s report).world.trace = s.world.trace ++ pre ++
      .restart report.entity report.reason 0 :: .clock (answers s report).now :: post := by
  obtain ⟨⟨haction, hrestart⟩, hzero⟩ := h
  have hresolved := silent_resolvedState s report
  have hready' := hresolved.ready.trans hready
  have hid' := resolvedState_limit hid
  obtain ⟨hlatched, -⟩ := resolvedState_latched hid
  have hok : (tryRestart (resolvedState s report) report.entity report.reason).1 = .ok := by
    refine (tryRestart_fst _ _ _).mpr ⟨?_, hzero⟩
    rwa [resolvedState_entities hid]
  obtain ⟨mode, mode', name, hrun⟩ := tryRestart_of_ok hid' hlatched hok
  have hreset := resetState_trace hready' hid' report.reason
  have happly : applyAction (resolvedState s report) report.entity .restart report =
      (tryRestart (resolvedState s report) report.entity report.reason).2 := by
    simp [applyAction, hok]
  have hrest := (evolves_emitEventFull (resetState (resolvedState s report) report.entity
      report.reason) .failure mode report.entity
      ((resolvedState s report).lib.health.latchedReason report.entity) 0 .entity .cleared
      name).any.trans
    ((evolves_emitEventFull _ .restart mode' report.entity report.reason 0 .entity .raised
      name).any.trans (silent_evaluateDualPath _).any)
  obtain ⟨pre, hpre, -⟩ := hresolved.trace
  obtain ⟨post, hpost, -⟩ := hrest.trace
  refine ⟨pre, post, ?_⟩
  rw [recoverEntity_eq hid, haction, happly, hrun, hpost, hreset, hpre]
  rw [show restartAnswer (resolvedState s report) report.entity report.reason = 0 from hzero]
  rw [List.append_assoc _ [_, _]]
  rfl

/-! ## Handling a failure -/

theorem Lib.struck_handle {l : Lib B} (hs : l.Sound) (ans : Answers) {report : FailureReport}
    (hraises : l.raises report) (hid : report.entity < l.entityCount) :
    l.Struck (l.handle ans report) report.entity (l.verdict ans report).2 := by
  have hrecover : l.handle ans report = l.recover ans report := by
    have hlatched : l.health.faultIsLatchedUnsafe report.entity report.reason = false := hraises
    simp only [Lib.handle, hlatched, Bool.false_eq_true, if_false, if_neg (hs.known hid)]
  have hsubsystems : (l.handle ans report).subsystems =
      if (l.entities report.entity).desc.linkedSubsystem = subsystemNone then l.subsystems
      else (l.verdict ans report).2.mark l.subsystems
        (l.entities report.entity).desc.linkedSubsystem := by
    rw [hrecover]
    rfl
  constructor
  · rw [hrecover, Lib.recover, Lib.review_eq]
    rfl
  · intro hlinked
    rw [hsubsystems, if_neg hlinked]
  · intro hlinked
    rw [hsubsystems, if_pos hlinked]
  · intro sub hsub
    rw [hsubsystems]
    split
    · rfl
    · rw [Action.mark_eq, SubsystemTable.updateSlot_subs, if_neg fun hboth ↦ hsub hboth.1]
  · intro other hother
    exact Lib.record_handle_of_ne l ans report hother
  · exact Lib.handle_queue l ans report
  · exact Lib.handle_entityCount l ans report
  · exact Lib.handle_supervisionEnabled l ans report
  · exact Lib.handle_config l ans report

/-- A recovery ends in one of the two ways. -/
theorem handleFailureLocked_settled {s : State B} (hs : s.lib.Sound) {report : FailureReport}
    (hraises : s.lib.raises report) (hid : report.entity < s.lib.entityCount) :
    Restored s (handleFailureLocked s report) report ∨
      (handleFailureLocked s report).lib.Condemned report := by
  let ans := answers (raisedState s report) report
  have hlib : (handleFailureLocked s report).lib = s.lib.handle ans report :=
    handleFailureLocked_lib hs.limit_eq report
  by_cases hrestores : s.lib.restores ans report
  · have hrecord := Lib.record_handle_of_restores hs hraises hid hrestores
    rw [← hlib] at hrecord
    left
    refine ⟨?_, congrArg Record.faultLatched hrecord, ?_⟩
    · obtain ⟨-, hrestarts, -⟩ := handleFailureLocked_world hs report
      rw [hrestarts, Lib.restartCalls, if_pos ⟨hraises, hid, hrestores.1⟩,
        show (answers (raisedState s report) report).restart = 0 from hrestores.2]
    · have hrestores' : (raisedState s report).lib.restores ans report := by
        rwa [raisedState_lib]
      obtain ⟨old, hold, -⟩ := (raisedState_world hs report).1.trace
      obtain ⟨pre, post, htrace⟩ := recoverEntity_trace (raisedState_ready hs report)
        (raisedState_limit hs.limit_eq hid) hrestores'
      obtain ⟨last, hlast, -⟩ := (silent_syncExit (recoverEntity (raisedState s report)
        report)).trace
      refine ⟨ans.now, old ++ pre, post ++ last, congrArg Record.snapshot hrecord, ?_⟩
      rw [handleFailureLocked_of_known hraises (hs.known hid), hlast, htrace, hold]
      simp only [List.append_assoc, List.cons_append]
      rfl
  · obtain ⟨hhealth, hreason, hlatched⟩ :=
      Lib.record_handle_of_not_restores hs hraises hid hrestores
    rw [← hlib] at hhealth hreason hlatched
    right
    refine ⟨hlatched, hreason, ?_, ?_, ?_⟩
    · rw [hhealth]
    · rw [hhealth]
    · rw [hhealth]

section Ends

variable {s : State B} (hs : s.lib.Sound) {report : FailureReport}
  (henabled : s.lib.supervisionEnabled ≠ 0) (hid : report.entity < s.lib.entityCount)
  (hraises : s.lib.raises report)

include hs henabled hid hraises

theorem handleFailure_xor :
    Xor (Restored s (handleFailure s (some report)) report)
      ((handleFailure s (some report)).lib.Condemned report) := by
  have hcalled : (supervisionEnabled s).2.lib = s.lib := supervisionEnabled_lib s
  rw [handleFailure_of_enabled henabled]
  rcases handleFailureLocked_settled (by rwa [hcalled] : (supervisionEnabled s).2.lib.Sound)
    (by rwa [hcalled]) (by rwa [hcalled]) with hrestored | hcondemned
  · have hrestored' := Restored.precede (silent_supervisionEnabled s) hrestored
    exact Or.inl ⟨hrestored', hrestored'.not_condemned⟩
  · exact Or.inr ⟨hcondemned, fun hrestored ↦ hrestored.not_condemned hcondemned⟩

/-- The entity is restored exactly if its restart is called and answers 0. -/
theorem handleFailure_restored_iff :
    Restored s (handleFailure s (some report)) report ↔
      s.lib.restores (answers (raisedState (supervisionEnabled s).2 report) report) report := by
  have hlib := handleFailure_lib s hs.limit_eq henabled report
  constructor
  · intro hrestored
    by_contra hfailed
    have hunlatched := hrestored.unlatched
    obtain ⟨-, -, hlatched⟩ := Lib.record_handle_of_not_restores hs hraises hid hfailed
    rw [hlib, hlatched] at hunlatched
    cases hunlatched
  · intro hrestores
    have hrecord := Lib.record_handle_of_restores hs hraises hid hrestores
    rw [← hlib] at hrecord
    have hunlatched : (handleFailure s (some report)).lib.health.faultLatched report.entity =
        false := congrArg Record.faultLatched hrecord
    refine (handleFailure_xor hs henabled hid hraises).or.resolve_right fun hcondemned ↦ ?_
    exact Bool.noConfusion (hunlatched.symm.trans hcondemned.latched)

theorem handleFailure_struck :
    s.lib.Struck (handleFailure s (some report)).lib report.entity
      (s.lib.verdict (answers (raisedState (supervisionEnabled s).2 report) report) report).2 := by
  rw [handleFailure_lib s hs.limit_eq henabled]
  exact Lib.struck_handle hs _ hraises hid

end Ends

/-- In every state that any threads can reach, with supervision enabled, for every report
of a registered entity whose reason is not latched, and whatever the callbacks
answer: handling it ends in exactly one of the two ways, and the action applied in
the end determines the mode and the flags of the linked subsystem. -/
theorem failure_settled (s : State B) (config : Option Config) (lock unlock : Bool)
    (pcs : ℕ → Pc) (turns : List Turn) (report : FailureReport) :
    let m : Machine B := Run.run Machine.step (.initialised s config lock unlock pcs) turns
    let s := m.state
    let s' := handleFailure s (some report)
    let ans := answers (raisedState (supervisionEnabled s).2 report) report
    s.lib.supervisionEnabled ≠ 0 → report.entity < s.lib.entityCount → s.lib.raises report →
      Xor (Restored s s' report) (s'.lib.Condemned report) ∧
        s.lib.Struck s'.lib report.entity (s.lib.verdict ans report).2 := by
  intro m s₁ s' ans henabled hid hraises
  have hs : s₁.lib.Sound := Machine.run_sound s config lock unlock pcs turns
  exact ⟨handleFailure_xor hs henabled hid hraises, handleFailure_struck hs henabled hid hraises⟩

/-- An entity without a restart callback, linked to a subsystem. -/
theorem failure_settled_degrades :
    let desc : EntityDesc := { EntityDesc.zero with linkedSubsystem := 0, onExhausted := .degrade }
    let m : Machine .default := Run.run Machine.step
      (.initialised (.powerOn 0 fun _ ↦ 1) none true true fun _ ↦ .idle)
      [.call 0 (.subsystemRegister (some .zero) true), .call 0 (.entityRegister (some desc) true)]
    let report : FailureReport := ⟨0, .timeout, 7, [], 0, 0⟩
    let s' := handleFailure m.state (some report)
    s'.lib.Condemned report ∧ s'.lib.subsystems.subCount = 1 := by
  intro desc m report s'
  obtain ⟨hsettled, hstruck⟩ := failure_settled (.powerOn 0 fun _ ↦ 1 : State .default) none true
    true (fun _ ↦ .idle) [.call 0 (.subsystemRegister (some .zero) true),
      .call 0 (.entityRegister (some desc) true)] report (by decide) (by decide) (by decide)
  have hlinked := hstruck.linked (by decide)
  refine ⟨hsettled.or.resolve_left fun hrestored ↦ ?_, ?_⟩
  · have hcalled := hrestored.called
    exact absurd hcalled (by decide)
  · rw [hlinked, Action.mark_eq, SubsystemTable.updateSlot_subCount]
    rfl

end Fdir
