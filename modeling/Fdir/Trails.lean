import Fdir.Acts
import Fdir.Machine

/-!
# Trails

Every call of the library, and every turn of interleaved threads, leaves a trail
of stretches under the lock and steps outside it.
-/

namespace Fdir

open Relation (ReflTransGen)

variable {B : Build} {scope : Scope}

/-! ## The handling of a report -/

theorem applyAction_eq (s : State B) (id : EntityId) (action : Action) (report : FailureReport)
    (ans : Answers) (hanswer : ans.restart = restartAnswer s id report.reason) :
    applyAction s id action report = applyFinalAction
      (if action = .restart then (tryRestart s id report.reason).2 else s) id
      ((s.lib.record id).settle ans action report.reason).2 report := by
  have hslot : (s.lib.record id).slot = s.lib.entities id := rfl
  by_cases haction : action = .restart
  · subst haction
    by_cases hok : (tryRestart s id report.reason).1 = .ok
    · obtain ⟨hrestart, hzero⟩ := (tryRestart_fst s id report.reason).mp hok
      simp only [applyAction, if_true, hok, ne_eq, not_true_eq_false, if_false]
      simp [Record.settle, hslot, hrestart, hanswer, hzero, applyFinalAction]
    · have hfallback : ((s.lib.record id).settle ans .restart report.reason).2 =
          (s.lib.record id).fallback := by
        rw [tryRestart_fst, not_and_or] at hok
        rcases hok with hrestart | hzero
        · simp [Record.settle, hslot, hrestart]
        · simp only [Record.settle, if_true, hanswer, if_neg hzero]
          split <;> rfl
      simp only [applyAction, if_true, hok, ne_eq, not_false_eq_true, hfallback]
      rfl
  · simp only [applyAction, if_neg haction, Record.settle]

theorem tryRestart_frame {s : State B} {id : EntityId} (hid : id < s.lib.health.entityLimit)
    (reason : Reason) :
    (tryRestart s id reason).2.lib.subsystems = s.lib.subsystems ∧
      ((tryRestart s id reason).2.lib.entities id).desc = (s.lib.entities id).desc := by
  let ans : Answers := ⟨.none, .none, restartAnswer s id reason, restartClock s id reason⟩
  rw [tryRestart_lib hid reason ans rfl rfl]
  refine ⟨rfl, ?_⟩
  simp only [Lib.setRecord, Function.update_self, Record.settle_desc]
  rfl

/-- The handler of the linked subsystem overrides the action. -/
def Lib.overrides (l : Lib B) (ans : Answers) (report : FailureReport) : Prop :=
  let action := ((l.record report.entity).fail B report).choose ans report
  action ≠ .restart ∧ action ≠ .none ∧
    (l.entities report.entity).desc.linkedSubsystem ≠ subsystemNone ∧ ans.exhausted ≠ .none

/-- What the handling of a report announces about the linked subsystem lies in the
scope. -/
structure Lib.Within (scope : Scope) (l : Lib B) (ans : Answers) (report : FailureReport) :
    Prop where
  overridden : l.overrides ans report →
    scope.overrides l.subsystems (l.entities report.entity).desc.linkedSubsystem
  marked : ∀ mark, (l.verdict ans report).2.mark? = some mark →
    (l.entities report.entity).desc.linkedSubsystem ≠ subsystemNone →
      scope.marks mark l.subsystems (l.entities report.entity).desc.linkedSubsystem

theorem Lib.within_all (l : Lib B) (ans : Answers) (report : FailureReport) :
    l.Within .all ans report := ⟨fun _ ↦ trivial, fun _ _ _ ↦ trivial⟩

theorem failedState_work (s : State B) (report : FailureReport) :
    Work scope s (failedState s report) :=
  (Act.write s (fun l ↦ { l with
    health := (l.health.latchFaultUnsafe report.entity report.reason).2 })
    ⟨rfl, rfl, rfl, rfl⟩).work.trans (healthSetUnsafe_work _ _ _ _ _)

theorem resolvedState_work {s : State B} {report : FailureReport}
    (hid : report.entity < s.lib.health.entityLimit) (hconsults : scope.consults)
    (hoverrides : s.lib.overrides (answers s report) report →
      scope.overrides s.lib.subsystems (s.lib.entities report.entity).desc.linkedSubsystem) :
    Work scope s (resolvedState s report) := by
  refine (failedState_work s report).trans ((chooseAction_work _ report).trans ?_)
  refine resolveExhaustedAction_work _ hconsults _ _ _ ?_
  rw [chooseAction_lib, failedState_entities hid, chooseAction_failedState hid]
  intro hrestart hnone hlinked hanswer
  exact hoverrides ⟨hrestart, hnone, hlinked, hanswer⟩

/-- The final action of a recovery is applied in a state with the links and subsystems
of the first. -/
theorem recoverEntity_struck {s : State B} {report : FailureReport}
    (hid : report.entity < s.lib.health.entityLimit) (hconsults : scope.consults)
    (hentity : scope.entity report.entity)
    (hoverrides : s.lib.overrides (answers s report) report →
      scope.overrides s.lib.subsystems (s.lib.entities report.entity).desc.linkedSubsystem) :
    ∃ struck, Work scope s struck ∧ struck.lib.subsystems = s.lib.subsystems ∧
      (struck.lib.entities report.entity).desc = (s.lib.entities report.entity).desc ∧
      recoverEntity s report = evaluateDualPath (applyFinalAction struck report.entity
        (s.lib.verdict (answers s report) report).2 report) := by
  have hwork := resolvedState_work hid hconsults hoverrides
  have hsubsystems := resolvedState_subsystems hid
  have hdesc : ((resolvedState s report).lib.entities report.entity).desc = _ :=
    congrArg (fun entities ↦ (entities report.entity).desc) (resolvedState_entities hid)
  rw [recoverEntity_eq hid, applyAction_eq _ _ _ _ (answers s report) rfl,
    resolvedState_record hid]
  split
  · obtain ⟨hframe, hframe'⟩ := tryRestart_frame (resolvedState_limit hid) report.reason
    exact ⟨_, hwork.trans (tryRestart_work _ _ _ hentity), hframe.trans hsubsystems,
      hframe'.trans hdesc, rfl⟩
  · exact ⟨_, hwork, hsubsystems, hdesc, rfl⟩

theorem recoverEntity_work {s : State B} {report : FailureReport}
    (hid : report.entity < s.lib.health.entityLimit) (hconsults : scope.consults)
    (hentity : scope.entity report.entity) (h : s.lib.Within scope (answers s report) report) :
    Work scope s (recoverEntity s report) := by
  obtain ⟨struck, hwork, hsubsystems, hdesc, hrun⟩ :=
    recoverEntity_struck hid hconsults hentity h.overridden
  rw [hrun]
  refine hwork.trans (.trans (applyFinalAction_work _ _ _ _ ?_) (evaluateDualPath_work _))
  rw [hsubsystems, hdesc]
  exact h.marked

theorem raisedState_work (s : State B) {report : FailureReport}
    (hentity : scope.entity report.entity) :
    Work scope (syncEnter s) (raisedState s report) := by
  refine (Act.event (syncEnter s) _ _ _ _ _ _ _ ?_ (Or.inr ⟨rfl, hentity⟩) fun hnote ↦ ?_).work
  · split <;> decide
  · split at hnote <;> cases hnote

theorem handleFailureLocked_trail {s : State B} (hs : s.lib.Aligned) (hconsults : scope.consults)
    {report : FailureReport} (hentity : s.lib.raises report → scope.entity report.entity)
    (h : s.lib.raises report → report.entity < s.lib.entityCount →
      s.lib.Within scope (answers (raisedState s report) report) report) :
    Trail scope s (handleFailureLocked s report) := by
  by_cases hraises : s.lib.raises report
  · have hraised := raisedState_work s (hentity hraises)
    by_cases hunknown : s.lib.entityCount ≤ report.entity ∨
        (s.lib.entities report.entity).used = false
    · rw [handleFailureLocked_of_unknown hraises hunknown]
      exact Work.critical (hraised.trans (enterDegradedModeUnsafe_work _))
    · have hid : report.entity < s.lib.entityCount :=
        UInt8.not_le.mp fun hle ↦ hunknown (Or.inl hle)
      rw [handleFailureLocked_of_known hraises hunknown]
      refine Work.critical (hraised.trans (recoverEntity_work ?_ hconsults (hentity hraises) ?_))
      · exact raisedState_limit hs hid
      · rw [raisedState_lib]
        exact h hraises hid
  · rw [handleFailureLocked_of_latched (Bool.not_eq_false _ ▸ hraises)]
    exact Work.critical .refl

/-! ## Calls of one section -/

section Calls

variable (s : State B)

theorem lock_trail : Trail scope s (syncExit (syncEnter s)) := Work.critical .refl

theorem query_trail (q : Query) : Trail scope s (q.exec s).2 := by
  have hlock : Trail scope s _ := lock_trail s
  cases q with
  | systemMode | supervisionEnabled | healthFaultIsLatched | failureQueueFullLatched => exact hlock
  | entityMayRun id =>
      rw [show ((Query.entityMayRun id).exec s).2 = syncExit (syncEnter s) from
        entityMayRun_snd s id]
      exact hlock
  | healthSnapshotCopy id out =>
      simp only [Query.exec, snapshotCopy]
      split
      · exact .refl
      · exact hlock
  | _ => exact .refl

theorem entityRegister_trail (desc : Option EntityDesc) (outId : Bool) :
    Trail scope s (entityRegister s desc outId).2.2 := by
  have hlock : Trail scope s _ := lock_trail s
  simp only [entityRegister]
  split
  · split
    · exact hlock
    · split
      · exact hlock
      · refine Work.critical (.trans ?_ (healthResetUnsafe_work _ _))
        exact (Act.write _ _ ⟨rfl, rfl, rfl, rfl⟩).work
  · exact hlock

theorem subsystemRegister_trail (desc : Option SubsystemDesc) (outId : Bool)
    (h : s.lib.subsystems.subCount.toNat < B.subsystemCap → scope.enrols) :
    Trail scope s (subsystemRegister s desc outId).2.2 := by
  have hlock : Trail scope s _ := lock_trail s
  simp only [subsystemRegister]
  split
  · split
    · exact hlock
    · next hroom =>
      rw [syncEnter_lib, Nat.not_le] at hroom
      exact Work.critical (Act.enrol _ _ (h hroom) rfl rfl rfl).work
  · exact hlock

theorem setSupervisionEnabled_trail (enabled : UInt8) :
    Trail scope s (setSupervisionEnabled s enabled).2 := by
  simp only [setSupervisionEnabled]
  split
  · exact lock_trail s
  · have hflag : Work scope (syncEnter s)
        ((syncEnter s).write fun l ↦ { l with supervisionEnabled := enabled }) :=
      (Act.write _ _ ⟨rfl, rfl, rfl, rfl⟩).work
    have hnote : ∀ s : State B, Work scope s _ := fun s ↦
      (Act.event s .note entityNone .user 0 .system .raised
        (some (if enabled ≠ 0 then "supervision_enabled".toList
          else "supervision_disabled".toList)) (by decide) (Or.inl rfl) (absurd · (by decide))).work
    refine Work.critical (hflag.trans (.trans ?_ (hnote _)))
    split
    · exact (Act.write _ _ ⟨rfl, rfl, rfl, rfl⟩).work
    · exact .refl

theorem setSystemMode_trail (mode : ℕ) : Trail scope s (setSystemMode s mode).2 := by
  simp only [setSystemMode]
  split
  · exact lock_trail s
  · exact lock_trail s
  · exact Work.critical (setMode_work _ _ _ _ _)

theorem deescalateSystemMode_trail : Trail scope s (deescalateSystemMode s).2 := by
  simp only [deescalateSystemMode]
  split
  · exact Work.critical (setMode_work _ _ _ _ _)
  · split
    · exact Work.critical (setMode_work _ _ _ _ _)
    · exact lock_trail s

theorem note_trail (kind : EventKind) (reason : Reason) (errorCode : UInt16)
    (detail : Option CStr) (hkind : kind ≠ .modeChange)
    (hnote : kind = .queueOverflow → scope.overflows) :
    Trail scope s (syncExit (emitEventFull (syncEnter s) kind (syncEnter s).lib.mode entityNone
      reason errorCode .system .raised detail)) :=
  Work.critical (Act.event _ _ _ _ _ _ _ _ hkind (Or.inl rfl) hnote).work

theorem enqueueFailureUnsafe_work (report : FailureReport) :
    Work scope s (enqueueFailureUnsafe s report).2 := by
  have hput : Work scope s
      (s.write fun l ↦ { l with queue := (s.lib.queue.putUnsafe report).2 }) :=
    (Act.write _ _ ⟨rfl, rfl, rfl, rfl⟩).work
  simp only [enqueueFailureUnsafe]
  split
  · exact hput
  · exact hput

theorem reportFaultImpl_trail (entity : EntityId) (reason : Reason) (errorCode : UInt16)
    (detail : Option CStr) (flags : UInt8) :
    Trail scope s (reportFaultImpl s entity reason errorCode detail flags).2 := by
  have hlock : Trail scope s _ := lock_trail s
  simp only [reportFaultImpl]
  split
  · exact hlock
  split
  · exact hlock
  split
  · exact hlock
  have hnow : Work scope (syncEnter s) (getNowMs (syncEnter s)).2 := (Act.clock _).work
  split
  · exact Work.critical (hnow.trans (enqueueFailureUnsafe_work _ _))
  · exact Work.critical (hnow.trans ((enqueueFailureUnsafe_work _ _).trans
      (healthSetUnsafe_work _ _ _ _ _)))

theorem heartbeatNotify_trail (id : EntityId) : Trail scope s (heartbeatNotify s id) := by
  simp only [heartbeatNotify]
  split
  · exact lock_trail s
  · exact Work.critical (((Act.clock _).work.tail (.stamp _ id)).tail
      (.write _ _ ⟨rfl, rfl, rfl, rfl⟩))

theorem healthSet_trail (id : EntityId) (health : Health) (errorCode : UInt16)
    (detail : Option CStr) : Trail scope s (healthSet s id health errorCode detail) := by
  simp only [healthSet]
  split
  · exact lock_trail s
  · exact Work.critical (healthSetUnsafe_work _ _ _ _ _)

theorem healthReset_trail (id : EntityId) : Trail scope s (healthReset s id) := by
  simp only [healthReset]
  split
  · exact lock_trail s
  · exact Work.critical (healthResetUnsafe_work _ _)

theorem markSubsystem_trail (mark : Mark) (phase : Phase) (id : SubsystemId)
    (h : (s.lib.subsystems.slotOf id).isSome → scope.marks mark s.lib.subsystems id) :
    Trail scope s (markSubsystem mark.apply phase mark.detail s id) := by
  simp only [markSubsystem]
  split
  · next hslot =>
    rw [syncEnter_lib] at hslot
    refine Work.critical (Act.mark _ mark id entityNone .user 0 phase ?_).work
    rw [syncEnter_lib]
    exact h hslot
  · exact lock_trail s

theorem subsystemOnEntityExhausted_trail (sub : SubsystemId) (id : EntityId)
    (report : Option FailureReport) :
    Trail scope s (subsystemOnEntityExhausted s sub id report).2 := by
  unfold subsystemOnEntityExhausted
  split
  · exact .refl
  · split
    · exact .refl
    · exact .single (.call s rfl)

theorem failureQueuePut_trail (report : FailureReport) :
    Trail scope s (failureQueuePut s report).2 :=
  Work.critical (Act.write _ _ ⟨rfl, rfl, rfl, rfl⟩).work

theorem failureQueueGet_trail : Trail scope s (failureQueueGet s).2 := by
  simp only [failureQueueGet]
  split
  · exact lock_trail s
  · exact Work.critical (Act.write _ _ ⟨rfl, rfl, rfl, rfl⟩).work

/-- What a call of one section announces or registers lies in the scope. -/
def Call.Within (scope : Scope) (l : Lib B) : Call → Prop
  | .subsystemRegister _ _ => l.subsystems.subCount.toNat < B.subsystemCap → scope.enrols
  | .subsystemMarkAvailable id =>
      (l.subsystems.slotOf id).isSome → scope.marks .available l.subsystems id
  | .subsystemMarkUnavailable id =>
      (l.subsystems.slotOf id).isSome → scope.marks .unavailable l.subsystems id
  | .subsystemMarkDegraded id =>
      (l.subsystems.slotOf id).isSome → scope.marks .degraded l.subsystems id
  | .logQueueOverflow _ _ _ => scope.overflows
  | _ => True

theorem Call.within_all (c : Call) (l : Lib B) : c.Within .all l := by
  cases c with
  | subsystemRegister | subsystemMarkAvailable | subsystemMarkUnavailable
  | subsystemMarkDegraded => exact fun _ ↦ trivial
  | _ => exact trivial

theorem after_trail {c : Call} (hentry : c.entry = none) (h : c.Within scope s.lib) :
    Trail scope s (after s c) := by
  cases c with
  | query q => exact query_trail s q
  | entityRegister desc outId => exact entityRegister_trail s desc outId
  | subsystemRegister desc outId => exact subsystemRegister_trail s desc outId h
  | setSupervisionEnabled enabled => exact setSupervisionEnabled_trail s enabled
  | setSystemMode mode => exact setSystemMode_trail s mode
  | deescalateSystemMode => exact deescalateSystemMode_trail s
  | enterDegradedMode => exact Work.critical (enterDegradedModeUnsafe_work _)
  | enterSafeMode => exact Work.critical (enterSafeModeUnsafe_work _)
  | reassessSystemMode => exact Work.critical (evaluateDualPath_work _)
  | tryReboot reason => exact Work.critical (tryRebootUnsafe_work _ _)
  | logNote note => exact note_trail s .note .user 0 note (by decide) nofun
  | logQueueOverflow queueId overflowDelta depthHighWater =>
      exact note_trail s .queueOverflow .queueOverflow queueId _ (by decide) fun _ ↦ h
  | supervisorTick | checkWatchdogs | workerMayRun => cases hentry
  | handleFailure report =>
      cases report with
      | none => exact .refl
      | some report => cases hentry
  | submitFailure report =>
      cases report with
      | none => exact .refl
      | some report => cases hentry
  | reportFault entity reason errorCode detail =>
      exact reportFaultImpl_trail s entity reason errorCode detail faultFlagCritical
  | reportFaultEx entity reason errorCode detail flags =>
      exact reportFaultImpl_trail s entity reason errorCode detail flags
  | heartbeatNotify id => exact heartbeatNotify_trail s id
  | healthSet id health errorCode detail => exact healthSet_trail s id health errorCode detail
  | healthReset id => exact healthReset_trail s id
  | subsystemMarkAvailable id => exact markSubsystem_trail s .available .cleared id h
  | subsystemMarkUnavailable id => exact markSubsystem_trail s .unavailable .raised id h
  | subsystemMarkDegraded id => exact markSubsystem_trail s .degraded .raised id h
  | subsystemOnEntityExhausted sub id report =>
      exact subsystemOnEntityExhausted_trail s sub id report

end Calls

/-! ## Calls of several sections -/

section Composed

variable {s : State B}

theorem supervisionEnabled_trail (s : State B) : Trail scope s (supervisionEnabled s).2 :=
  lock_trail s

theorem handleFailure_trail (hs : s.lib.Aligned) (report : FailureReport) :
    Trail .all s (handleFailure s (some report)) := by
  have hasked : Trail .all s _ := supervisionEnabled_trail s
  have hlib := supervisionEnabled_lib s
  simp only [handleFailure]
  split
  · exact hasked
  · refine hasked.trans (handleFailureLocked_trail ?_ trivial (fun _ ↦ trivial) fun _ _ ↦ ?_)
    · rwa [hlib]
    · exact Lib.within_all _ _ _

theorem handleFailure_aligned (hs : s.lib.Aligned) (report : FailureReport) :
    (handleFailure s (some report)).lib.Aligned :=
  (handleFailure_effect s hs (some report)).aligned hs

/-- The loop releases the lock around each recovery. -/
theorem scanLoop_trail (nowMs maxAge : UInt32) (rounds i : ℕ) (hs : s.lib.Aligned) :
    Trail .all s (syncExit (scanLoop nowMs maxAge rounds i (syncEnter s))) := by
  induction rounds generalizing i s with
  | zero => exact lock_trail s
  | succ rounds ih =>
      simp only [scanLoop]
      split
      · split
        · have hfree : (syncExit (syncEnter s)).lib.Aligned := by
            rwa [syncExit_lib, syncEnter_lib]
          have hhandled := handleFailure_trail hfree (watchdogReport B (UInt8.ofNat i) nowMs)
          exact (lock_trail s).trans (hhandled.trans (ih (i + 1) (handleFailure_aligned hfree _)))
        · exact ih (i + 1) hs
      · exact lock_trail s

theorem checkWatchdogs_trail_of_read (hs : s.lib.Aligned) :
    Trail .all (getNowMs s).2 (checkWatchdogs s) := by
  have hasked : Trail .all (getNowMs s).2 _ := supervisionEnabled_trail _
  simp only [checkWatchdogs]
  split
  · exact hasked
  · refine hasked.trans (scanLoop_trail _ _ _ _ ?_)
    rwa [supervisionEnabled_lib, getNowMs_lib]

theorem checkWatchdogs_trail (hs : s.lib.Aligned) : Trail .all s (checkWatchdogs s) :=
  .head (.clock s) (checkWatchdogs_trail_of_read hs)

theorem failureQueueGet_aligned (hs : s.lib.Aligned) : (failureQueueGet s).2.lib.Aligned := by
  cases hget : s.lib.queue.getUnsafe.1 with
  | none =>
      rw [failureQueueGet_of_none hget, syncExit_lib, syncEnter_lib]
      exact hs
  | some report =>
      rw [(failureQueueGet_of_some hget).2]
      exact hs

theorem drainQueue_trail (rounds : ℕ) (hs : s.lib.Aligned) :
    Trail .all s (drainQueue rounds s) ∧ (drainQueue rounds s).lib.Aligned := by
  induction rounds generalizing s with
  | zero => exact ⟨.refl, hs⟩
  | succ rounds ih =>
      have hgot : Trail .all s _ := failureQueueGet_trail s
      have haligned : (failureQueueGet s).2.lib.Aligned := failureQueueGet_aligned hs
      simp only [drainQueue]
      split
      · exact ⟨hgot, haligned⟩
      · obtain ⟨hrest, hend⟩ := ih (handleFailure_aligned haligned _)
        exact ⟨hgot.trans ((handleFailure_trail haligned _).trans hrest), hend⟩

theorem supervisorTick_trail (hs : s.lib.Aligned) : Trail .all s (supervisorTick s) := by
  have hasked : Trail .all s _ := supervisionEnabled_trail s
  simp only [supervisorTick]
  split
  · exact hasked
  · have haligned : (supervisionEnabled s).2.lib.Aligned := by
      rwa [supervisionEnabled_lib]
    obtain ⟨hdrained, hend⟩ := drainQueue_trail 256 haligned
    exact hasked.trans (hdrained.trans (checkWatchdogs_trail hend))

theorem submitFailure_trail (report : FailureReport) :
    Trail scope s (submitFailure s (some report)).2 := by
  have hasked : Trail scope s _ := supervisionEnabled_trail s
  simp only [submitFailure]
  split
  · exact hasked
  · split <;> exact hasked.trans (failureQueuePut_trail _ report)

theorem workerMayRun_trail (id : EntityId) : Trail scope s (workerMayRun s id).2 := by
  have hmode : Trail scope s (systemMode s).2 := lock_trail s
  simp only [workerMayRun]
  split
  · exact hmode.trans (heartbeatNotify_trail _ id)
  · rw [entityMayRun_snd]
    exact hmode.trans (lock_trail _)

theorem after_trail_all (hs : s.lib.Aligned) (c : Call) : Trail .all s (after s c) := by
  cases hentry : c.entry with
  | none => exact after_trail s hentry (c.within_all s.lib)
  | some pc =>
      cases c with
      | supervisorTick => exact supervisorTick_trail hs
      | checkWatchdogs => exact checkWatchdogs_trail hs
      | workerMayRun id => exact workerMayRun_trail id
      | handleFailure report =>
          cases report with
          | none => cases hentry
          | some report => exact handleFailure_trail hs report
      | submitFailure report =>
          cases report with
          | none => cases hentry
          | some report => exact submitFailure_trail report
      | _ => cases hentry

end Composed

/-! ## Turns -/

/-- What a turn announces lies in the scope. -/
structure Machine.Within (scope : Scope) (m : Machine B) (turn : Turn) : Prop where
  call : ∀ thread c, turn = .call thread c → m.pcs thread = .idle → c.entry = none →
    c.Within scope m.state.lib
  entity : ∀ thread report ret, turn = .advance thread →
    m.pcs thread = .handleLocked report ret → m.state.lib.raises report →
      scope.entity report.entity
  linked : ∀ thread report ret, turn = .advance thread →
    m.pcs thread = .handleLocked report ret → m.state.lib.raises report →
      report.entity < m.state.lib.entityCount →
        m.state.lib.Within scope (answers (raisedState m.state report) report) report

theorem Machine.within_all (m : Machine B) (turn : Turn) : m.Within .all turn where
  call := fun _ c _ _ _ ↦ c.within_all m.state.lib
  entity := fun _ _ _ _ _ _ ↦ trivial
  linked := fun _ _ _ _ _ _ _ ↦ m.state.lib.within_all _ _

theorem Pc.trail {s : State B} {pc : Pc}
    (h : ∀ report ret, pc = .handleLocked report ret →
      Trail scope s (handleFailureLocked s report)) :
    Trail scope s (pc.advance s).2 := by
  have hlock : Trail scope s _ := lock_trail s
  cases pc with
  | idle => exact .refl
  | submitTest | tickTest | handleTest | watchTest | watchScan | gateMode => exact hlock
  | submitPut report => exact failureQueuePut_trail s report
  | drain => exact failureQueueGet_trail s
  | handleLocked report ret => exact h report ret rfl
  | watchClock => exact .single (.clock s)
  | gateHeartbeat id => exact heartbeatNotify_trail s id
  | gateRun id =>
      rw [show (Pc.advance s (.gateRun id)).2 = syncExit (syncEnter s) from entityMayRun_snd s id]
      exact hlock

/-- A turn leaves a trail, or lets time pass. -/
theorem Machine.trail {m : Machine B} (hs : m.state.lib.Sound) (hconsults : scope.consults)
    {turn : Turn} (h : m.Within scope turn) :
    Trail scope m.state (m.step turn).state ∨
      ∃ ms, turn = .elapse ms ∧ (m.step turn).state = m.state.elapse ms := by
  cases turn with
  | call thread c =>
      left
      simp only [step]
      split
      · next hidle =>
        split
        · next hentry => exact after_trail _ hentry (h.call thread c rfl hidle hentry)
        · exact .refl
      · exact .refl
  | advance thread =>
      left
      refine Pc.trail fun report ret hpc ↦ ?_
      exact handleFailureLocked_trail hs.limit_eq hconsults (h.entity thread report ret rfl hpc)
        (h.linked thread report ret rfl hpc)
  | elapse ms => exact Or.inr ⟨ms, rfl, rfl⟩

end Fdir
