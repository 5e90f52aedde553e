import Fdir.Trails

/-!
# The hooks of the port

While the port is not ready, taking and releasing its lock does nothing, and the
first call that reads the clock, emits an event or requests a reboot ends in
`abort`.  A call that reaches none of these three hooks does the same work whether or
not the port is ready, but for the lock.
-/

namespace Fdir

open Relation (ReflTransGen)

variable {B : Build}

/-! ## What calls reach -/

/-- Made on `l`, the call reads the clock, emits an event or requests a reboot. -/
def Call.reaches (l : Lib B) : Call → Prop
  | .entityRegister desc outId => l.Registers (.entityRegister desc outId)
  | .setSupervisionEnabled enabled => l.supervisionEnabled ≠ enabled
  | .setSystemMode code =>
      ∃ mode, Mode.ofCode? code = some mode ∧ mode ≠ .rebootPending ∧ l.mode ≠ mode
  | .deescalateSystemMode => l.mode = .safe ∨ l.mode = .degraded
  | .enterDegradedMode => l.mode = .nominal
  | .enterSafeMode => l.mode < .safe
  | .reassessSystemMode =>
      l.config.safeModeCriticalFailureThreshold ≤ l.subsystems.criticalUnavailableCount ∧
        l.mode < .safe
  | .tryReboot _ | .logNote _ | .logQueueOverflow _ _ _ | .checkWatchdogs => True
  | .supervisorTick => l.supervisionEnabled ≠ 0
  | .handleFailure report =>
      ∃ raised, report = some raised ∧ l.supervisionEnabled ≠ 0 ∧ l.raises raised
  | .reportFault entity reason _ _ | .reportFaultEx entity reason _ _ _ =>
      l.supervisionEnabled ≠ 0 ∧ l.health.faultIsLatchedUnsafe entity reason = false ∧
        l.health.snapshotFailed entity = false
  | .heartbeatNotify id | .healthReset id => id < l.health.entityLimit
  | .subsystemMarkAvailable id | .subsystemMarkUnavailable id | .subsystemMarkDegraded id =>
      (l.subsystems.slotOf id).isSome
  | .workerMayRun id => .safe ≤ l.mode ∧ id < l.health.entityLimit
  | .query _ | .subsystemRegister _ _ | .submitFailure _ | .healthSet _ _ _ _
  | .subsystemOnEntityExhausted _ _ _ => False

/-- The query takes the lock. -/
def Query.locks (l : Lib B) : Query → Bool
  | .systemMode | .supervisionEnabled | .entityMayRun _ | .healthFaultIsLatched _ _
  | .failureQueueFullLatched => true
  | .healthSnapshotCopy id out => out && decide (id < l.health.entityLimit)
  | _ => false

/-- Made on `l`, the call takes the lock. -/
def Call.locks (l : Lib B) : Call → Bool
  | .query q => q.locks l
  | .handleFailure report | .submitFailure report => report.isSome
  | .subsystemOnEntityExhausted _ _ _ => false
  | _ => true

/-! ## A port that is not ready -/

section Unready

variable {s : State B} (hready : s.lib.portReady = false)
include hready

theorem syncEnter_of_unready : syncEnter s = s := by
  simp [syncEnter, hready]

theorem syncExit_of_unready : syncExit s = s := by
  simp [syncExit, hready]

theorem getNowMs_of_unready : getNowMs s = (0, s.abort) := by
  simp [getNowMs, hready]

theorem emitEvent_of_unready (event : Event) : emitEvent s event = s.abort := by
  simp [emitEvent, hready]

theorem requestReboot_of_unready (why : CStr) : requestReboot s why = s.abort := by
  simp [requestReboot, hready]

theorem emitEventFull_of_unready (kind : EventKind) (mode : Mode) (entity : EntityId)
    (reason : Reason) (errorCode : UInt16) (level : Level) (phase : Phase)
    (detail : Option CStr) :
    emitEventFull s kind mode entity reason errorCode level phase detail = s.abort := by
  rw [emitEventFull, getNowMs_of_unready hready]
  exact emitEvent_of_unready (s := s.abort) hready _

theorem emitSubsystemState_of_unready (sub : SubsystemId) (entity : EntityId) (reason : Reason)
    (errorCode : UInt16) (phase : Phase) (detail : CStr) :
    emitSubsystemState s sub entity reason errorCode phase detail = s.abort := by
  rw [emitSubsystemState, getNowMs_of_unready hready]
  exact emitEvent_of_unready (s := s.abort) hready _

end Unready

/-! ## Any port -/

/-- What no operation under way undoes: a port stays ready or not, `abort` is final,
and nobody reaches it while the port is ready. -/
structure State.Onward (s s' : State B) : Prop where
  ready : s'.lib.portReady = s.lib.portReady
  aborted : s.world.aborted = true → s'.world.aborted = true
  spared : s.lib.portReady = true → s'.world.aborted = s.world.aborted
  unguarded : s.world.unguarded = true → s'.world.unguarded = true

namespace State.Onward

variable {s s' s'' : State B}

theorem refl (s : State B) : s.Onward s := ⟨rfl, id, fun _ ↦ rfl, id⟩

theorem trans (h : s.Onward s') (h' : s'.Onward s'') : s.Onward s'' where
  ready := h'.ready.trans h.ready
  aborted := fun haborted ↦ h'.aborted (h.aborted haborted)
  spared := fun hready ↦ (h'.spared (h.ready.trans hready)).trans (h.spared hready)
  unguarded := fun hunguarded ↦ h'.unguarded (h.unguarded hunguarded)

variable (s)

theorem syncEnter : s.Onward (syncEnter s) := by
  unfold Fdir.syncEnter
  split
  · exact ⟨rfl, id, fun _ ↦ rfl, id⟩
  · exact refl s

theorem syncExit : s.Onward (syncExit s) := by
  unfold Fdir.syncExit
  split
  · exact ⟨rfl, id, fun _ ↦ rfl, id⟩
  · exact refl s

theorem log (o : Obs) : s.Onward (s.log o) := ⟨rfl, id, fun _ ↦ rfl, id⟩

theorem abort (hready : s.lib.portReady = false) : s.Onward s.abort where
  ready := rfl
  aborted := fun _ ↦ rfl
  spared := fun hbound ↦ absurd (hready.symm.trans hbound) Bool.false_ne_true
  unguarded := id

theorem stamp (id : EntityId) : s.Onward (s.stamp id) := by
  unfold State.stamp
  split
  · exact refl s
  · exact ⟨rfl, fun h ↦ h, fun _ ↦ rfl, fun h ↦ h⟩

theorem write {f : Lib B → Lib B} (hready : (f s.lib).portReady = s.lib.portReady) :
    s.Onward (s.write f) where
  ready := hready
  aborted := id
  spared := fun _ ↦ rfl
  unguarded := fun h ↦ Bool.or_eq_true_iff.mpr (Or.inl h)

theorem getNowMs : s.Onward (getNowMs s).2 := by
  by_cases hready : s.lib.portReady = true
  · simp only [Fdir.getNowMs, hready, if_true]
    exact ⟨rfl, id, fun _ ↦ rfl, id⟩
  · rw [Bool.not_eq_true] at hready
    rw [getNowMs_of_unready hready]
    exact abort s hready

theorem emitEvent (event : Event) : s.Onward (emitEvent s event) := by
  by_cases hready : s.lib.portReady = true
  · simp only [Fdir.emitEvent, hready, if_true]
    exact ⟨rfl, id, fun _ ↦ rfl, id⟩
  · rw [Bool.not_eq_true] at hready
    rw [emitEvent_of_unready hready]
    exact abort s hready

theorem requestReboot (why : CStr) : s.Onward (requestReboot s why) := by
  by_cases hready : s.lib.portReady = true
  · simp only [Fdir.requestReboot, hready, if_true]
    exact log s _
  · rw [Bool.not_eq_true] at hready
    rw [requestReboot_of_unready hready]
    exact abort s hready

end State.Onward

variable {scope : Scope} {s s' : State B}

theorem Act.onward (h : Act scope s s') : s.Onward s' := by
  cases h with
  | clock => exact .getNowMs s
  | stamp id => exact .stamp s id
  | call | consult => exact .log s _
  | reboot why => exact .requestReboot s why
  | write f hf => exact .write s hf.ready
  | event | override => exact (State.Onward.getNowMs s).trans (.emitEvent _ _)
  | mode | mark =>
      exact (State.Onward.write s (by rfl)).trans
        ((State.Onward.getNowMs _).trans (.emitEvent _ _))
  | enrol slot => exact .write s rfl

theorem Work.onward (h : Work scope s s') : s.Onward s' := by
  induction h with
  | refl => exact .refl s
  | tail _ hact ih => exact ih.trans hact.onward

theorem Trail.onward (h : Trail scope s s') : s.Onward s' := by
  induction h with
  | refl => exact .refl s
  | tail _ hstretch ih =>
      apply ih.trans
      cases hstretch with
      | critical hwork =>
          exact (State.Onward.syncEnter _).trans ((Work.onward hwork).trans (.syncExit _))
      | clock => exact .getNowMs _
      | call => exact .log _ _

/-! ## Calls that abort -/

@[simp] theorem syncEnter_aborted (s : State B) :
    (syncEnter s).world.aborted = s.world.aborted := by
  unfold syncEnter
  split <;> rfl

@[simp] theorem syncExit_aborted (s : State B) :
    (syncExit s).world.aborted = s.world.aborted := by
  unfold syncExit
  split <;> rfl

theorem Work.aborted (h : Work .all s s') (haborted : s.world.aborted = true) :
    s'.world.aborted = true :=
  h.onward.aborted haborted

section Aborts

variable (hready : s.lib.portReady = false)
include hready

theorem supervisionEnabled_of_unready :
    supervisionEnabled s = (s.lib.supervisionEnabled, s) := by
  simp only [supervisionEnabled, syncEnter_of_unready hready, syncExit_of_unready hready]

theorem getNowMs_aborts : (getNowMs s).2.world.aborted = true := by
  rw [getNowMs_of_unready hready]
  rfl

theorem emitEventFull_aborts (kind : EventKind) (mode : Mode) (entity : EntityId)
    (reason : Reason) (errorCode : UInt16) (level : Level) (phase : Phase)
    (detail : Option CStr) :
    (emitEventFull s kind mode entity reason errorCode level phase detail).world.aborted =
      true := by
  rw [emitEventFull_of_unready hready]
  rfl

theorem setMode_aborts {mode : Mode} (hmode : s.lib.mode ≠ mode) (entity : EntityId)
    (detail : Option CStr) (report : Option FailureReport) :
    (setMode s mode entity detail report).world.aborted = true := by
  unfold setMode
  rw [if_neg hmode]
  apply Work.aborted (notifySystemHandler_work _ _ _)
  have hwritten : (s.write fun l ↦ { l with mode := mode }).lib.portReady = false := hready
  exact emitEventFull_aborts hwritten _ _ _ _ _ _ _ _

theorem enterSafeModeUnsafe_aborts (hmode : s.lib.mode < .safe) :
    (enterSafeModeUnsafe s).world.aborted = true := by
  have hpending : s.lib.mode ≠ .rebootPending := fun h ↦ absurd (h ▸ hmode) (by decide)
  unfold enterSafeModeUnsafe
  rw [if_pos hpending]
  exact setMode_aborts hready (ne_of_lt hmode) _ _ _

theorem tryRebootUnsafe_aborts (reason : Option CStr) :
    (tryRebootUnsafe s reason).world.aborted = true := by
  have hset : Work .all s _ := setMode_work s .rebootPending entityNone
    (some (reason.getD "reboot".toList)) none
  rw [tryRebootUnsafe, requestReboot_of_unready (hset.onward.ready.trans hready)]
  rfl

theorem healthResetUnsafe_aborts {id : EntityId} (hid : id < s.lib.health.entityLimit) :
    (healthResetUnsafe s id).world.aborted = true := by
  unfold healthResetUnsafe
  rw [if_neg (UInt8.not_le.mpr hid)]
  exact (State.Onward.stamp _ id).aborted (getNowMs_aborts hready)

theorem heartbeatNotify_aborts {id : EntityId} (hid : id < s.lib.health.entityLimit) :
    (heartbeatNotify s id).world.aborted = true := by
  simp only [heartbeatNotify, syncEnter_of_unready hready]
  rw [if_neg (UInt8.not_le.mpr hid), syncExit_aborted]
  exact (State.Onward.stamp _ id).aborted (getNowMs_aborts hready)

theorem markSubsystem_aborts (mark : SubsystemTable → SubsystemId → SubsystemTable)
    (phase : Phase) (detail : CStr) {id : SubsystemId}
    (hid : (s.lib.subsystems.slotOf id).isSome) :
    (markSubsystem mark phase detail s id).world.aborted = true := by
  simp only [markSubsystem, syncEnter_of_unready hready]
  rw [if_pos hid]
  have hmarked : (s.write fun l ↦
      { l with subsystems := mark l.subsystems id }).lib.portReady = false := hready
  rw [syncExit_aborted, emitSubsystemState_of_unready hmarked]
  rfl

theorem reportFaultImpl_aborts {entity : EntityId} {reason : Reason}
    (henabled : s.lib.supervisionEnabled ≠ 0)
    (hlatch : s.lib.health.faultIsLatchedUnsafe entity reason = false)
    (hfailed : s.lib.health.snapshotFailed entity = false) (errorCode : UInt16)
    (detail : Option CStr) (flags : UInt8) :
    (reportFaultImpl s entity reason errorCode detail flags).2.world.aborted = true := by
  simp only [reportFaultImpl, syncEnter_of_unready hready, if_neg henabled, hlatch, hfailed,
    Bool.false_eq_true, if_false]
  have hput (report : FailureReport) :
      (enqueueFailureUnsafe (getNowMs s).2 report).2.world.aborted = true :=
    Work.aborted (enqueueFailureUnsafe_work _ report) (getNowMs_aborts hready)
  split_ifs
  · exact (syncExit_aborted _).trans (hput _)
  · exact (syncExit_aborted _).trans (hput _)

theorem checkWatchdogs_aborts (hs : s.lib.Aligned) :
    (checkWatchdogs s).world.aborted = true :=
  (checkWatchdogs_trail_of_read hs).onward.aborted (getNowMs_aborts hready)

theorem supervisorTick_aborts (hs : s.lib.Aligned) (henabled : s.lib.supervisionEnabled ≠ 0) :
    (supervisorTick s).world.aborted = true := by
  obtain ⟨hdrained, hend⟩ := drainQueue_trail 256 hs
  simp only [supervisorTick, supervisionEnabled_of_unready hready, if_neg henabled]
  exact checkWatchdogs_aborts (hdrained.onward.ready.trans hready) hend

theorem handleFailure_aborts (hs : s.lib.Aligned) (henabled : s.lib.supervisionEnabled ≠ 0)
    {report : FailureReport} (hraises : s.lib.raises report) :
    (handleFailure s (some report)).world.aborted = true := by
  have hraised : (raisedState s report).world.aborted = true := by
    rw [raisedState, syncEnter_of_unready hready]
    exact emitEventFull_aborts hready _ _ _ _ _ _ _ _
  simp only [handleFailure, supervisionEnabled_of_unready hready, if_neg henabled]
  by_cases hunknown : s.lib.entityCount ≤ report.entity ∨
      (s.lib.entities report.entity).used = false
  · rw [handleFailureLocked_of_unknown hraises hunknown, syncExit_aborted]
    exact Work.aborted (enterDegradedModeUnsafe_work _) hraised
  · have hid : report.entity < s.lib.entityCount :=
      UInt8.not_le.mp fun hle ↦ hunknown (Or.inl hle)
    rw [handleFailureLocked_of_known hraises hunknown, syncExit_aborted]
    have hrecovered : Work .all (raisedState s report) _ :=
      recoverEntity_work (raisedState_limit hs hid) trivial trivial (Lib.within_all _ _ _)
    exact hrecovered.aborted hraised

theorem entityRegister_aborts {desc : EntityDesc} (hroom : s.lib.entityCount.toNat < B.entityCap)
    (hexhausted : desc.onExhausted ≠ .restart) :
    (entityRegister s (some desc) true).2.2.world.aborted = true := by
  simp only [entityRegister, syncEnter_of_unready hready, if_neg (Nat.not_le.mpr hroom),
    if_neg hexhausted]
  refine (syncExit_aborted _).trans (healthResetUnsafe_aborts ?_ ?_)
  · exact hready
  · exact (Lib.lt_enroll_entityCount hroom _).mpr (Or.inl rfl)

theorem setSupervisionEnabled_aborts {enabled : UInt8}
    (hchange : s.lib.supervisionEnabled ≠ enabled) :
    (setSupervisionEnabled s enabled).2.world.aborted = true := by
  simp only [setSupervisionEnabled, syncEnter_of_unready hready, if_neg hchange]
  refine (syncExit_aborted _).trans (emitEventFull_aborts ?_ _ _ _ _ _ _ _ _)
  split <;> exact hready

theorem setSystemMode_aborts {code : ℕ} {mode : Mode} (hcode : Mode.ofCode? code = some mode)
    (hpending : mode ≠ .rebootPending) (hmode : s.lib.mode ≠ mode) :
    (setSystemMode s code).2.world.aborted = true := by
  have hset := setMode_aborts hready hmode entityNone (some "ground_mode_set".toList) none
  simp only [setSystemMode, syncEnter_of_unready hready, hcode]
  cases mode with
  | rebootPending => exact absurd rfl hpending
  | nominal | degraded | safe => exact (syncExit_aborted _).trans hset

theorem deescalateSystemMode_aborts (hmode : s.lib.mode = .safe ∨ s.lib.mode = .degraded) :
    (deescalateSystemMode s).2.world.aborted = true := by
  have hset (mode : Mode) (hne : s.lib.mode ≠ mode) :=
    setMode_aborts hready hne entityNone (some "ground_deescalate".toList) none
  simp only [deescalateSystemMode, syncEnter_of_unready hready]
  rcases hmode with hsafe | hdegraded
  · rw [if_pos hsafe]
    exact (syncExit_aborted _).trans (hset .degraded (by simp [hsafe]))
  · rw [if_neg (by simp [hdegraded]), if_pos hdegraded]
    exact (syncExit_aborted _).trans (hset .nominal (by simp [hdegraded]))

/-- A call that reaches a hook of a port that is not ready aborts. -/
theorem after_aborts (hs : s.lib.Aligned) {c : Call} (hc : c.reaches s.lib) :
    (after s c).world.aborted = true := by
  have henter : syncEnter s = s := syncEnter_of_unready hready
  cases c with
  | entityRegister desc outId =>
      obtain ⟨desc', hcall, hroom, hexhausted⟩ := hc
      cases hcall
      exact entityRegister_aborts hready hroom hexhausted
  | setSupervisionEnabled enabled => exact setSupervisionEnabled_aborts hready hc
  | setSystemMode code =>
      obtain ⟨mode, hcode, hpending, hmode⟩ := hc
      exact setSystemMode_aborts hready hcode hpending hmode
  | deescalateSystemMode => exact deescalateSystemMode_aborts hready hc
  | enterDegradedMode =>
      have hmode : s.lib.mode = .nominal := hc
      apply (syncExit_aborted _).trans
      rw [henter, enterDegradedModeUnsafe, if_pos hmode]
      exact setMode_aborts hready (by simp [hmode]) _ _ _
  | enterSafeMode =>
      apply (syncExit_aborted _).trans
      rw [henter]
      exact enterSafeModeUnsafe_aborts hready hc
  | reassessSystemMode =>
      apply (syncExit_aborted _).trans
      rw [henter, evaluateDualPath, if_pos hc.1]
      exact enterSafeModeUnsafe_aborts hready hc.2
  | tryReboot reason =>
      apply (syncExit_aborted _).trans
      rw [henter]
      exact tryRebootUnsafe_aborts hready _
  | logNote | logQueueOverflow =>
      apply (syncExit_aborted _).trans
      rw [henter]
      exact emitEventFull_aborts hready _ _ _ _ _ _ _ _
  | checkWatchdogs => exact checkWatchdogs_aborts hready hs
  | supervisorTick => exact supervisorTick_aborts hready hs hc
  | handleFailure report =>
      obtain ⟨raised, hreport, henabled, hraises⟩ := hc
      subst hreport
      exact handleFailure_aborts hready hs henabled hraises
  | reportFault | reportFaultEx =>
      exact reportFaultImpl_aborts hready hc.1 hc.2.1 hc.2.2 _ _ _
  | heartbeatNotify id => exact heartbeatNotify_aborts hready hc
  | healthReset id =>
      simp only [after, Call.exec, healthReset, henter, if_neg (UInt8.not_le.mpr hc)]
      exact (syncExit_aborted _).trans (healthResetUnsafe_aborts hready hc)
  | subsystemMarkAvailable | subsystemMarkUnavailable | subsystemMarkDegraded =>
      exact markSubsystem_aborts hready _ _ _ hc
  | workerMayRun id =>
      simp only [after, Call.exec, workerMayRun, systemMode, henter,
        syncExit_of_unready hready, if_pos hc.1]
      exact heartbeatNotify_aborts hready hc.2
  | _ => exact hc.elim

end Aborts

end Fdir
