import Fdir.Moves
import Fdir.Marks

/-!
# Mode escalation

The mode only rises, except on a ground command; it reaches REBOOT_PENDING only
together with a call of the reboot hook; and as long as every mark of an
unavailable subsystem is followed by a reassessment, enough unavailable critical
subsystems mean SAFE mode.
-/

namespace Fdir

open Foundation

variable {B : Build}

/-! ## A new subsystem -/

theorem criticalUnavailableCount_enroll_le (l : Lib B) (desc : SubsystemDesc) :
    (l.enrollSubsystem desc).subsystems.criticalUnavailableCount ≤
      l.subsystems.criticalUnavailableCount := by
  have hcount := l.subsystems.subCount.toNat_lt
  refine SubsystemTable.criticalUnavailableCount_le fun i hlt hi ↦ ?_
  have hnext : i < l.subsystems.subCount.toNat + 1 := by
    have hsum : i < (l.subsystems.subCount + 1).toNat := hlt
    rw [UInt8.toNat_add, UInt8.toNat_one] at hsum
    omega
  by_cases hid : UInt8.ofNat i = l.subsystems.subCount
  · simp [SubsystemTable.criticalUnavailable, Lib.enrollSubsystem, hid, registeredSubsystem]
      at hi
  · have hne : i ≠ l.subsystems.subCount.toNat := by
      rintro rfl
      exact hid UInt8.ofNat_toNat
    refine ⟨by omega, ?_⟩
    simpa [SubsystemTable.criticalUnavailable, Lib.enrollSubsystem, hid] using hi

/-! ## The mode only rises -/

/-- The calls through which ground sets the mode. -/
def Call.commands (c : Call) : Prop :=
  c = .deescalateSystemMode ∨ ∃ code, c = .setSystemMode code

theorem Lib.mode_le_review (l : Lib B) : l.mode ≤ l.review.mode := by
  simp only [Lib.review]
  split
  · exact le_max_left _ _
  · exact le_refl _

theorem Lib.mode_le_handle (l : Lib B) (ans : Answers) (report : FailureReport) :
    l.mode ≤ (l.handle ans report).mode := by
  unfold Lib.handle
  split_ifs
  · exact le_refl _
  · exact le_max_left _ _
  · have hstrike : l.mode ≤ ((l.setRecord report.entity (l.verdict ans report).1).strike
        (l.entities report.entity).desc.linkedSubsystem (l.verdict ans report).2).mode :=
      le_max_left _ _
    exact hstrike.trans (Lib.mode_le_review _)

theorem Effect.mode_le {c : Call} {l l' : Lib B} (hc : ¬ c.commands) (he : Effect c l l') :
    l.mode ≤ l'.mode := by
  cases he with
  | command mode hcall => exact absurd hcall hc
  | raise mode => exact le_max_left _ _
  | review => exact Lib.mode_le_review l
  | handle ans report => exact Lib.mode_le_handle l ans report
  | watch ans id now => exact Lib.mode_le_handle l ans _
  | dequeue ans report =>
      exact Lib.mode_le_handle { l with queue := l.queue.getUnsafe.2 } ans report
  | _ => exact le_refl _

theorem mode_le_after {s : State B} (hs : s.lib.Sound) {c : Call} (hc : ¬ c.commands) :
    s.lib.mode ≤ (after s c).lib.mode :=
  ((after_effects hs.limit_eq c).invariant (fun l ↦ s.lib.mode ≤ l.mode)
    (fun _ _ _ hle he ↦ hle.trans (he.mode_le hc)) hs (le_refl _)).2

/-! ## REBOOT_PENDING comes with a reboot request -/

/-- A MODE_CHANGE to REBOOT_PENDING, followed by a call of the reboot hook. -/
def Announces (new : List Obs) : Prop :=
  ∃ before e between why rest, new = before ++ .event e :: (between ++ .reboot why :: rest) ∧
    e.kind = .modeChange ∧ e.mode = .rebootPending

theorem Announces.append {new : List Obs} (h : Announces new) (more : List Obs) :
    Announces (new ++ more) := by
  obtain ⟨before, e, between, why, rest, rfl, hkind, hmode⟩ := h
  exact ⟨before, e, between, why, rest ++ more, by simp, hkind, hmode⟩

theorem Announces.prepend {new : List Obs} (h : Announces new) (old : List Obs) :
    Announces (old ++ new) := by
  obtain ⟨before, e, between, why, rest, rfl, hkind, hmode⟩ := h
  exact ⟨old ++ before, e, between, why, rest, by simp, hkind, hmode⟩

/-- If the mode becomes REBOOT_PENDING from `s` to `s'`, the new interactions
announce it. -/
def State.Announced (s s' : State B) : Prop :=
  ∃ new, s'.world.trace = s.world.trace ++ new ∧
    (s.lib.mode ≠ .rebootPending → s'.lib.mode = .rebootPending → Announces new)

namespace State.Announced

variable {s s' s'' : State B}

theorem trans (h : s.Announced s') (h' : s'.Announced s'') : s.Announced s'' := by
  obtain ⟨new, htrace, hnew⟩ := h
  obtain ⟨new', htrace', hnew'⟩ := h'
  refine ⟨new ++ new', by rw [htrace', htrace, List.append_assoc], fun hne heq ↦ ?_⟩
  by_cases hmid : s'.lib.mode = .rebootPending
  · exact (hnew hne hmid).append new'
  · exact (hnew' hmid heq).prepend new

theorem of_evolves {P : Obs → Prop} (h : Evolves P s s')
    (hmode : s.lib.mode ≠ .rebootPending → s'.lib.mode ≠ .rebootPending) : s.Announced s' := by
  obtain ⟨new, htrace, -⟩ := h.trace
  exact ⟨new, htrace, fun hne heq ↦ absurd heq (hmode hne)⟩

theorem of_mode_eq {P : Obs → Prop} (h : Evolves P s s') (hmode : s'.lib.mode = s.lib.mode) :
    s.Announced s' :=
  of_evolves h (by rw [hmode]; exact id)

end State.Announced

theorem max_ne_rebootPending {mode mode' : Mode} (h : mode ≠ .rebootPending)
    (h' : mode' ≠ .rebootPending) : max mode mode' ≠ .rebootPending := by
  rcases max_choice mode mode' with hmax | hmax
  · rwa [hmax]
  · rwa [hmax]

section Announced

variable (s : State B)

theorem trace_setMode (hready : s.lib.portReady = true) {mode : Mode} (hmode : s.lib.mode ≠ mode)
    (entity : EntityId) (detail : Option CStr) (report : Option FailureReport) :
    ∃ (e : Event) (ms : UInt32) (more : List Obs),
      (setMode s mode entity detail report).world.trace =
      s.world.trace ++ .clock ms :: .event e :: more ∧ e.kind = .modeChange ∧ e.mode = mode := by
  let changed := s.write fun l ↦ { l with mode := mode }
  obtain ⟨e, ms, htrace, hkind, hevent, -⟩ := trace_emitEventFull changed hready .modeChange mode
    entity .user 0 .system .raised detail
  obtain ⟨more, hmore, -⟩ := (silent_notifySystemHandler (emitEventFull changed .modeChange mode
    entity .user 0 .system .raised detail) mode report).trace
  refine ⟨e, ms, more, ?_, hkind, hevent⟩
  simp only [setMode, if_neg hmode, State.write_lib, emitEventFull_lib]
  rw [hmore, htrace]
  simp [changed]

/-- The mode changes before the hook is called. -/
theorem announced_tryRebootUnsafe (hready : s.lib.portReady = true) (reason : Option CStr) :
    s.Announced (tryRebootUnsafe s reason) := by
  by_cases hmode : s.lib.mode = .rebootPending
  · exact .of_evolves (silent_tryRebootUnsafe s reason) fun hne ↦ absurd hmode hne
  · have hrun : (tryRebootUnsafe s reason).lib.mode = .rebootPending := by
      rw [tryRebootUnsafe_lib]
      exact max_eq_right (Mode.le_rebootPending s.lib.mode)
    obtain ⟨e, ms, more, htrace, hkind, hpending⟩ :=
      trace_setMode s hready hmode entityNone (some (reason.getD "reboot".toList)) none
    have hready' : (setMode s .rebootPending entityNone (some (reason.getD "reboot".toList))
        none).lib.portReady = true := by
      rw [setMode_lib]
      exact hready
    have hreboot : (tryRebootUnsafe s reason).world.trace = s.world.trace ++
        ([.clock ms] ++ .event e :: (more ++ [.reboot (reason.getD "reboot".toList)])) := by
      simp only [tryRebootUnsafe, requestReboot, if_pos hready', State.log_trace, htrace]
      simp
    exact ⟨_, hreboot, fun _ _ ↦ ⟨[.clock ms], e, more, _, [], rfl, hkind, hpending⟩⟩

theorem announced_enterDegradedModeUnsafe : s.Announced (enterDegradedModeUnsafe s) := by
  refine .of_evolves (silent_enterDegradedModeUnsafe s) fun hne ↦ ?_
  rw [enterDegradedModeUnsafe_lib]
  exact max_ne_rebootPending hne (by decide)

theorem announced_enterSafeModeUnsafe : s.Announced (enterSafeModeUnsafe s) := by
  refine .of_evolves (silent_enterSafeModeUnsafe s) fun hne ↦ ?_
  rw [enterSafeModeUnsafe_lib]
  exact max_ne_rebootPending hne (by decide)

theorem announced_evaluateDualPath : s.Announced (evaluateDualPath s) := by
  refine .of_evolves (silent_evaluateDualPath s) fun hne ↦ ?_
  rw [evaluateDualPath_lib, Lib.review]
  split
  · exact max_ne_rebootPending hne (by decide)
  · exact hne

theorem announced_markLinked (mark : SubsystemTable → SubsystemId → SubsystemTable)
    (detail : CStr) (id : EntityId) (report : FailureReport) :
    s.Announced (markLinked mark detail s id report) :=
  .of_mode_eq (silent_markLinked s mark detail id report) (by rw [markLinked_lib])

theorem announced_applyFinalAction (hready : s.lib.portReady = true) (id : EntityId)
    (action : Action) (report : FailureReport) :
    s.Announced (applyFinalAction s id action report) := by
  cases action with
  | degrade =>
      exact (announced_markLinked s _ _ id report).trans (announced_enterDegradedModeUnsafe _)
  | unavailable =>
      exact (announced_markLinked s _ _ id report).trans
        ((announced_enterDegradedModeUnsafe _).trans (announced_evaluateDualPath _))
  | safe => exact (announced_markLinked s _ _ id report).trans (announced_enterSafeModeUnsafe _)
  | reboot =>
      refine (announced_markLinked s _ _ id report).trans (announced_tryRebootUnsafe _ ?_ _)
      rw [markLinked_lib]
      exact hready
  | none | restart | other code => exact .of_mode_eq (Evolves.refl s : Evolves Obs.silent s s) rfl

end Announced

theorem announced_applyAction {s : State B} (hready : s.lib.portReady = true) {id : EntityId}
    (hid : id < s.lib.health.entityLimit) (hlatched : s.lib.health.faultLatched id = true)
    (action : Action) (report : FailureReport) :
    s.Announced (applyAction s id action report) := by
  simp only [applyAction]
  split
  · have hevolves := evolves_tryRestart report.reason hready hid hlatched
    have hlib := tryRestart_lib hid report.reason
      ⟨.none, .none, restartAnswer s id report.reason, restartClock s id report.reason⟩ rfl rfl
    have hrestart : s.Announced (tryRestart s id report.reason).2 :=
      .of_mode_eq hevolves (by rw [hlib]; rfl)
    split
    · exact hrestart.trans (announced_applyFinalAction _ (hevolves.ready.trans hready) _ _ _)
    · exact hrestart
  · exact announced_applyFinalAction s hready id action report

theorem announced_recoverEntity {s : State B} (hready : s.lib.portReady = true)
    {report : FailureReport} (hid : report.entity < s.lib.health.entityLimit) :
    s.Announced (recoverEntity s report) := by
  have hresolved := silent_resolvedState s report
  have happlied := announced_applyAction (hresolved.ready.trans hready) (resolvedState_limit hid)
    (resolvedState_latched hid).1 (s.lib.action (answers s report) report) report
  rw [recoverEntity_eq hid]
  exact (State.Announced.of_mode_eq hresolved (resolvedState_mode hid)).trans
    (happlied.trans (announced_evaluateDualPath _))

theorem announced_handleFailureLocked {s : State B} (hs : s.lib.Sound)
    (report : FailureReport) : s.Announced (handleFailureLocked s report) := by
  have hexit : ∀ s' : State B, s'.Announced (syncExit s') := fun s' ↦
    .of_mode_eq (silent_syncExit s') (by rw [syncExit_lib])
  by_cases hraises : s.lib.raises report
  · have hraised : s.Announced (raisedState s report) :=
      .of_mode_eq (raisedState_world hs report).1 (by rw [raisedState_lib])
    by_cases hid : report.entity < s.lib.entityCount
    · rw [handleFailureLocked_of_known hraises (hs.known hid)]
      have hrecovered := announced_recoverEntity (raisedState_ready hs report)
        (raisedState_limit hs.limit_eq hid)
      exact hraised.trans (hrecovered.trans (hexit _))
    · rw [handleFailureLocked_of_unknown hraises (Or.inl (UInt8.not_lt.mp hid))]
      exact hraised.trans ((announced_enterDegradedModeUnsafe _).trans (hexit _))
  · have hlatched : s.lib.health.faultIsLatchedUnsafe report.entity report.reason = true := by
      simpa [Lib.raises] using hraises
    rw [handleFailureLocked_of_latched hlatched]
    exact .of_mode_eq ((silent_syncEnter s).trans (silent_syncExit _)) (by simp)

theorem Move.announced {s s' : State B} (hs : s.lib.Sound) (h : Move s s') : s.Announced s' := by
  cases h with
  | idle hworld hlib =>
      obtain ⟨queue, hqueue⟩ := hlib
      exact .of_mode_eq hworld (by rw [hqueue])
  | handled report => exact announced_handleFailureLocked hs report

/-- No other call than a reboot request sets REBOOT_PENDING on its own. -/
theorem Effect.mode_ne {c : Call} {l l' : Lib B} (hc : ¬ c.handles)
    (hreboot : ∀ why, c ≠ .tryReboot why) (he : Effect c l l')
    (hmode : l.mode ≠ .rebootPending) : l'.mode ≠ .rebootPending := by
  cases he with
  | command mode _ hne => exact hne
  | raise mode htarget =>
      refine max_ne_rebootPending hmode fun h ↦ ?_
      obtain ⟨why, rfl⟩ := htarget h
      exact hreboot why rfl
  | review =>
      simp only [Lib.review]
      split
      · exact max_ne_rebootPending hmode (by decide)
      · exact hmode
  | handle ans report hcall =>
      subst hcall
      exact absurd trivial hc
  | watch ans id now maxAge hcall =>
      rcases hcall with rfl | rfl
      · exact absurd trivial hc
      · exact absurd trivial hc
  | dequeue ans report hcall =>
      subst hcall
      exact absurd trivial hc
  | _ => exact hmode

theorem announced_after {s : State B} (hs : s.lib.Sound) (c : Call) :
    s.Announced (after s c) := by
  by_cases hc : c.handles
  · exact ((moves_after s hc).invariant s.Announced
      (fun _ _ hsound h hmove ↦ h.trans (hmove.announced hsound)) hs
      (.of_mode_eq (Evolves.refl s : Evolves Obs.silent s s) rfl)).2
  · by_cases hreboot : ∃ why, c = .tryReboot why
    · obtain ⟨why, rfl⟩ := hreboot
      have henter : s.Announced (syncEnter s) :=
        .of_mode_eq (silent_syncEnter s) (by rw [syncEnter_lib])
      have hready : (syncEnter s).lib.portReady = true := by
        rw [syncEnter_lib]
        exact hs.ready
      have hexit : (tryRebootUnsafe (syncEnter s) why).Announced (after s (.tryReboot why)) :=
        .of_mode_eq (silent_syncExit _)
          (congrArg Lib.mode (syncExit_lib (tryRebootUnsafe (syncEnter s) why)))
      exact henter.trans ((announced_tryRebootUnsafe _ hready why).trans hexit)
    · have htick : c ≠ .supervisorTick := by
        rintro rfl
        exact hc trivial
      have hscan : c ≠ .checkWatchdogs := by
        rintro rfl
        exact hc trivial
      have heffect := after_effect hs.limit_eq htick hscan
      exact .of_evolves (silent_after hs.ready hc)
        (heffect.mode_ne hc fun why h ↦ hreboot ⟨why, h⟩)

/-! ## Enough unavailable critical subsystems mean SAFE -/

/-- The dual-path rule holds. -/
def Lib.Reviewed (l : Lib B) : Prop :=
  l.config.safeModeCriticalFailureThreshold ≤ l.subsystems.criticalUnavailableCount →
    .safe ≤ l.mode

theorem Lib.reviewed_review (l : Lib B) : l.review.Reviewed := by
  intro hreached
  have hcount : l.config.safeModeCriticalFailureThreshold ≤
      l.subsystems.criticalUnavailableCount := hreached
  change Mode.safe ≤ if l.config.safeModeCriticalFailureThreshold ≤
    l.subsystems.criticalUnavailableCount then max l.mode .safe else l.mode
  rw [if_pos hcount]
  exact le_max_right _ _

/-- A step that keeps the threshold and raises neither the count nor lowers the
mode keeps the rule. -/
theorem Lib.Reviewed.mono {l l' : Lib B} (h : l.Reviewed) (hconfig : l'.config = l.config)
    (hcount : l'.subsystems.criticalUnavailableCount ≤ l.subsystems.criticalUnavailableCount)
    (hmode : l.mode ≤ l'.mode) : l'.Reviewed := by
  intro hreached
  rw [hconfig] at hreached
  exact (h (UInt8.le_trans hreached hcount)).trans hmode

theorem Lib.Reviewed.handle {l : Lib B} (h : l.Reviewed) (ans : Answers)
    (report : FailureReport) : (l.handle ans report).Reviewed := by
  unfold Lib.handle
  split_ifs
  · exact h
  · exact h.mono rfl (UInt8.le_refl _) (le_max_left _ _)
  · exact Lib.reviewed_review _

theorem Effect.reviewed {c : Call} {l l' : Lib B} (hc : ¬ c.commands)
    (hmark : ∀ id, c ≠ .subsystemMarkUnavailable id) (h : l.Reviewed) (he : Effect c l l') :
    l'.Reviewed := by
  cases he with
  | enrollSubsystem desc =>
      exact h.mono rfl (criticalUnavailableCount_enroll_le l desc) (le_refl _)
  | command mode hcall => exact absurd hcall hc
  | raise mode => exact h.mono rfl (UInt8.le_refl _) (le_max_left _ _)
  | review => exact Lib.reviewed_review l
  | mark mark id hcall =>
      refine h.mono rfl ?_ (le_refl _)
      cases hcall with
      | available =>
          exact SubsystemTable.criticalUnavailableCount_updateSlot_le _ _ (fun _ ↦ rfl)
            (fun _ ↦ rfl) fun _ _ ↦ rfl
      | unavailable => exact absurd rfl (hmark id)
      | degraded =>
          exact SubsystemTable.criticalUnavailableCount_updateSlot_le _ _ (fun _ ↦ rfl)
            (fun _ ↦ rfl) fun _ havailable ↦ havailable
  | handle ans report => exact h.handle ans report
  | watch ans id now => exact h.handle ans _
  | dequeue ans report =>
      apply Lib.Reviewed.handle
      exact h
  | _ => exact h

/-- Every public mark of an unavailable subsystem is followed at once by a
reassessment. -/
inductive Paired : List Call → Prop where
  | nil : Paired []
  | marked (id : SubsystemId) {calls : List Call} (h : Paired calls) :
      Paired (.subsystemMarkUnavailable id :: .reassessSystemMode :: calls)
  | other (c : Call) {calls : List Call} (hc : ∀ id, c ≠ .subsystemMarkUnavailable id)
      (h : Paired calls) : Paired (c :: calls)

theorem after_command_lib {s : State B} {c : Call} (hc : c.commands) :
    (after s c).lib = { s.lib with mode := (after s c).lib.mode } := by
  rcases hc with rfl | ⟨code, rfl⟩
  · change (deescalateSystemMode s).2.lib =
      { s.lib with mode := (deescalateSystemMode s).2.lib.mode }
    simp only [deescalateSystemMode]
    split_ifs <;> simp
  · change (setSystemMode s code).2.lib = { s.lib with mode := (setSystemMode s code).2.lib.mode }
    simp only [setSystemMode]
    split <;> simp

theorem after_reviewed {s : State B} (hs : s.lib.Sound) (h : s.lib.Reviewed) {c : Call}
    (hmark : ∀ id, c ≠ .subsystemMarkUnavailable id)
    (hmode : s.lib.mode ≤ (after s c).lib.mode) : (after s c).lib.Reviewed := by
  by_cases hc : c.commands
  · rw [after_command_lib hc]
    exact h.mono rfl (UInt8.le_refl _) hmode
  · exact ((after_effects hs.limit_eq c).invariant Lib.Reviewed
      (fun _ _ _ hI he ↦ he.reviewed hc hmark hI) hs h).2

theorem run_reviewed {s : State B} (hs : s.lib.Sound) (h : s.lib.Reviewed) {calls : List Call}
    (hpaired : Paired calls)
    (hmode : Run.Along after (fun s c ↦ s.lib.mode ≤ (after s c).lib.mode) s calls) :
    (Run.run after s calls).lib.Reviewed := by
  induction hpaired generalizing s with
  | nil => exact h
  | marked id _ ih =>
      refine ih (after_sound (after_sound hs _) _) ?_ hmode.2.2
      simp only [after, Call.exec, reassessSystemMode, syncExit_lib, evaluateDualPath_lib]
      exact Lib.reviewed_review _
  | other c hc _ ih => exact ih (after_sound hs c) (after_reviewed hs h hc hmode.1) hmode.2

theorem run_config {s : State B} (hs : s.lib.Sound) (calls : List Call) :
    (Run.run after s calls).lib.Sound ∧ (Run.run after s calls).lib.config = s.lib.config :=
  Run.invariant (fun s' : State B ↦ s'.lib.Sound ∧ s'.lib.config = s.lib.config)
    (fun _ c h ↦ ⟨after_sound h.1 c, (after_config h.1 c).trans h.2⟩) ⟨hs, rfl⟩ calls

theorem started_reviewed {clock : ℕ} {pace : List Obs → ℕ} {config : Option Config}
    {lock unlock : Bool}
    (hthreshold : 1 ≤ (started clock pace config lock unlock :
      State B).lib.config.safeModeCriticalFailureThreshold) :
    (started clock pace config lock unlock : State B).lib.Reviewed := by
  intro hreached
  have hzero : (started clock pace config lock unlock :
      State B).lib.subsystems.criticalUnavailableCount = 0 := rfl
  rw [hzero] at hreached
  exact absurd (UInt8.le_trans hthreshold hreached) (by decide)

/-- Escalation over whole runs.  No call but a ground command lowers the mode; a
call that reaches REBOOT_PENDING calls the reboot hook after its change of mode;
and while marks are paired with reassessments and ground lowers nothing, enough
unavailable critical subsystems mean at least SAFE. -/
theorem mode_escalation (clock : ℕ) (pace : List Obs → ℕ) (config : Option Config)
    (lock unlock : Bool) (calls : List Call) :
    let s : State B := Run.run after (started clock pace config lock unlock) calls
    (∀ c, (∀ code, c ≠ .setSystemMode code) → c ≠ .deescalateSystemMode →
        s.lib.mode ≤ (after s c).lib.mode) ∧
      (∀ c, s.lib.mode ≠ .rebootPending → (after s c).lib.mode = .rebootPending →
        ∃ before e between why rest,
          (after s c).world.trace = s.world.trace ++
            (before ++ .event e :: (between ++ .reboot why :: rest)) ∧
          e.kind = .modeChange ∧ e.mode = .rebootPending) ∧
      (1 ≤ s.lib.config.safeModeCriticalFailureThreshold → Paired calls →
        Run.Along after (fun s c ↦ s.lib.mode ≤ (after s c).lib.mode)
          (started clock pace config lock unlock : State B) calls →
        s.lib.config.safeModeCriticalFailureThreshold ≤
          s.lib.subsystems.criticalUnavailableCount →
        s.lib.mode = .safe ∨ s.lib.mode = .rebootPending) := by
  intro s
  have hstarted : (started clock pace config lock unlock : State B).lib.Sound :=
    started_sound clock pace config lock unlock
  obtain ⟨hsound, hconfig⟩ := run_config hstarted calls
  refine ⟨?_, ?_, ?_⟩
  · intro c hset hdeescalate
    refine mode_le_after hsound ?_
    rintro (rfl | ⟨code, rfl⟩)
    · exact hdeescalate rfl
    · exact hset code rfl
  · intro c hne hpending
    obtain ⟨new, htrace, hnew⟩ := announced_after hsound c
    obtain ⟨before, e, between, why, rest, rfl, hkind, hmode⟩ := hnew hne hpending
    exact ⟨before, e, between, why, rest, htrace, hkind, hmode⟩
  · intro hthreshold hpaired hmode hreached
    have hsafe : Mode.safe ≤ s.lib.mode := by
      refine run_reviewed hstarted (started_reviewed ?_) hpaired hmode hreached
      rw [← hconfig]
      exact hthreshold
    rw [Mode.le_iff_code] at hsafe
    cases hcase : s.lib.mode with
    | safe => exact Or.inl rfl
    | rebootPending => exact Or.inr rfl
    | nominal | degraded =>
        rw [hcase] at hsafe
        exact absurd hsafe (by decide)

/-- The last rule on a run that marks a critical subsystem. -/
theorem mode_escalation_marked :
    let config : Config := { configDefault with safeModeCriticalFailureThreshold := 1 }
    let desc : SubsystemDesc := { SubsystemDesc.zero with isCriticalPath := true }
    let calls : List Call := [.subsystemRegister (some desc) true, .subsystemMarkUnavailable 0,
      .reassessSystemMode]
    let s : State .default := Run.run after (started 0 (fun _ ↦ 1) (some config) true true) calls
    s.lib.mode = .safe ∨ s.lib.mode = .rebootPending :=
  (mode_escalation 0 (fun _ ↦ 1) _ true true _).2.2 (by decide)
    (.other _ (fun _ h ↦ by cases h) (.marked 0 .nil))
    ⟨by decide, by decide, by decide, trivial⟩ (by decide)

end Fdir
