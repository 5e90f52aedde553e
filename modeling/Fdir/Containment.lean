import Fdir.Wear

/-!
# Escalation stays within its ceiling

The library raises the mode no further than its users ask.  Let no call ask for a mode above a
ceiling, let neither a fallback of an entity nor an answer of a callback name an action above
it, and let the critical subsystems be too few for the dual-path rule.  Then the mode stays at
or below the ceiling under any interleaving.
-/

namespace Fdir

open Foundation

variable {B : Build}

/-! ## What is asked for -/

/-- The highest mode a call asks for itself. -/
def Call.aim : Call → Mode
  | .setSystemMode code => (Mode.ofCode? code).getD .nominal
  | .enterDegradedMode => .degraded
  | .enterSafeMode => .safe
  | .tryReboot _ => .rebootPending
  | _ => .nominal

def Turn.aim : Turn → Mode
  | .call _ c => c.aim
  | .advance _ | .elapse _ => .nominal

/-- No action that the entity falls back to or its `decide` answers is above the ceiling. -/
structure EntityDesc.Within (ceiling : Mode) (desc : EntityDesc) : Prop where
  exhausted : desc.onExhausted.floor ≤ ceiling
  decide : ∀ f ∈ desc.decide, ∀ context id report restarts watchdogRestarts user,
    (f context id report restarts watchdogRestarts user).floor ≤ ceiling

theorem EntityDesc.Within.of_isNone {ceiling : Mode} {desc : EntityDesc}
    (hexhausted : desc.onExhausted.floor ≤ ceiling) (hdecide : desc.decide.isNone) :
    desc.Within ceiling := by
  refine ⟨hexhausted, fun f hf ↦ ?_⟩
  rw [Option.isNone_iff_eq_none.mp hdecide] at hf
  cases hf

/-- No override of the subsystem is above the ceiling. -/
def SubsystemDesc.Within (ceiling : Mode) (desc : SubsystemDesc) : Prop :=
  ∀ f ∈ desc.onEntityExhausted, ∀ context sub id report user,
    (f context sub id report user).floor ≤ ceiling

/-- Subsystem `i` is on the critical path. -/
def SubsystemTable.critical (t : SubsystemTable) (i : ℕ) : Bool :=
  (t.subs (UInt8.ofNat i)).used && (t.subs (UInt8.ofNat i)).desc.isCriticalPath

/-- The number of registered subsystems on the critical path. -/
def SubsystemTable.criticalCount (t : SubsystemTable) : ℕ :=
  (List.range t.subCount.toNat).countP t.critical

/-- What the application has registered stays within the ceiling. -/
structure Lib.Contained (l : Lib B) (ceiling : Mode) : Prop where
  entity : ∀ id < l.entityCount, (l.entities id).desc.Within ceiling
  subsystem : ∀ id < l.subsystems.subCount, (l.subsystems.subs id).desc.Within ceiling
  critical : .safe ≤ ceiling ∨
    l.subsystems.criticalCount < l.config.safeModeCriticalFailureThreshold.toNat

/-! ## Registrations only add to it -/

theorem SubsystemTable.criticalUnavailableCount_le_criticalCount (t : SubsystemTable) :
    t.criticalUnavailableCount.toNat ≤ t.criticalCount := by
  rw [t.toNat_criticalUnavailableCount]
  refine List.countP_mono_left fun i _ hi ↦ ?_
  simp only [criticalUnavailable, Bool.and_eq_true] at hi
  simpa only [critical, Bool.and_eq_true] using hi.1

theorem SubsystemTable.lt_of_slotOf {t : SubsystemTable} {id : SubsystemId}
    {slot : SubsystemSlot} (h : t.slotOf id = some slot) : id < t.subCount := by
  unfold slotOf at h
  split at h
  · cases h
  · next hknown =>
    rw [Bool.or_eq_true, decide_eq_true_eq, not_or] at hknown
    exact UInt8.not_le.mp hknown.1

theorem Lib.Lasts.criticalCount_le {l l' : Lib B} (h : l.Lasts l') :
    l.subsystems.criticalCount ≤ l'.subsystems.criticalCount := by
  have hle := UInt8.le_iff_toNat_le.mp h.subCount_le
  have hbound := l.subsystems.subCount.toNat_lt
  have hsame : l.subsystems.criticalCount =
      (List.range l.subsystems.subCount.toNat).countP l'.subsystems.critical := by
    refine List.countP_congr fun i hi ↦ ?_
    have hid : UInt8.ofNat i < l.subsystems.subCount := by
      rw [UInt8.lt_iff_toNat_lt, UInt8.toNat_ofNat', Nat.mod_eq_of_lt]
      · exact List.mem_range.mp hi
      · exact (List.mem_range.mp hi).trans hbound
    have hslot := h.subsystem _ hid
    simp only [SubsystemTable.critical, hslot.used, hslot.desc]
  rw [hsame]
  exact (List.range_sublist.mpr hle).countP_le

/-- What is contained in the end was contained all along. -/
theorem Lib.Contained.of_lasts {l l' : Lib B} {ceiling : Mode} (h : l'.Contained ceiling)
    (hlasts : l.Lasts l') (hconfig : l'.config = l.config) : l.Contained ceiling where
  entity id hid := by
    have hwithin := h.entity id (UInt8.lt_of_lt_of_le hid hlasts.entityCount_le)
    rwa [(hlasts.entity id hid).desc] at hwithin
  subsystem id hid := by
    have hwithin := h.subsystem id (UInt8.lt_of_lt_of_le hid hlasts.subCount_le)
    rwa [(hlasts.subsystem id hid).desc] at hwithin
  critical := by
    rw [← hconfig]
    exact h.critical.imp_right hlasts.criticalCount_le.trans_lt

/-! ## The handling of a report -/

section Handling

variable {l : Lib B} {ans : Answers} {report : FailureReport} {ceiling : Mode}

theorem floor_defaultDecide_le {slot : EntitySlot} (h : slot.desc.onExhausted.floor ≤ ceiling) :
    (defaultDecide slot report).floor ≤ ceiling := by
  unfold defaultDecide
  split_ifs
  · exact Mode.nominal_le _
  · exact h
  · exact Mode.nominal_le _
  · exact h

/-- What the answers of the callbacks come to. -/
structure Answers.Within (l : Lib B) (report : FailureReport) (ceiling : Mode) (ans : Answers) :
    Prop where
  decide : (l.entities report.entity).desc.decide.isSome → ans.decide.floor ≤ ceiling
  exhausted : (l.subsystems.handler (l.entities report.entity).desc.linkedSubsystem).isSome →
    ans.exhausted.floor ≤ ceiling

theorem Lib.floor_action_le (hans : ans.Within l report ceiling)
    (hdesc : (l.entities report.entity).desc.onExhausted.floor ≤ ceiling) :
    (l.action ans report).floor ≤ ceiling := by
  have hchoose : (((l.record report.entity).fail B report).choose ans report).floor ≤ ceiling := by
    unfold Record.choose
    split
    · next hdecide => exact hans.decide hdecide.1
    · exact floor_defaultDecide_le hdesc
  unfold Lib.action Lib.resolve
  split_ifs with hpass hhandler
  · exact hchoose
  · exact hans.exhausted hhandler.1
  · exact hchoose

theorem Lib.floor_verdict_le (hans : ans.Within l report ceiling)
    (hdesc : (l.entities report.entity).desc.onExhausted.floor ≤ ceiling) :
    (l.verdict ans report).2.floor ≤ ceiling := by
  have hfallback : ((l.record report.entity).fail B report).fallback.floor ≤ ceiling := by
    unfold Record.fallback
    split
    · exact Mode.nominal_le _
    · exact hdesc
  unfold Lib.verdict Record.settle
  split_ifs
  · exact Mode.nominal_le _
  · exact hfallback
  · exact hfallback
  · exact Lib.floor_action_le hans hdesc

theorem Lib.mode_review_le (hmode : l.mode ≤ ceiling) (hcritical : .safe ≤ ceiling ∨
    l.subsystems.criticalCount < l.config.safeModeCriticalFailureThreshold.toNat) :
    l.review.mode ≤ ceiling := by
  simp only [Lib.review]
  split
  · next hreached =>
    rcases hcritical with hsafe | hfew
    · exact max_le hmode hsafe
    · have hcount := l.subsystems.criticalUnavailableCount_le_criticalCount
      have hreached' := UInt8.le_iff_toNat_le.mp hreached
      omega
  · exact hmode

theorem Lib.mode_handle_le (hdegraded : .degraded ≤ ceiling)
    (hmode : l.mode ≤ ceiling) (h : (l.handle ans report).Contained ceiling)
    (hans : report.entity < l.entityCount → ans.Within l report ceiling) :
    (l.handle ans report).mode ≤ ceiling := by
  have hbefore : l.Contained ceiling :=
    h.of_lasts (Lib.lasts_handle l ans report) (Lib.handle_config l ans report)
  revert h
  unfold Lib.handle
  split_ifs with hlatched hunknown
  · exact fun _ ↦ hmode
  · exact fun _ ↦ max_le hmode hdegraded
  · intro h
    have hid : report.entity < l.entityCount :=
      UInt8.not_le.mp fun hle ↦ hunknown (Or.inl hle)
    refine Lib.mode_review_le (max_le hmode ?_) h.critical
    exact Lib.floor_verdict_le (hans hid) (hbefore.entity _ hid).exhausted

end Handling

/-! ## The answers of the callbacks -/

theorem answers_within {s : State B} {report : FailureReport} {ceiling : Mode}
    (hs : s.lib.Sound) (hid : report.entity < s.lib.entityCount)
    (h : s.lib.Contained ceiling) :
    (answers (raisedState s report) report).Within s.lib report ceiling := by
  have hlib : (raisedState s report).lib = s.lib := raisedState_lib s report
  have hlimit : report.entity < (raisedState s report).lib.health.entityLimit := by
    rw [hlib, hs.limit_eq]
    exact hid
  constructor
  · intro hdecide
    obtain ⟨f, hf⟩ := Option.isSome_iff_exists.mp hdecide
    have hanswer := (h.entity _ hid).decide f hf
    simp only [answers, decideAnswer, failedState_entities hlimit, hlib, hf]
    exact hanswer _ _ _ _ _ _
  · intro hhandler
    have hsubs :
        (chooseAction (failedState (raisedState s report) report) report).2.lib.subsystems =
          s.lib.subsystems := by
      rw [chooseAction_lib, failedState_lib hlimit, hlib]
      rfl
    simp only [answers, hlib]
    obtain ⟨f, hf⟩ := Option.isSome_iff_exists.mp hhandler
    obtain ⟨slot, hslot, hhandles⟩ := Option.bind_eq_some_iff.mp hf
    simp only [subsystemOnEntityExhausted, hsubs, hslot, hhandles]
    have hwithin := h.subsystem _ (SubsystemTable.lt_of_slotOf hslot)
    rw [SubsystemTable.slotOf_eq_some hslot] at hwithin
    exact hwithin f hhandles _ _ _ _ _

/-! ## The calls of one section -/

/-- The calls that have to do with the mode. -/
def Call.modal : Call → Prop
  | .setSystemMode _ | .deescalateSystemMode | .enterDegradedMode | .enterSafeMode
  | .reassessSystemMode | .tryReboot _ => True
  | _ => False

section Single

variable {s : State B}

theorem reportFaultImpl_mode (entity : EntityId) (reason : Reason) (errorCode : UInt16)
    (detail : Option CStr) (flags : UInt8) :
    (reportFaultImpl s entity reason errorCode detail flags).2.lib.mode = s.lib.mode := by
  have h := reportFaultImpl_reported s entity reason errorCode detail flags
  generalize (reportFaultImpl s entity reason errorCode detail flags).1 = status at h
  generalize (reportFaultImpl s entity reason errorCode detail flags).2.lib = l at h ⊢
  cases h <;> rfl

theorem markSubsystem_mode (mark : SubsystemTable → SubsystemId → SubsystemTable)
    (phase : Phase) (detail : CStr) (id : SubsystemId) :
    (markSubsystem mark phase detail s id).lib.mode = s.lib.mode := by
  simp only [markSubsystem, syncEnter_lib]
  split
  · simp only [syncExit_lib, emitSubsystemState_lib, State.write_lib, syncEnter_lib]
  · simp only [syncExit_lib, syncEnter_lib]

theorem entityRegister_mode (desc : Option EntityDesc) (outId : Bool) :
    (entityRegister s desc outId).2.2.lib.mode = s.lib.mode := by
  by_cases haccepted : s.lib.Registers (.entityRegister desc outId)
  · obtain ⟨desc, hcall, hroom, hexhausted⟩ := haccepted
    cases hcall
    obtain ⟨now, hlib⟩ := entityRegister_lib s hroom hexhausted
    rw [hlib]
    rfl
  · rw [entityRegister_of_refused haccepted]
    simp only [syncExit_lib, syncEnter_lib]

theorem subsystemRegister_mode (desc : Option SubsystemDesc) (outId : Bool) :
    (subsystemRegister s desc outId).2.2.lib.mode = s.lib.mode := by
  by_cases haccepted : s.lib.Enrolls desc outId
  · obtain ⟨hsome, rfl, hroom⟩ := haccepted
    obtain ⟨desc, rfl⟩ := Option.isSome_iff_exists.mp hsome
    rw [subsystemRegister_of_room hroom, syncExit_lib, State.write_lib, syncEnter_lib]
    rfl
  · rw [subsystemRegister_of_refused haccepted]
    simp only [syncExit_lib, syncEnter_lib]

theorem mode_after_of_not_modal {c : Call} (hentry : c.entry = none) (hc : ¬ c.modal) :
    (after s c).lib.mode = s.lib.mode := by
  cases c with
  | query q => exact congrArg Lib.mode (query_lib s q)
  | entityRegister desc outId => exact entityRegister_mode desc outId
  | subsystemRegister desc outId => exact subsystemRegister_mode desc outId
  | setSupervisionEnabled enabled =>
      simp only [after, Call.exec, setSupervisionEnabled_lib]
      split <;> rfl
  | setSystemMode | deescalateSystemMode | enterDegradedMode | enterSafeMode
  | reassessSystemMode | tryReboot => exact absurd trivial hc
  | logNote note =>
      simp only [after, Call.exec, logNote, syncExit_lib, emitEventFull_lib, syncEnter_lib]
  | logQueueOverflow queueId overflowDelta depthHighWater =>
      simp only [after, Call.exec, logQueueOverflow, syncExit_lib, emitEventFull_lib,
        syncEnter_lib]
  | supervisorTick | checkWatchdogs | workerMayRun => cases hentry
  | handleFailure report | submitFailure report =>
      cases report with
      | none => rfl
      | some report => cases hentry
  | reportFault entity reason errorCode detail => exact reportFaultImpl_mode _ _ _ _ _
  | reportFaultEx entity reason errorCode detail flags => exact reportFaultImpl_mode _ _ _ _ _
  | heartbeatNotify id =>
      simp only [after, Call.exec, heartbeatNotify, syncEnter_lib]
      split
      · simp only [syncExit_lib, syncEnter_lib]
      · simp only [syncExit_lib, State.write_lib, stamp_lib, getNowMs_lib, syncEnter_lib]
  | healthSet id health errorCode detail =>
      simp only [after, Call.exec, healthSet, healthSetUnsafe, syncEnter_lib]
      split <;> simp only [syncExit_lib, State.write_lib, syncEnter_lib]
  | healthReset id =>
      simp only [after, Call.exec, healthReset, syncEnter_lib]
      split
      · simp only [syncExit_lib, syncEnter_lib]
      · next hid =>
        have hlimit : id < (syncEnter s).lib.health.entityLimit := by
          rw [syncEnter_lib]
          exact UInt8.not_le.mp hid
        rw [syncExit_lib, healthResetUnsafe_lib hlimit, syncEnter_lib]
  | subsystemMarkAvailable id | subsystemMarkUnavailable id | subsystemMarkDegraded id =>
      exact markSubsystem_mode _ _ _ id
  | subsystemOnEntityExhausted sub entity report =>
      simp only [after, Call.exec, subsystemOnEntityExhausted_lib]

theorem setSystemMode_le {ceiling : Mode} {code : ℕ} (hmode : s.lib.mode ≤ ceiling)
    (hcode : (Call.setSystemMode code).aim ≤ ceiling) :
    (setSystemMode s code).2.lib.mode ≤ ceiling := by
  simp only [Call.aim] at hcode
  unfold setSystemMode
  cases hof : Mode.ofCode? code with
  | none => simpa only [syncExit_lib, syncEnter_lib] using hmode
  | some target =>
      rw [hof] at hcode
      cases target with
      | rebootPending => simpa only [syncExit_lib, syncEnter_lib] using hmode
      | nominal | degraded | safe =>
          simp only [syncExit_lib, setMode_lib, syncEnter_lib]
          exact hcode

theorem deescalateSystemMode_le : (deescalateSystemMode s).2.lib.mode ≤ s.lib.mode := by
  unfold deescalateSystemMode
  simp only [syncEnter_lib]
  split_ifs with hsafe hdegraded
  · simp only [syncExit_lib, setMode_lib, hsafe]
    decide
  · simp only [syncExit_lib, setMode_lib, hdegraded]
    decide
  · simp only [syncExit_lib, syncEnter_lib, le_refl]

theorem mode_after_le {ceiling : Mode} {c : Call} (hentry : c.entry = none)
    (hmode : s.lib.mode ≤ ceiling) (haim : c.aim ≤ ceiling)
    (hcritical : .safe ≤ ceiling ∨ s.lib.subsystems.criticalCount <
      s.lib.config.safeModeCriticalFailureThreshold.toNat) :
    (after s c).lib.mode ≤ ceiling := by
  by_cases hc : c.modal
  · cases c with
    | setSystemMode code => exact setSystemMode_le hmode haim
    | deescalateSystemMode => exact deescalateSystemMode_le.trans hmode
    | enterDegradedMode =>
        simp only [after, Call.exec, enterDegradedMode, syncExit_lib, enterDegradedModeUnsafe_lib,
          syncEnter_lib]
        exact max_le hmode haim
    | enterSafeMode =>
        simp only [after, Call.exec, enterSafeMode, syncExit_lib, enterSafeModeUnsafe_lib,
          syncEnter_lib]
        exact max_le hmode haim
    | reassessSystemMode =>
        simp only [after, Call.exec, reassessSystemMode, syncExit_lib, evaluateDualPath_lib,
          syncEnter_lib]
        exact Lib.mode_review_le hmode hcritical
    | tryReboot reason => exact (Mode.le_rebootPending _).trans haim
    | _ => exact hc.elim
  · rw [mode_after_of_not_modal hentry hc]
    exact hmode

end Single

/-! ## The machine -/

theorem Machine.mode_step_le {m : Machine B} {ceiling : Mode} (hs : m.state.lib.Sound)
    (hcap : B.subsystemCap ≤ 255) (hdegraded : .degraded ≤ ceiling)
    (hmode : m.state.lib.mode ≤ ceiling) {turn : Turn} (haim : turn.aim ≤ ceiling)
    (h : (m.step turn).state.lib.Contained ceiling) :
    (m.step turn).state.lib.mode ≤ ceiling := by
  have hbefore : m.state.lib.Contained ceiling :=
    h.of_lasts (m.lasts_step hcap hs turn) ((m.stride turn).config_eq hs)
  cases turn with
  | call thread c =>
      by_cases hidle : m.pcs thread = .idle
      · cases hentry : c.entry with
        | none =>
            rw [step_of_single hidle hentry]
            exact mode_after_le hentry hmode haim hbefore.critical
        | some pc =>
            rw [step_of_entry hidle hentry]
            exact hmode
      · rw [step_of_busy hidle]
        exact hmode
  | advance thread =>
      by_cases hpc : ∃ report ret, m.pcs thread = .handleLocked report ret
      · obtain ⟨report, ret, hpc⟩ := hpc
        have hlib : (m.step (.advance thread)).state.lib =
            m.state.lib.handle (answers (raisedState m.state report) report) report := by
          rw [step_of_handling hpc, handleFailureLocked_lib hs.limit_eq]
        rw [hlib] at h ⊢
        exact Lib.mode_handle_le hdegraded hmode h fun hid ↦ answers_within hs hid hbefore
      · have hdoes := Pc.does hs.limit_eq (m.pcs thread)
        have hsame : ((m.pcs thread).advance m.state).2.lib.mode = m.state.lib.mode := by
          generalize m.pcs thread = pc at hdoes hpc
          generalize (pc.advance m.state).2.lib = l' at hdoes
          cases hdoes with
          | handle ans report ret => exact absurd ⟨report, ret, rfl⟩ hpc
          | same | put | get | beat => rfl
        exact hsame.trans_le hmode
  | elapse ms => exact hmode

theorem Machine.mode_run_le {m : Machine B} {ceiling : Mode} (hs : m.state.lib.Sound)
    (hcap : B.subsystemCap ≤ 255) (hdegraded : .degraded ≤ ceiling)
    (hmode : m.state.lib.mode ≤ ceiling) {turns : List Turn}
    (haim : ∀ turn ∈ turns, turn.aim ≤ ceiling)
    (h : (Run.run Machine.step m turns).state.lib.Contained ceiling) :
    (Run.run Machine.step m turns).state.lib.mode ≤ ceiling := by
  -- The registrations of the end bound every earlier state, so the induction is on the last turn.
  induction turns using List.reverseRecOn with
  | nil => exact hmode
  | append_singleton turns turn ih =>
      rw [Run.run_concat] at h ⊢
      have hsound : (Run.run Machine.step m turns).state.lib.Sound :=
        Run.invariant (fun m : Machine B ↦ m.state.lib.Sound)
          (fun m turn h ↦ (m.stride turn).sound h) hs turns
      have hlasts := Machine.lasts_step hcap hsound turn
      have hconfig := (Machine.stride (Run.run Machine.step m turns) turn).config_eq hsound
      have hearlier : (Run.run Machine.step m turns).state.lib.mode ≤ ceiling :=
        ih (fun t ht ↦ haim t (List.mem_append_left _ ht)) (h.of_lasts hlasts hconfig)
      exact mode_step_le hsound hcap hdegraded hearlier (haim turn (by simp)) h

/-- From a successful `fdir_init` on, for every interleaving: a ceiling at or above DEGRADED
that no call asks to exceed, and that contains what is registered in the end, contains the
mode. -/
theorem escalation_contained (clock : ℕ) (pace : List Obs → ℕ) (config : Option Config)
    (lock unlock : Bool) (hcap : B.subsystemCap ≤ 255) (ceiling : Mode) (turns : List Turn) :
    let l := (Run.run Machine.step (.started clock pace config lock unlock : Machine B)
      turns).state.lib
    .degraded ≤ ceiling → (∀ turn ∈ turns, turn.aim ≤ ceiling) → l.Contained ceiling →
      l.mode ≤ ceiling := by
  intro l hdegraded haim h
  exact Machine.mode_run_le (started_sound clock pace config lock unlock) hcap hdegraded
    (Mode.nominal_le ceiling) haim h

/-- An entity that falls back to UNAVAILABLE exhausts its restarts, and the mode stays at
DEGRADED. -/
theorem escalation_contained_degraded :
    let desc : EntityDesc := { EntityDesc.zero with
      onExhausted := .unavailable
      linkedSubsystem := subsystemNone }
    let turns : List Turn := [.call 0 (.entityRegister (some desc) true),
      .call 0 (.reportFault 0 .timeout 7 none), .call 1 .supervisorTick, .advance 1, .advance 1,
      .advance 1, .advance 1]
    (Run.run Machine.step (.started 0 (fun _ ↦ 1) none true true : Machine .default)
      turns).state.lib.mode ≤ .degraded := by
  intro desc turns
  refine escalation_contained 0 (fun _ ↦ 1) none true true (by decide) .degraded turns
    (le_refl _) (by decide) ⟨fun id hid ↦ ?_, fun id hid ↦ ?_, Or.inr (by decide +kernel)⟩
  · have hcount : (Run.run Machine.step (.started 0 (fun _ ↦ 1) none true true :
        Machine .default) turns).state.lib.entityCount = 1 := by decide +kernel
    rw [hcount] at hid
    obtain rfl : id = 0 := UInt8.lt_one_iff.mp hid
    exact .of_isNone (by decide +kernel) (by decide +kernel)
  · have hcount : (Run.run Machine.step (.started 0 (fun _ ↦ 1) none true true :
        Machine .default) turns).state.lib.subsystems.subCount = 0 := by decide +kernel
    rw [hcount] at hid
    exact absurd hid (UInt8.not_lt.mpr (UInt8.zero_le))

end Fdir
