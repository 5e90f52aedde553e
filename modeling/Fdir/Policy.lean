import Fdir.Aftermath
import Fdir.Trails

/-!
# The subsystem policy

The handler of a subsystem is consulted between the choice of an action and its
application.  A default of NONE is never put to it; a restart that fails falls back to
the default of the entity behind its back, and so does one that the handler asked for.
-/

namespace Fdir

open Foundation

variable {B : Build}

/-! ## Who consults the handler -/

def Obs.unconsulted (o : Obs) : Prop := o.consulted = none

theorem Evolves.consultations_eq {s s' : State B} (h : Evolves Obs.unconsulted s s') :
    s'.consultations = s.consultations :=
  h.filterMap_eq fun _ ho ↦ ho

section Unconsulted

variable (s : State B)

@[simp] theorem consultations_write (f : Lib B → Lib B) :
    (s.write f).consultations = s.consultations := rfl

@[simp] theorem consultations_syncEnter : (syncEnter s).consultations = s.consultations :=
  Evolves.consultations_eq (.of_syncEnter (by rfl) s)

@[simp] theorem consultations_syncExit : (syncExit s).consultations = s.consultations :=
  Evolves.consultations_eq (.of_syncExit (by rfl) s)

@[simp] theorem consultations_getNowMs : (getNowMs s).2.consultations = s.consultations :=
  Evolves.consultations_eq (.of_getNowMs (fun _ ↦ by rfl) s)

@[simp] theorem consultations_emitEvent (event : Event) :
    (emitEvent s event).consultations = s.consultations :=
  Evolves.consultations_eq (.of_emitEvent (by rfl) s)

theorem consultations_log {o : Obs} (ho : o.consulted = none) :
    (s.log o).consultations = s.consultations := by
  simp [State.consultations, ho]

@[simp] theorem consultations_stamp (id : EntityId) :
    (s.stamp id).consultations = s.consultations := by
  unfold State.stamp
  split <;> rfl

@[simp] theorem consultations_requestReboot (why : CStr) :
    (requestReboot s why).consultations = s.consultations := by
  unfold requestReboot
  split
  · exact consultations_log s rfl
  · rfl

end Unconsulted

theorem Act.consultations_eq {scope : Scope} (hscope : ¬ scope.consults) {s s' : State B}
    (hact : Act scope s s') : s'.consultations = s.consultations := by
  cases hact with
  | call ho hconsulted => exact consultations_log s hconsulted
  | consult sub id report answer hconsults => exact absurd hconsults hscope
  | clock => exact consultations_getNowMs s
  | stamp id => exact consultations_stamp s id
  | reboot why => exact consultations_requestReboot s why
  | write | enrol => rfl
  | event | mode | mark | override =>
      simp only [emitEventFull, emitSubsystemState, consultations_emitEvent,
        consultations_getNowMs, consultations_write]

theorem Work.consultations_eq {scope : Scope} (hscope : ¬ scope.consults) {s s' : State B}
    (hwork : Work scope s s') : s'.consultations = s.consultations := by
  induction hwork with
  | refl => rfl
  | tail _ hact ih => exact (hact.consultations_eq hscope).trans ih

/-- The scope of all work in which no handler is consulted. -/
def Scope.mute : Scope :=
  ⟨fun _ ↦ True, fun _ _ _ ↦ True, fun _ _ ↦ True, True, False, True⟩

theorem mute_consultations {s s' : State B} (hwork : Work .mute s s') :
    s'.consultations = s.consultations :=
  hwork.consultations_eq fun hfalse ↦ hfalse

theorem consultations_applyAction (s : State B) (id : EntityId) (action : Action)
    (report : FailureReport) (ans : Answers)
    (hanswer : ans.restart = restartAnswer s id report.reason) :
    (evaluateDualPath (applyAction s id action report)).consultations = s.consultations := by
  refine mute_consultations (.trans ?_ (evaluateDualPath_work _))
  rw [applyAction_eq s id action report ans hanswer]
  refine .trans ?_ (applyFinalAction_work _ _ _ _ fun _ _ _ ↦ trivial)
  split
  · exact tryRestart_work s id report.reason trivial
  · exact .refl

/-- The handler of a linked subsystem is consulted about every action but RESTART and
NONE. -/
theorem consultations_resolveExhaustedAction (s : State B) (id : EntityId) (action : Action)
    (report : FailureReport)
    (hhandler : (s.lib.subsystems.handler (s.lib.entities id).desc.linkedSubsystem).isSome)
    (hlinked : (s.lib.entities id).desc.linkedSubsystem ≠ subsystemNone) :
    (resolveExhaustedAction s id action report).2.consultations = s.consultations ++
      if action = .restart ∨ action = .none then [] else
        [((s.lib.entities id).desc.linkedSubsystem, id, some report, (subsystemOnEntityExhausted s
          (s.lib.entities id).desc.linkedSubsystem id (some report)).1)] := by
  have hasked : ∀ sub, (s.lib.subsystems.handler sub).isSome →
      (subsystemOnEntityExhausted s sub id (some report)).2.consultations = s.consultations ++
        [(sub, id, some report, (subsystemOnEntityExhausted s sub id (some report)).1)] := by
    intro sub hhandler
    obtain ⟨handler, hsome⟩ := Option.isSome_iff_exists.mp hhandler
    rw [SubsystemTable.handler, Option.bind_eq_some_iff] at hsome
    obtain ⟨slot, hslot, hfn⟩ := hsome
    simp [subsystemOnEntityExhausted, hslot, hfn, State.consultations, Obs.consulted]
  by_cases haction : action = .restart ∨ action = .none
  · simp only [resolveExhaustedAction, if_pos haction, List.append_nil]
  · simp only [resolveExhaustedAction, if_neg haction, if_neg hlinked]
    split
    · simp only [emitSubsystemState, consultations_emitEvent, consultations_getNowMs]
      exact hasked _ hhandler
    · exact hasked _ hhandler

theorem SubsystemTable.ne_of_handler {t : SubsystemTable} {sub : SubsystemId}
    (h : (t.handler sub).isSome) : sub ≠ subsystemNone := by
  rintro rfl
  have hcount : t.subCount ≤ subsystemNone := by
    have hlt := t.subCount.toNat_lt
    rw [UInt8.le_iff_toNat_le]
    change t.subCount.toNat ≤ 255
    omega
  have hslot : t.slotOf subsystemNone = none := by
    unfold slotOf
    rw [if_pos (by rw [decide_eq_true hcount]; rfl)]
  rw [handler, hslot] at h
  cases h

/-- The handling of a report consults the handler about the action chosen first, unless
that is RESTART or NONE. -/
theorem handleFailureLocked_consultations {s : State B} (hs : s.lib.Sound)
    {report : FailureReport} (hraises : s.lib.raises report)
    (hid : report.entity < s.lib.entityCount) {sub : SubsystemId}
    (hsub : (s.lib.entities report.entity).desc.linkedSubsystem = sub)
    (hhandler : (s.lib.subsystems.handler sub).isSome) :
    let ans := answers (raisedState s report) report
    let chosen := ((s.lib.record report.entity).fail B report).choose ans report
    (handleFailureLocked s report).consultations = s.consultations ++
      if chosen = .restart ∨ chosen = .none then []
      else [(sub, report.entity, some report, ans.exhausted)] := by
  intro ans chosen
  let raised := raisedState s report
  have hraised : raised.lib = s.lib := raisedState_lib s report
  have hlimit : report.entity < raised.lib.health.entityLimit := raisedState_limit hs.limit_eq hid
  let first := chooseAction (failedState raised report) report
  have hlib : first.2.lib = s.lib.setRecord report.entity ((s.lib.record report.entity).fail B
      report) := by
    rw [chooseAction_lib, failedState_lib hlimit, hraised]
  have hfirst : first.1 = chosen := by
    have hchosen := chooseAction_failedState hlimit
    rw [hraised] at hchosen
    exact hchosen
  have hlinked : (first.2.lib.entities report.entity).desc.linkedSubsystem = sub := by
    rw [hlib]
    simpa [Lib.setRecord, Lib.record, Record.fail] using hsub
  have hquiet : first.2.consultations = s.consultations := by
    have hwork : Work .mute (syncEnter s) first.2 :=
      (raisedState_work s trivial).trans
        ((failedState_work raised report).trans (chooseAction_work _ report))
    rw [mute_consultations hwork, consultations_syncEnter]
  have hresolved := consultations_resolveExhaustedAction first.2 report.entity first.1 report
  rw [hlinked, hfirst, hquiet] at hresolved
  rw [handleFailureLocked_of_known hraises (hs.known hid), consultations_syncExit,
    recoverEntity_eq hlimit, consultations_applyAction _ _ _ _ (answers raised report) rfl]
  change (resolveExhaustedAction first.2 report.entity first.1 report).2.consultations = _
  rw [hfirst]
  have hexhausted : (subsystemOnEntityExhausted first.2 sub report.entity (some report)).1 =
      ans.exhausted := by
    rw [← hsub, ← hraised]
    rfl
  rw [hexhausted] at hresolved
  refine hresolved ?_ (SubsystemTable.ne_of_handler hhandler)
  rwa [hlib]

/-! ## The default of an entity -/

/-- The budget of the report's class is spent: the default policy says on_exhausted. -/
def Lib.spent (l : Lib B) (report : FailureReport) : Prop :=
  defaultDecide (l.entities report.entity) report ≠ .restart

/-- No `decide` callback, or one that answers NONE. -/
def Lib.undecided (l : Lib B) (ans : Answers) (report : FailureReport) : Prop :=
  (l.entities report.entity).desc.decide.isSome → ans.decide = .none

/-- The handling takes the on_exhausted default: the budget is spent, or a restart is
missing or fails. -/
def Lib.defaults (l : Lib B) (ans : Answers) (report : FailureReport) : Prop :=
  l.spent report ∨ l.action ans report = .restart ∧ ¬ l.restores ans report

/-- A restart succeeds if one is due, and the default is not NONE if the budget is spent. -/
structure Lib.Heeds (l : Lib B) (ans : Answers) (report : FailureReport) : Prop where
  default : l.spent report → (l.entities report.entity).desc.onExhausted ≠ .none
  restart : ¬ l.spent report ∨ ans.exhausted = .restart →
    (l.entities report.entity).desc.restart.isSome ∧ ans.restart = 0

section Default

variable {l : Lib B} {ans : Answers} {report : FailureReport}

theorem Lib.choose_of_undecided (h : l.undecided ans report) :
    ((l.record report.entity).fail B report).choose ans report =
      defaultDecide (l.entities report.entity) report := by
  have hslot : ((l.record report.entity).fail B report).slot = l.entities report.entity := rfl
  rw [Record.choose, hslot, if_neg]
  rintro ⟨hsome, hanswer⟩
  exact hanswer (h hsome)

theorem Lib.defaultDecide_of_spent (h : l.spent report) :
    defaultDecide (l.entities report.entity) report =
      (l.entities report.entity).desc.onExhausted := by
  unfold Lib.spent defaultDecide at h
  unfold defaultDecide
  split_ifs at h ⊢ <;> first | rfl | exact absurd rfl h

theorem Lib.action_of_spent (hundecided : l.undecided ans report) (hspent : l.spent report)
    (hhandler : (l.subsystems.handler
      (l.entities report.entity).desc.linkedSubsystem).isSome)
    (hne : (l.entities report.entity).desc.onExhausted ≠ .none) :
    l.action ans report = if ans.exhausted ≠ .none then ans.exhausted
      else (l.entities report.entity).desc.onExhausted := by
  have hdefault := Lib.defaultDecide_of_spent hspent
  have hkept : ¬ ((l.entities report.entity).desc.onExhausted = .restart ∨
      (l.entities report.entity).desc.onExhausted = .none ∨
      (l.entities report.entity).desc.linkedSubsystem = subsystemNone) := by
    rintro (hrestart | hnone | hlinked)
    · exact hspent (hdefault.trans hrestart)
    · exact hne hnone
    · exact SubsystemTable.ne_of_handler hhandler hlinked
  rw [Lib.action, Lib.choose_of_undecided hundecided, hdefault, Lib.resolve, if_neg hkept]
  simp only [hhandler, true_and]

theorem Lib.verdict_restart_iff (hs : l.Sound) (haction : l.action ans report = .restart) :
    (l.verdict ans report).2 = .restart ↔
      (l.entities report.entity).desc.restart.isSome ∧ ans.restart = 0 := by
  have hslot : ((l.record report.entity).fail B report).slot = l.entities report.entity := rfl
  have hfallback : ((l.record report.entity).fail B report).fallback ≠ .restart := by
    rw [Record.fallback, hslot, if_neg (hs.exhausted_ne _)]
    exact hs.exhausted_ne _
  have hbumped : ((l.record report.entity).fail B report).slot.desc.restart =
      (l.entities report.entity).desc.restart := rfl
  rw [Lib.verdict, haction, Record.settle, if_pos rfl, hbumped]
  split
  · next hsome =>
    split
    · next hzero => exact ⟨fun _ ↦ ⟨hsome, hzero⟩, fun _ ↦ rfl⟩
    · next hanswer =>
      exact ⟨fun h ↦ absurd h hfallback, fun h ↦ absurd h.2 hanswer⟩
  · next hnone => exact ⟨fun h ↦ absurd h hfallback, fun h ↦ absurd h.1 hnone⟩

theorem Lib.verdict_of_ne_restart (haction : l.action ans report ≠ .restart) :
    (l.verdict ans report).2 = l.action ans report := by
  rw [Lib.verdict, Record.settle, if_neg haction]

/-- The law of the handler, over the consultations before and after the report and what
it is for an action to be applied. -/
def Lib.Obeys (l : Lib B) (ans : Answers) (report : FailureReport) (sub : SubsystemId)
    (old new : List (SubsystemId × EntityId × Option FailureReport × Action))
    (applied : Action → Prop) : Prop :=
  l.defaults ans report → ∃ answer, new = old ++ [(sub, report.entity, some report, answer)] ∧
    (answer ≠ .none → applied answer)

variable {sub : SubsystemId} {old : List (SubsystemId × EntityId × Option FailureReport × Action)}
  {applied : Action → Prop}

/-- A handler that is not asked obeys only where no default is taken. -/
theorem Lib.obeys_unasked_iff :
    l.Obeys ans report sub old old applied ↔ ¬ l.defaults ans report := by
  constructor
  · intro h hdefaults
    obtain ⟨answer, hanswer, -⟩ := h hdefaults
    exact List.cons_ne_nil _ _ (List.self_eq_append_right.mp hanswer)
  · exact fun h hdefaults ↦ absurd hdefaults h

/-- The answer of a handler that is asked is the action applied, or NONE. -/
theorem Lib.obeys_asked_iff (hspent : l.spent report) :
    l.Obeys ans report sub old (old ++ [(sub, report.entity, some report, ans.exhausted)])
        applied ↔
      (ans.exhausted ≠ .none → applied ans.exhausted) := by
  constructor
  · intro h
    obtain ⟨answer, hanswer, happlied⟩ := h (Or.inl hspent)
    obtain rfl : ans.exhausted = answer := by simpa using hanswer
    exact happlied
  · exact fun h _ ↦ ⟨ans.exhausted, rfl, h⟩

/-- Within the budget the default is taken exactly if the restart is missing or fails. -/
theorem Lib.defaults_iff_of_unspent (hundecided : l.undecided ans report)
    (hspent : ¬ l.spent report) :
    l.defaults ans report ↔
      ¬ ((l.entities report.entity).desc.restart.isSome ∧ ans.restart = 0) := by
  have hrestart : defaultDecide (l.entities report.entity) report = .restart :=
    not_not.mp hspent
  have haction : l.action ans report = .restart := by
    rw [Lib.action, Lib.choose_of_undecided hundecided, hrestart, Lib.resolve,
      if_pos (Or.inl rfl)]
  constructor
  · rintro (hfalse | ⟨-, hfailed⟩) ⟨hsome, hzero⟩
    · exact hspent hfalse
    · exact hfailed ⟨⟨haction, hsome⟩, hzero⟩
  · intro hfailed
    exact Or.inr ⟨haction, fun hrestores ↦ hfailed ⟨hrestores.1.2, hrestores.2⟩⟩

theorem Lib.heeds_iff_of_unspent (hspent : ¬ l.spent report) :
    l.Heeds ans report ↔ (l.entities report.entity).desc.restart.isSome ∧ ans.restart = 0 := by
  constructor
  · exact fun h ↦ h.restart (Or.inl hspent)
  · exact fun h ↦ ⟨fun hfalse ↦ absurd hfalse hspent, fun _ ↦ h⟩

/-- An answer other than RESTART is applied as it stands; a RESTART has to succeed. -/
theorem Lib.heeds_iff_of_asked (hs : l.Sound) (hundecided : l.undecided ans report)
    (hspent : l.spent report)
    (hhandler : (l.subsystems.handler
      (l.entities report.entity).desc.linkedSubsystem).isSome)
    (hne : (l.entities report.entity).desc.onExhausted ≠ .none) :
    l.Heeds ans report ↔
      (ans.exhausted ≠ .none → (l.verdict ans report).2 = ans.exhausted) := by
  have haction := Lib.action_of_spent hundecided hspent hhandler hne
  by_cases hrestart : ans.exhausted = .restart
  · rw [hrestart] at haction ⊢
    have hrestarted := Lib.verdict_restart_iff hs haction
    constructor
    · exact fun h _ ↦ hrestarted.mpr (h.restart (Or.inr hrestart))
    · exact fun h ↦ ⟨fun _ ↦ hne, fun _ ↦ hrestarted.mp (h (by decide))⟩
  · constructor
    · intro _ hanswer
      rw [if_pos hanswer] at haction
      rw [← haction]
      refine Lib.verdict_of_ne_restart ?_
      rwa [haction]
    · intro
      refine ⟨fun _ ↦ hne, ?_⟩
      rintro (hunspent | hanswer)
      · exact absurd hspent hunspent
      · exact absurd hanswer hrestart

/-- The handler is obeyed, given what the handling of the report adds to the consultations
and when the action decided on has been applied. -/
theorem Lib.obeys_iff_heeds (hs : l.Sound) (hundecided : l.undecided ans report)
    (hhandler : (l.subsystems.handler
      (l.entities report.entity).desc.linkedSubsystem).isSome)
    {new : List (SubsystemId × EntityId × Option FailureReport × Action)}
    (hnew : new = old ++
      if defaultDecide (l.entities report.entity) report = .restart ∨
          defaultDecide (l.entities report.entity) report = .none then []
      else [(sub, report.entity, some report, ans.exhausted)])
    (happlied : applied (l.action ans report) ↔ (l.verdict ans report).2 = l.action ans report) :
    l.Obeys ans report sub old new applied ↔ l.Heeds ans report := by
  by_cases hspent : l.spent report
  · have hdefault := Lib.defaultDecide_of_spent hspent
    by_cases hnone : (l.entities report.entity).desc.onExhausted = .none
    · -- The handler is not asked about a default of NONE.
      rw [if_pos (Or.inr (hdefault.trans hnone)), List.append_nil] at hnew
      rw [hnew, Lib.obeys_unasked_iff]
      constructor
      · exact fun h ↦ absurd (Or.inl hspent) h
      · exact fun h ↦ absurd hnone (h.default hspent)
    · have hasked : ¬ (defaultDecide (l.entities report.entity) report = .restart ∨
          defaultDecide (l.entities report.entity) report = .none) := by
        rintro (hrestart | hdefaulted)
        · exact hspent hrestart
        · exact hnone (hdefault.symm.trans hdefaulted)
      have haction := Lib.action_of_spent hundecided hspent hhandler hnone
      rw [if_neg hasked] at hnew
      rw [hnew, Lib.obeys_asked_iff hspent,
        Lib.heeds_iff_of_asked hs hundecided hspent hhandler hnone]
      refine forall_congr' fun hanswer ↦ ?_
      rwa [haction, if_pos hanswer] at happlied
  · rw [if_pos (Or.inl (not_not.mp hspent)), List.append_nil] at hnew
    rw [hnew, Lib.obeys_unasked_iff, Lib.defaults_iff_of_unspent hundecided hspent, not_not,
      Lib.heeds_iff_of_unspent hspent]

end Default

/-! ## The action applied -/

/-- The handling of a report has applied action `a`: the mode, the linked subsystem and all
else are what `a` makes of them, and the entity is restarted if `a` is RESTART and stays
FAILED without a restart call otherwise. -/
structure Applied (s s' : State B) (report : FailureReport) (a : Action) : Prop where
  struck : s.lib.Struck s'.lib report.entity a
  restored : a = .restart → Restored s s' report
  condemned : a ≠ .restart → s'.lib.Condemned report ∧ s'.restarts = s.restarts

/-- The action decided on is applied unless it is a RESTART in vain. -/
theorem applied_action_iff {s : State B} (hs : s.lib.Sound) {report : FailureReport}
    (henabled : s.lib.supervisionEnabled ≠ 0) (hid : report.entity < s.lib.entityCount)
    (hraises : s.lib.raises report) :
    let ans := answers (raisedState (supervisionEnabled s).2 report) report
    Applied s (handleFailure s (some report)) report (s.lib.action ans report) ↔
      (s.lib.verdict ans report).2 = s.lib.action ans report := by
  intro ans
  have hrestored := handleFailure_restored_iff hs henabled hid hraises
  have hstruck := handleFailure_struck hs henabled hid hraises
  by_cases haction : s.lib.action ans report = .restart
  · rw [haction]
    constructor
    · intro happlied
      have hrestores := hrestored.mp (happlied.restored rfl)
      rw [Lib.verdict_of_restores hrestores]
    · intro hverdict
      refine ⟨hverdict ▸ hstruck, fun _ ↦ ?_, fun hne ↦ absurd rfl hne⟩
      obtain ⟨hsome, hzero⟩ := (Lib.verdict_restart_iff hs haction).mp hverdict
      exact hrestored.mpr ⟨⟨haction, hsome⟩, hzero⟩
  · have hverdict := Lib.verdict_of_ne_restart haction
    refine iff_of_true ⟨hverdict ▸ hstruck, fun heq ↦ absurd heq haction, fun _ ↦ ⟨?_, ?_⟩⟩ hverdict
    · refine (handleFailure_xor hs henabled hid hraises).or.resolve_left fun h ↦ ?_
      exact haction (hrestored.mp h).1.1
    · have hcalled : (supervisionEnabled s).2.lib = s.lib := supervisionEnabled_lib s
      have hs' : (supervisionEnabled s).2.lib.Sound := by rwa [hcalled]
      rw [handleFailure_of_enabled henabled, (handleFailureLocked_world hs' report).2.1,
        (silent_supervisionEnabled s).restarts_eq, Lib.restartCalls, hcalled,
        if_neg fun h ↦ haction h.2.2.1, List.append_nil]

/-- In every state that any threads can reach, with supervision enabled, for every report
that is not latched, of a registered entity that leaves the decision to the default
policy and is linked to a subsystem with a handler: whenever the on_exhausted default
is taken the handler is called and its answer applied, if and only if a restart that is
due succeeds and a default taken for a spent budget is not NONE. -/
theorem policy_consulted_iff (s : State B) (config : Option Config) (lock unlock : Bool)
    (pcs : ℕ → Pc) (turns : List Turn) (report : FailureReport) :
    let m : Machine B := Run.run Machine.step (.initialised s config lock unlock pcs) turns
    let s := m.state
    let s' := handleFailure s (some report)
    let sub := (s.lib.entities report.entity).desc.linkedSubsystem
    let ans := answers (raisedState (supervisionEnabled s).2 report) report
    s.lib.supervisionEnabled ≠ 0 → report.entity < s.lib.entityCount → s.lib.raises report →
      s.lib.undecided ans report → (s.lib.subsystems.handler sub).isSome →
        ((s.lib.defaults ans report →
            ∃ answer,
              s'.consultations = s.consultations ++ [(sub, report.entity, some report, answer)] ∧
              (answer ≠ .none → Applied s s' report answer)) ↔
          s.lib.Heeds ans report) := by
  intro m s₁ s' sub ans henabled hid hraises hundecided hhandler
  have hs : s₁.lib.Sound := Machine.run_sound s config lock unlock pcs turns
  have hcalled : (supervisionEnabled s₁).2.lib = s₁.lib := supervisionEnabled_lib s₁
  have hasked : (supervisionEnabled s₁).2.consultations = s₁.consultations := by
    simp [supervisionEnabled]
  have hs' : (supervisionEnabled s₁).2.lib.Sound := by
    rwa [hcalled]
  have hraises' : (supervisionEnabled s₁).2.lib.raises report := by
    rwa [hcalled]
  have hnew := handleFailureLocked_consultations hs' hraises' (by rwa [hcalled]) rfl
    (by rwa [hcalled])
  dsimp only at hnew
  rw [hcalled, hasked, Lib.choose_of_undecided hundecided] at hnew
  refine Lib.obeys_iff_heeds hs hundecided hhandler ?_
    (applied_action_iff hs henabled hid hraises)
  change (handleFailure s₁ (some report)).consultations = _
  rw [handleFailure_of_enabled henabled]
  exact hnew

/-- A subsystem whose handler asks for SAFE. -/
def guarded : SubsystemDesc :=
  { SubsystemDesc.zero with onEntityExhausted := some fun _ _ _ _ _ ↦ .safe }

/-- An entity linked to it that has no budget at all. -/
def exhaustedFrom (onExhausted : Action) : EntityDesc :=
  { EntityDesc.zero with linkedSubsystem := 0, maxRestarts := 0, onExhausted := onExhausted }

def exhaustedMachine (onExhausted : Action) : Machine .default :=
  Run.run Machine.step (.initialised (.powerOn 0 fun _ ↦ 1) none true true fun _ ↦ .idle)
    [.call 0 (.subsystemRegister (some guarded) true),
      .call 0 (.entityRegister (some (exhaustedFrom onExhausted)) true)]

/-- The handler is consulted about a default of DEGRADE and its SAFE applied. -/
theorem policy_consulted_spent :
    let s := (exhaustedMachine .degrade).state
    let report : FailureReport := ⟨0, .timeout, 7, [], 0, 0⟩
    let s' := handleFailure s (some report)
    s'.consultations = s.consultations ++ [(0, 0, some report, .safe)] ∧
      Applied s s' report .safe := by
  intro s report s'
  have hiff := policy_consulted_iff (.powerOn 0 fun _ ↦ 1 : State .default) none true true
    (fun _ ↦ .idle) [.call 0 (.subsystemRegister (some guarded) true),
      .call 0 (.entityRegister (some (exhaustedFrom .degrade)) true)] report (by decide)
    (by decide) (by decide) nofun (by decide)
  have hspent : s.lib.spent report := by
    change defaultDecide (s.lib.entities report.entity) report ≠ .restart
    decide
  have hheeds : s.lib.Heeds (answers (raisedState (supervisionEnabled s).2 report) report)
      report := by
    refine ⟨fun _ ↦ by decide, ?_⟩
    rintro (hunspent | hanswer)
    · exact absurd hspent hunspent
    · exact absurd hanswer (by decide)
  obtain ⟨answer, hanswer, happlied⟩ := hiff.mpr hheeds (Or.inl hspent)
  have hconsulted : s'.consultations = [(0, 0, some report, .safe)] := by decide
  have hlast := congrArg List.getLast? (hconsulted.symm.trans hanswer)
  simp only [List.getLast?_singleton, List.getLast?_append, Option.some_or, Option.some.injEq,
    Prod.mk.injEq] at hlast
  obtain ⟨-, -, -, rfl⟩ := hlast
  exact ⟨hanswer, happlied (by decide)⟩

/-- The budget is spent and the default is NONE: the handler is never consulted, and its
SAFE not applied. -/
theorem policy_bypassed :
    let s := (exhaustedMachine .none).state
    let report : FailureReport := ⟨0, .timeout, 7, [], 0, 0⟩
    let s' := handleFailure s (some report)
    s.lib.supervisionEnabled ≠ 0 ∧ (0 : EntityId) < s.lib.entityCount ∧ s.lib.raises report ∧
      (s.lib.entities 0).desc.decide.isNone ∧
      (s.lib.subsystems.handler (s.lib.entities 0).desc.linkedSubsystem).isSome ∧
      defaultDecide (s.lib.entities 0) report = (exhaustedFrom .none).onExhausted ∧
      s'.lib.mode = .nominal ∧
      ¬ ∃ answer, s'.consultations = s.consultations ++ [(0, 0, some report, answer)] := by
  intro s report s'
  have hnone : s'.consultations = [] := by decide
  refine ⟨by decide, by decide, by decide, by decide, by decide, by decide, by decide, ?_⟩
  rintro ⟨answer, hanswer⟩
  rw [hnone] at hanswer
  cases s.consultations <;> cases hanswer

end Fdir
