import Fdir.Aftermath
import Fdir.Replay

/-!
# Ground

Ground reads the events and learns of registrations; nothing else.  After every
turn its picture of the mode and of the registered subsystems is the true one,
unless a failure strikes a linked subsystem that is not registered, which emits an
event about a subsystem that does not exist, or the text of a mark is cut.
-/

namespace Fdir

open Foundation

variable {B : Build}

/-! ## Ground follows the machine -/

/-- The subsystem id issued in a turn. -/
def Machine.issued (m : Machine B) : Turn → Option SubsystemId
  | .call thread (.subsystemRegister desc outId) =>
      if m.pcs thread = .idle then (subsystemRegister m.state desc outId).2.1 else none
  | _ => none

/-- The machine, and what ground makes of its events. -/
structure Ground (B : Build) where
  machine : Machine B
  replay : Replay

namespace Ground

def step (g : Ground B) (turn : Turn) : Ground B :=
  let machine := g.machine.step turn
  let new := machine.state.events.drop g.machine.state.events.length
  let replay := new.foldl Replay.event g.replay
  match g.machine.issued turn with
  | none => ⟨machine, replay⟩
  | some id => ⟨machine, replay.enrol id⟩

def started (clock : ℕ) (pace : List Obs → ℕ) (config : Option Config) (lock unlock : Bool) :
    Ground B :=
  ⟨.started clock pace config lock unlock, .start⟩

@[simp] theorem step_machine (g : Ground B) (turn : Turn) :
    (g.step turn).machine = g.machine.step turn := by
  rw [step]
  split <;> rfl

/-- The events are a faithful record: ground's picture is the true one, no two
consecutive changes of mode are to the same mode, every event carries the mode in
force, and every event of a subsystem is about a registered one. -/
structure Informed (g : Ground B) : Prop where
  replay : g.replay.Matches g.machine.state.lib
  modes : (announcedModes g.machine.state.events).IsChain (· ≠ ·)
  stated : g.machine.state.world.misstated = false
  straight : g.machine.state.world.stray = false

end Ground

/-! ## The marks of a turn -/

def Call.mark? : Call → Option (Mark × SubsystemId)
  | .subsystemMarkAvailable id => some (.available, id)
  | .subsystemMarkUnavailable id => some (.unavailable, id)
  | .subsystemMarkDegraded id => some (.degraded, id)
  | _ => none

namespace Machine

/-- The turn handles a failure, and the action applied in the end marks the subsystem
its entity is linked to. -/
inductive Strikes (m : Machine B) : Turn → Mark → SubsystemId → Prop where
  | intro {thread : ℕ} {report : FailureReport} {ret : Return} {mark : Mark}
      (hpc : m.pcs thread = .handleLocked report ret) (hraises : m.state.lib.raises report)
      (hid : report.entity < m.state.lib.entityCount)
      (hmark : (m.state.lib.verdict (answers (raisedState m.state report) report)
        report).2.mark? = some mark)
      (hlinked : (m.state.lib.entities report.entity).desc.linkedSubsystem ≠ subsystemNone) :
      m.Strikes (.advance thread) mark (m.state.lib.entities report.entity).desc.linkedSubsystem

/-- The turn marks a subsystem, if it is registered. -/
inductive Marks (m : Machine B) : Turn → Mark → SubsystemId → Prop where
  | called {thread : ℕ} {c : Call} {mark : Mark} {sub : SubsystemId}
      (hidle : m.pcs thread = .idle) (hc : c.mark? = some (mark, sub)) :
      m.Marks (.call thread c) mark sub
  | struck {turn : Turn} {mark : Mark} {sub : SubsystemId} (h : m.Strikes turn mark sub) :
      m.Marks turn mark sub

/-- Failures strike registered subsystems only, and every mark is told. -/
structure Traceable (m : Machine B) (turn : Turn) : Prop where
  linked : ∀ mark sub, m.Strikes turn mark sub → (m.state.lib.subsystems.slotOf sub).isSome
  told : ∀ mark sub, m.Marks turn mark sub → mark.Told B m.state.lib.subsystems sub

end Machine

/-! ## A turn that ground can follow -/

theorem slotOf_of_exhausted {s : State B} {sub : SubsystemId} {id : EntityId}
    {report : Option FailureReport}
    (h : (subsystemOnEntityExhausted s sub id report).1 ≠ .none) :
    (s.lib.subsystems.slotOf sub).isSome := by
  unfold subsystemOnEntityExhausted at h
  split at h
  · exact absurd rfl h
  · next hslot =>
    rw [hslot]
    rfl

theorem Machine.Traceable.within {m : Machine B} (hs : m.state.lib.Sound) {turn : Turn}
    (h : m.Traceable turn)
    (hcall : ∀ thread desc outId, turn ≠ .call thread (.subsystemRegister desc outId)) :
    m.Within (.followed B) turn where
  call := by
    rintro thread c rfl hidle _
    cases c with
    | subsystemRegister desc outId => exact absurd rfl (hcall thread desc outId)
    | subsystemMarkAvailable | subsystemMarkUnavailable | subsystemMarkDegraded =>
        exact fun hslot ↦ ⟨hslot, h.told _ _ (.called hidle rfl)⟩
    | _ => exact trivial
  entity := fun _ _ _ _ _ _ ↦ trivial
  linked := by
    rintro thread report ret rfl hpc hraises hid
    constructor
    · rintro ⟨-, -, -, hanswer⟩
      have hslot := slotOf_of_exhausted hanswer
      rw [chooseAction_lib, failedState_lib (raisedState_limit hs.limit_eq hid),
        raisedState_lib] at hslot
      exact hslot
    · intro mark hmark hlinked
      have hstrikes := Machine.Strikes.intro hpc hraises hid hmark hlinked
      exact ⟨h.linked _ _ hstrikes, h.told _ _ (.struck hstrikes)⟩

/-! ## Registrations -/

/-- A registration emits nothing; it takes the next free slot, or none. -/
theorem subsystemRegister_cases (s : State B) (desc : Option SubsystemDesc) (outId : Bool) :
    (subsystemRegister s desc outId).2.2.events = s.events ∧
    (subsystemRegister s desc outId).2.2.defects = s.defects ∧
    ((subsystemRegister s desc outId).2.1 = none ∧
        (subsystemRegister s desc outId).2.2.lib = s.lib ∨
      (subsystemRegister s desc outId).2.1 = some s.lib.subsystems.subCount ∧
        ∃ slot : SubsystemSlot, (subsystemRegister s desc outId).2.2.lib =
            { s.lib with subsystems := s.lib.subsystems.enrol slot } ∧
          slot.available = true ∧ slot.degraded = false) := by
  simp only [subsystemRegister]
  split
  · split
    · exact ⟨by simp, by simp, Or.inl ⟨rfl, by simp⟩⟩
    · refine ⟨by simp, by simp, Or.inr ⟨by simp, ?_⟩⟩
      rw [syncExit_lib, State.write_lib, syncEnter_lib]
      exact ⟨_, rfl, rfl, rfl⟩
  · exact ⟨by simp, by simp, Or.inl ⟨rfl, by simp⟩⟩

/-- What holds of ground as long as it is informed. -/
structure Ground.Sound (g : Ground B) : Prop where
  sound : g.machine.state.lib.Sound
  modes : ModesTold g.machine.state.events g.machine.state.lib.mode
  informed : g.Informed

namespace Ground

variable {g : Ground B}

theorem step_of_not_issued {turn : Turn} (h : g.machine.issued turn = none) {new : List Event}
    (hnew : (g.machine.step turn).state.events = g.machine.state.events ++ new) :
    g.step turn = ⟨g.machine.step turn, new.foldl Replay.event g.replay⟩ := by
  simp only [step, hnew, List.drop_left, h]

theorem step_of_issued {turn : Turn} {id : SubsystemId} (h : g.machine.issued turn = some id)
    (hnew : (g.machine.step turn).state.events = g.machine.state.events) :
    g.step turn = ⟨g.machine.step turn, g.replay.enrol id⟩ := by
  simp only [step, hnew, List.drop_length, h, List.foldl_nil]

theorem issued_eq_none {turn : Turn}
    (hcall : ∀ thread desc outId, turn ≠ .call thread (.subsystemRegister desc outId)) :
    g.machine.issued turn = none := by
  cases turn with
  | call thread c =>
      cases c with
      | subsystemRegister desc outId => exact absurd rfl (hcall thread desc outId)
      | _ => rfl
  | advance thread | elapse ms => rfl

theorem Sound.modes_step (h : g.Sound) (turn : Turn) :
    ModesTold (g.machine.step turn).state.events (g.machine.step turn).state.lib.mode := by
  obtain ⟨new, hnew⟩ := g.machine.recounts h.sound trivial (g.machine.within_all turn)
  rw [hnew.events]
  exact hnew.tells.modes h.modes

theorem Sound.informed_step (h : g.Sound) {turn : Turn}
    (hcall : ∀ thread desc outId, turn ≠ .call thread (.subsystemRegister desc outId))
    (hwithin : g.machine.Within (.followed B) turn) : (g.step turn).Informed := by
  obtain ⟨new, hnew⟩ := g.machine.recounts h.sound trivial hwithin
  have hdefects : (g.machine.step turn).state.defects = g.machine.state.defects := by
    rcases g.machine.trail h.sound trivial hwithin with htrail | ⟨ms, -, hstate⟩
    · have hkeeps := Trail.keeps h.sound.ready htrail
      have hstray := hkeeps.stray (fun _ _ _ hmarks ↦ hmarks.1) fun _ _ hslot ↦ hslot
      exact Prod.ext hkeeps.misstated hstray
    · rw [hstate]
      rfl
  have hmodes := h.modes_step turn
  rw [step_of_not_issued (issued_eq_none hcall) hnew.events]
  constructor
  · exact hnew.tells.matches h.informed.replay
  · exact hmodes.differ
  · exact (congrArg Prod.fst hdefects).trans h.informed.stated
  · exact (congrArg Prod.snd hdefects).trans h.informed.straight

theorem Sound.informed_register (h : g.Sound) (thread : ℕ) (desc : Option SubsystemDesc)
    (outId : Bool) : (g.step (.call thread (.subsystemRegister desc outId))).Informed := by
  have hmodes := h.modes_step (.call thread (.subsystemRegister desc outId))
  obtain ⟨hevents, hdefects, hcases⟩ := subsystemRegister_cases g.machine.state desc outId
  by_cases hidle : g.machine.pcs thread = .idle
  · have hstep : g.machine.step (.call thread (.subsystemRegister desc outId)) =
        { g.machine with state := (subsystemRegister g.machine.state desc outId).2.2 } :=
      Machine.step_of_single hidle rfl
    have hissued : g.machine.issued (.call thread (.subsystemRegister desc outId)) =
        (subsystemRegister g.machine.state desc outId).2.1 := if_pos hidle
    rw [hstep] at hmodes
    rcases hcases with ⟨hnone, hlib⟩ | ⟨hsome, slot, hlib, havailable, hdegraded⟩
    · rw [step_of_not_issued (hissued.trans hnone)
        (by rw [hstep, List.append_nil]; exact hevents), hstep]
      refine ⟨?_, hmodes.differ, ?_, ?_⟩
      · change g.replay.Matches (subsystemRegister g.machine.state desc outId).2.2.lib
        rw [hlib]
        exact h.informed.replay
      · exact (congrArg Prod.fst hdefects).trans h.informed.stated
      · exact (congrArg Prod.snd hdefects).trans h.informed.straight
    · rw [step_of_issued (hissued.trans hsome) (by rw [hstep]; exact hevents), hstep]
      refine ⟨?_, hmodes.differ, ?_, ?_⟩
      · have hmode := congrArg Lib.mode hlib
        have hsubs := congrArg Lib.subsystems hlib
        exact h.informed.replay.enrol havailable hdegraded hmode hsubs
      · exact (congrArg Prod.fst hdefects).trans h.informed.stated
      · exact (congrArg Prod.snd hdefects).trans h.informed.straight
  · have hstep : g.machine.step (.call thread (.subsystemRegister desc outId)) = g.machine :=
      Machine.step_of_busy hidle
    have hissued : g.machine.issued (.call thread (.subsystemRegister desc outId)) = none :=
      if_neg hidle
    rw [step_of_not_issued hissued (by rw [hstep, List.append_nil]), hstep]
    exact h.informed

end Ground

/-! ## A broken link -/

section Stray

variable {s : State B} {id : EntityId} {report : FailureReport}

theorem markLinked_stray (hready : s.lib.portReady = true) (mark : Mark)
    (hlinked : (s.lib.entities id).desc.linkedSubsystem ≠ subsystemNone)
    (hslot : s.lib.subsystems.slotOf (s.lib.entities id).desc.linkedSubsystem = none) :
    (markLinked mark.apply mark.detail s id report).world.stray = true := by
  let sub := (s.lib.entities id).desc.linkedSubsystem
  let marked := s.write fun l ↦ { l with subsystems := mark.apply l.subsystems sub }
  have hready' : marked.lib.portReady = true := hready
  have hdefects := defects_emitSubsystemState marked hready' sub id report.reason
    report.errorCode .raised mark.detail
  have hunslotted : (marked.lib.subsystems.slotOf sub).isNone = true := by
    change ((mark.apply s.lib.subsystems sub).slotOf sub).isNone = true
    rw [← Option.not_isSome, Mark.apply_eq,
      SubsystemTable.isSome_slotOf_updateSlot _ mark.flags_set, hslot]
    rfl
  simp only [markLinked, if_pos hlinked]
  refine (congrArg Prod.snd hdefects).trans ?_
  rw [hunslotted, Bool.or_true]

theorem Work.stray {s s' : State B} (h : Work .all s s') (hready : s.lib.portReady = true)
    (hstray : s.world.stray = true) : s'.world.stray = true :=
  (Work.keeps hready h).mono hstray

theorem applyFinalAction_stray (hready : s.lib.portReady = true) {action : Action} {mark : Mark}
    (hmark : action.mark? = some mark)
    (hlinked : (s.lib.entities id).desc.linkedSubsystem ≠ subsystemNone)
    (hslot : s.lib.subsystems.slotOf (s.lib.entities id).desc.linkedSubsystem = none) :
    (applyFinalAction s id action report).world.stray = true := by
  have hmarked : ∀ mark : Mark,
      (markLinked mark.apply mark.detail s id report).lib.portReady = true ∧
        (markLinked mark.apply mark.detail s id report).world.stray = true := by
    intro mark
    refine ⟨?_, markLinked_stray hready mark hlinked hslot⟩
    rw [markLinked_lib]
    exact hready
  cases action with
  | degrade =>
      exact (enterDegradedModeUnsafe_work _).stray (hmarked .degraded).1 (hmarked .degraded).2
  | unavailable =>
      refine Work.stray ?_ (hmarked .unavailable).1 (hmarked .unavailable).2
      exact (enterDegradedModeUnsafe_work _).trans (evaluateDualPath_work _)
  | safe =>
      exact (enterSafeModeUnsafe_work _).stray (hmarked .unavailable).1 (hmarked .unavailable).2
  | reboot =>
      exact (tryRebootUnsafe_work _ _).stray (hmarked .unavailable).1 (hmarked .unavailable).2
  | none | restart | other code => cases hmark

theorem recoverEntity_stray (hready : s.lib.portReady = true)
    (hid : report.entity < s.lib.health.entityLimit)
    {mark : Mark} (hmark : (s.lib.verdict (answers s report) report).2.mark? = some mark)
    (hlinked : (s.lib.entities report.entity).desc.linkedSubsystem ≠ subsystemNone)
    (hslot : s.lib.subsystems.slotOf (s.lib.entities report.entity).desc.linkedSubsystem = none) :
    (recoverEntity s report).world.stray = true := by
  obtain ⟨struck, hwork, hsubsystems, hdesc, hrun⟩ := @recoverEntity_struck B .all s report hid
    trivial trivial fun _ ↦ trivial
  have hready' : struck.lib.portReady = true := (Work.keeps hready hwork).ready.trans hready
  have hfinal : Work .all struck (applyFinalAction struck report.entity
      (s.lib.verdict (answers s report) report).2 report) :=
    applyFinalAction_work struck _ _ _ fun _ _ _ ↦ trivial
  rw [hrun]
  refine (evaluateDualPath_work _).stray ((Work.keeps hready' hfinal).ready.trans hready') ?_
  apply applyFinalAction_stray hready' hmark
  · rwa [hdesc]
  · rwa [hdesc, hsubsystems]

end Stray

namespace Ground

variable {g : Ground B}

theorem Sound.stray_step (h : g.Sound) {turn : Turn} {mark : Mark} {sub : SubsystemId}
    (hstrikes : g.machine.Strikes turn mark sub)
    (hslot : g.machine.state.lib.subsystems.slotOf sub = none) :
    (g.step turn).machine.state.world.stray = true := by
  obtain @⟨thread, report, ret, mark, hpc, hraises, hid, hmark, hlinked⟩ := hstrikes
  have hraised := raisedState_lib g.machine.state report
  have hmark' : ((raisedState g.machine.state report).lib.verdict
      (answers (raisedState g.machine.state report) report) report).2.mark? = some mark := by
    rwa [hraised]
  rw [step_machine, Machine.step_of_handling hpc,
    handleFailureLocked_of_known hraises (h.sound.known hid)]
  refine (congrArg Prod.snd (defects_syncExit _)).trans
    (recoverEntity_stray (raisedState_ready h.sound report) (raisedState_limit h.sound.limit_eq hid)
      hmark' ?_ ?_)
  · rwa [hraised]
  · rwa [hraised]

end Ground

/-! ## A text that is cut -/

theorem Mark.set_eq_of_flags {mark : Mark} {slot : SubsystemSlot}
    (havailable : (mark.set slot).available = slot.available)
    (hdegraded : (mark.set slot).degraded = slot.degraded) : mark.set slot = slot := by
  obtain ⟨used, desc, available, degraded⟩ := slot
  cases mark with
  | available | unavailable | degraded => simp_all [Mark.set]

theorem Action.mark_of_mark? {action : Action} {mark : Mark} (h : action.mark? = some mark) :
    action.mark = mark.apply := by
  cases action with
  | degrade | unavailable | safe | reboot =>
      obtain rfl := Option.some.inj h
      rfl
  | none | restart | other code => cases h

namespace Machine

variable {m : Machine B} {turn : Turn} {mark : Mark} {sub : SubsystemId}

theorem Strikes.subsystems (hs : m.state.lib.Sound) (h : m.Strikes turn mark sub) :
    (m.step turn).state.lib.subsystems = mark.apply m.state.lib.subsystems sub := by
  obtain @⟨thread, report, ret, mark, hpc, hraises, hid, hmark, hlinked⟩ := h
  have hstruck := Lib.struck_handle hs (answers (raisedState m.state report) report) hraises hid
  rw [step_of_handling hpc, handleFailureLocked_lib hs.limit_eq, hstruck.linked hlinked,
    Action.mark_of_mark? hmark]

theorem Marks.subsystems (hs : m.state.lib.Sound) (h : m.Marks turn mark sub)
    (hslot : (m.state.lib.subsystems.slotOf sub).isSome) :
    (m.step turn).state.lib.subsystems = mark.apply m.state.lib.subsystems sub := by
  cases h with
  | struck hstrikes => exact hstrikes.subsystems hs
  | @called thread c _ _ hidle hc =>
      have hmarked : ∀ (mark : Mark) (phase : Phase),
          (markSubsystem mark.apply phase mark.detail m.state sub).lib.subsystems =
            mark.apply m.state.lib.subsystems sub := by
        intro mark phase
        simp only [markSubsystem, syncEnter_lib, if_pos hslot]
        simp
      cases c with
      | subsystemMarkAvailable id =>
          obtain ⟨rfl, rfl⟩ := Prod.mk.inj (Option.some.inj hc)
          rw [step_of_single hidle rfl]
          exact hmarked .available .cleared
      | subsystemMarkUnavailable id =>
          obtain ⟨rfl, rfl⟩ := Prod.mk.inj (Option.some.inj hc)
          rw [step_of_single hidle rfl]
          exact hmarked .unavailable .raised
      | subsystemMarkDegraded id =>
          obtain ⟨rfl, rfl⟩ := Prod.mk.inj (Option.some.inj hc)
          rw [step_of_single hidle rfl]
          exact hmarked .degraded .raised
      | _ => cases hc

/-- A turn whose mark is cut moves nothing that ground sees. -/
theorem Marks.within (h : m.Marks turn mark sub) (hcut : B.detailSize ≤ mark.detail.length) :
    m.Within (.cut B) turn where
  call := by
    rintro thread c rfl - -
    rcases h with ⟨-, hc⟩ | ⟨⟨⟩⟩
    cases c with
    | subsystemRegister => exact fun _ ↦ trivial
    | subsystemMarkAvailable | subsystemMarkUnavailable | subsystemMarkDegraded =>
        obtain ⟨rfl, -⟩ := Prod.mk.inj (Option.some.inj hc)
        exact fun _ ↦ hcut
    | _ => exact trivial
  entity := fun _ _ _ _ _ _ ↦ trivial
  linked := by
    rintro thread report ret rfl hpc hraises hid
    refine ⟨fun _ ↦ trivial, fun mark' hmark' _ ↦ ?_⟩
    rcases h with - | hstrikes
    obtain @⟨_, report', ret', mark, hpc', -, -, hmark, -⟩ := hstrikes
    obtain ⟨rfl, -⟩ := Pc.handleLocked.inj (hpc.symm.trans hpc')
    rw [hmark] at hmark'
    obtain rfl := Option.some.inj hmark'
    exact hcut

end Machine

namespace Ground

variable {g : Ground B}

/-- Ground misses a mark whose text is cut, if it changes a flag. -/
theorem Sound.told_of_informed (h : g.Sound) {turn : Turn} (hinformed : (g.step turn).Informed)
    {mark : Mark} {sub : SubsystemId} (hmarks : g.machine.Marks turn mark sub) :
    mark.Told B g.machine.state.lib.subsystems sub := by
  refine or_iff_not_imp_left.mpr fun hlength slot hslot ↦ ?_
  have hcut := Nat.le_of_not_lt hlength
  have hissued : g.machine.issued turn = none := by
    refine issued_eq_none fun thread desc outId hturn ↦ ?_
    subst hturn
    rcases hmarks with ⟨-, hc⟩ | ⟨⟨⟩⟩
    cases hc
  obtain ⟨new, hnew⟩ := g.machine.recounts h.sound trivial (hmarks.within hcut)
  obtain ⟨havailable, hdegraded⟩ := hnew.tells.unmoved g.replay
  have hmarked : (g.step turn).machine.state.lib.subsystems.slotOf sub = some (mark.set slot) := by
    rw [step_machine, hmarks.subsystems h.sound (hslot ▸ rfl), Mark.apply_eq,
      SubsystemTable.slotOf_updateSlot _ mark.flags_set, if_pos rfl, hslot]
    rfl
  have hbefore := h.informed.replay.flags sub slot hslot
  have hafter := hinformed.replay.flags sub _ hmarked
  rw [step_of_not_issued hissued hnew.events] at hafter
  dsimp only at hafter
  rw [havailable, hdegraded] at hafter
  apply Mark.set_eq_of_flags
  · exact hafter.1.symm.trans hbefore.1
  · exact hafter.2.symm.trans hbefore.2

/-- A turn keeps ground informed exactly if it can be traced. -/
theorem Sound.informed_iff (h : g.Sound) (turn : Turn) :
    (g.step turn).Informed ↔ g.machine.Traceable turn := by
  constructor
  · intro hinformed
    refine ⟨fun mark sub hstrikes ↦ ?_, fun mark sub ↦ h.told_of_informed hinformed⟩
    rw [Option.isSome_iff_ne_none]
    intro hslot
    have hstray := h.stray_step hstrikes hslot
    rw [hinformed.straight] at hstray
    cases hstray
  · intro htraceable
    by_cases hcall : ∃ thread desc outId, turn = .call thread (.subsystemRegister desc outId)
    · obtain ⟨thread, desc, outId, rfl⟩ := hcall
      exact h.informed_register thread desc outId
    · have hother : ∀ thread desc outId,
          turn ≠ .call thread (.subsystemRegister desc outId) :=
        fun thread desc outId hturn ↦ hcall ⟨thread, desc, outId, hturn⟩
      exact h.informed_step hother (htraceable.within h.sound hother)

theorem Sound.step (h : g.Sound) {turn : Turn} (hinformed : (g.step turn).Informed) :
    (g.step turn).Sound := by
  refine ⟨?_, ?_, hinformed⟩
  · rw [step_machine]
    exact (g.machine.stride turn).sound h.sound
  · rw [step_machine]
    exact h.modes_step turn

theorem started_sound (clock : ℕ) (pace : List Obs → ℕ) (config : Option Config)
    (lock unlock : Bool) : (started clock pace config lock unlock : Ground B).Sound where
  sound := Fdir.started_sound clock pace config lock unlock
  modes := ⟨List.isChain_nil, nofun⟩
  informed := ⟨⟨rfl, nofun⟩, List.isChain_nil, rfl, rfl⟩

/-- In every run, of any threads: the events are a faithful record after every turn if
and only if every turn can be traced. -/
theorem events_faithful_iff (clock : ℕ) (pace : List Obs → ℕ) (config : Option Config)
    (lock unlock : Bool) (turns : List Turn) :
    Run.Along step (fun g turn ↦ (g.step turn).Informed)
        (started clock pace config lock unlock : Ground B) turns ↔
      Run.Along step (fun g turn ↦ g.machine.Traceable turn)
        (started clock pace config lock unlock : Ground B) turns :=
  Run.along_congr Sound (fun _ _ h hinformed ↦ h.step hinformed)
    (fun _ turn h ↦ h.informed_iff turn) (started_sound clock pace config lock unlock)

/-- An entity whose failure degrades a subsystem that was never registered. -/
def dangling : EntityDesc :=
  { EntityDesc.zero with linkedSubsystem := 0, onExhausted := .degrade }

/-- A failure of an entity linked to a subsystem that is not registered emits an event
of that subsystem. -/
theorem event_of_unregistered :
    ¬ Run.Along step (fun g turn ↦ (g.step turn).Informed)
      (started 0 (fun _ ↦ 1) none true true : Ground .default)
      [.call 0 (.entityRegister (some dangling) true),
        .call 0 (.handleFailure (some { FailureReport.zero with reason := .user })),
        .advance 0, .advance 0] := by
  rintro ⟨-, -, -, hinformed, -⟩
  have hstraight := hinformed.straight
  revert hstraight
  decide

end Ground

end Fdir
