import Fdir.EventLog

/-!
# The event log as a record of the state

Ground can follow the mode and the subsystems from the events alone, as long as
the text of every mark fits into its event.  An event may be about a subsystem
that is not registered: the library emits such events for an entity that is
linked to an unregistered subsystem, and only then.
-/

namespace Fdir

open Foundation
open Relation (ReflTransGen)

variable {B : Build}

/-! ## Replaying events -/

/-- What the events so far tell of the mode and of each subsystem. -/
structure Replay where
  mode : Mode
  available : SubsystemId → Bool
  degraded : SubsystemId → Bool

namespace Replay

def start : Replay := ⟨.nominal, fun _ ↦ true, fun _ ↦ false⟩

/-- A subsystem is registered. -/
def enrol (r : Replay) (id : SubsystemId) : Replay :=
  { r with
    available := Function.update r.available id true
    degraded := Function.update r.degraded id false }

def event (r : Replay) (e : Event) : Replay :=
  if e.kind = .modeChange then { r with mode := e.mode }
  else if e.level = .subsystem then
    if e.detail = "available".toList then
      { r with
        available := Function.update r.available e.subsystem true
        degraded := Function.update r.degraded e.subsystem false }
    else if e.detail = "unavailable".toList then
      { r with
        available := Function.update r.available e.subsystem false
        degraded := Function.update r.degraded e.subsystem true }
    else if e.detail = "degraded".toList then
      { r with degraded := Function.update r.degraded e.subsystem true }
    else r
  else r

/-- The replay agrees with the mode and with the flags of every registered
subsystem. -/
structure Matches (r : Replay) (l : Lib B) : Prop where
  mode : r.mode = l.mode
  flags : ∀ id slot, l.subsystems.slotOf id = some slot →
    r.available id = slot.available ∧ r.degraded id = slot.degraded

end Replay

/-- The modes announced by the events. -/
def announcedModes (events : List Event) : List Mode :=
  events.filterMap fun e ↦ if e.kind = .modeChange then some e.mode else none

/-! ## The tables under marks and registrations -/

namespace SubsystemTable

theorem slotOf_updateSlot (t : SubsystemTable) {f : SubsystemSlot → SubsystemSlot} (hf : Flags f)
    (id other : SubsystemId) :
    (t.updateSlot id f).slotOf other =
      if other = id then (t.slotOf id).map f else t.slotOf other := by
  have hsome := isSome_slotOf_updateSlot t hf id other
  cases hslot : (t.updateSlot id f).slotOf other with
  | none =>
      rw [hslot, Option.isSome_none, eq_comm, Option.isSome_eq_false_iff,
        Option.isNone_iff_eq_none] at hsome
      split
      · next hother =>
        rw [← hother, hsome]
        rfl
      · exact hsome.symm
  | some slot =>
      rw [hslot, Option.isSome_some, eq_comm, Option.isSome_iff_exists] at hsome
      obtain ⟨old, hold⟩ := hsome
      have hnew := slotOf_eq_some hslot
      rw [updateSlot_subs, slotOf_eq_some hold] at hnew
      by_cases hother : other = id
      · subst hother
        rw [if_pos ⟨rfl, by rw [hold]; rfl⟩] at hnew
        rw [if_pos rfl, hold, Option.map_some, hnew]
      · rw [if_neg fun hboth ↦ hother hboth.1] at hnew
        rw [if_neg hother, hold, hnew]

theorem slotOf_enrol {t : SubsystemTable} {slot found : SubsystemSlot} {id : SubsystemId}
    (h : (t.enrol slot).slotOf id = some found) :
    id = t.subCount ∧ found = slot ∨ id ≠ t.subCount ∧ t.slotOf id = some found := by
  have hfound := slotOf_eq_some h
  by_cases hid : id = t.subCount
  · subst hid
    left
    refine ⟨rfl, ?_⟩
    rw [← hfound]
    exact Function.update_self _ _ _
  · right
    have hsubs : (t.enrol slot).subs id = t.subs id := Function.update_of_ne hid _ _
    refine ⟨hid, ?_⟩
    unfold slotOf at h ⊢
    rw [hsubs] at h
    split at h
    · cases h
    · next hin =>
      rw [Bool.or_eq_true, not_or, decide_eq_true_eq, UInt8.not_le] at hin
      have hlt : id < t.subCount := by
        have hcount : (t.enrol slot).subCount = t.subCount + 1 := rfl
        have hlow := hin.1
        rw [hcount, UInt8.lt_iff_toNat_lt, UInt8.toNat_add, UInt8.toNat_one] at hlow
        have hne : id.toNat ≠ t.subCount.toNat := fun heq ↦ hid (UInt8.toNat_inj.mp heq)
        rw [UInt8.lt_iff_toNat_lt]
        omega
      have hout : ¬ (decide (t.subCount ≤ id) || !(t.subs id).used) = true := by
        rw [Bool.or_eq_true, not_or, decide_eq_true_eq, UInt8.not_le]
        exact ⟨hlt, hin.2⟩
      rw [if_neg hout]
      exact h

end SubsystemTable

/-- The flags a mark leaves in a slot. -/
def Mark.set : Mark → SubsystemSlot → SubsystemSlot
  | .available, slot => { slot with available := true, degraded := false }
  | .unavailable, slot => { slot with available := false, degraded := true }
  | .degraded, slot => { slot with degraded := true }

theorem Mark.flags_set (mark : Mark) : SubsystemTable.Flags mark.set := by
  cases mark <;> exact ⟨fun _ ↦ rfl, fun _ ↦ rfl⟩

theorem Mark.apply_eq (mark : Mark) (t : SubsystemTable) (id : SubsystemId) :
    mark.apply t id = t.updateSlot id mark.set := by
  cases mark <;> rfl

/-! ## Texts that fit -/

theorem copyDetail_of_le {size : ℕ} {text : CStr} (h : text.length < size) :
    copyDetail size (some text) = text :=
  List.take_of_length_le (by omega)

theorem Mark.eq_of_prefix {mark mark' : Mark} (h : mark'.detail <+: mark.detail) :
    mark' = mark := by
  cases mark <;> cases mark' <;> first | rfl | exact absurd h (by decide)

theorem Mark.cut_ne {size : ℕ} {mark : Mark} (h : size ≤ mark.detail.length) (mark' : Mark) :
    copyDetail size (some mark.detail) ≠ mark'.detail := by
  intro heq
  obtain rfl : mark' = mark := Mark.eq_of_prefix (heq ▸ List.take_prefix _ _)
  have hlength : (mark'.detail.take (size - 1)).length = mark'.detail.length :=
    congrArg List.length heq
  have hpos : 0 < mark'.detail.length := by
    cases mark' <;> exact Nat.succ_pos _
  rw [List.length_take] at hlength
  omega

/-- The text of an override is none of the others, wherever it is cut. -/
theorem override_ne (size : ℕ) (mark : Mark) :
    copyDetail size (some "policy_override".toList) ≠ mark.detail := by
  intro heq
  have hprefix : mark.detail <+: "policy_override".toList := heq ▸ List.take_prefix _ _
  cases mark <;> exact absurd hprefix (by decide)

/-! ## What is told is replayed -/

namespace Replay

variable {r : Replay} {l l' : Lib B} {e : Event}

theorem event_of_changed (hkind : e.kind = .modeChange) : r.event e = { r with mode := e.mode } :=
  if_pos hkind

theorem level_ne_subsystem {scope : Scope}
    (h : e.level = .system ∨ e.level = .entity ∧ scope.entity e.entity) :
    e.level ≠ .subsystem := by
  rcases h with hsystem | ⟨hentity, -⟩
  · rw [hsystem]
    decide
  · rw [hentity]
    decide

theorem event_of_noted (hkind : e.kind ≠ .modeChange) (hlevel : e.level ≠ .subsystem) :
    r.event e = r := by
  rw [event, if_neg hkind, if_neg hlevel]

theorem event_of_overridden (hkind : e.kind ≠ .modeChange)
    (hdetail : ∀ mark : Mark, e.detail ≠ mark.detail) : r.event e = r := by
  have havailable : ¬ e.detail = "available".toList := hdetail .available
  have hunavailable : ¬ e.detail = "unavailable".toList := hdetail .unavailable
  have hdegraded : ¬ e.detail = "degraded".toList := hdetail .degraded
  rw [event, if_neg hkind, if_neg havailable, if_neg hunavailable, if_neg hdegraded, ite_self]

theorem event_of_marked (r : Replay) {mark : Mark} (hkind : e.kind ≠ .modeChange)
    (hlevel : e.level = .subsystem) (hdetail : e.detail = mark.detail) :
    (r.event e).mode = r.mode ∧ (∀ id ≠ e.subsystem,
      (r.event e).available id = r.available id ∧ (r.event e).degraded id = r.degraded id) ∧
    ∀ slot : SubsystemSlot, r.available e.subsystem = slot.available →
      r.degraded e.subsystem = slot.degraded →
        (r.event e).available e.subsystem = (mark.set slot).available ∧
          (r.event e).degraded e.subsystem = (mark.set slot).degraded := by
  rw [event, if_neg hkind, if_pos hlevel, hdetail]
  cases mark with
  | available =>
      rw [if_pos (by decide)]
      refine ⟨rfl, fun id hid ↦ ⟨Function.update_of_ne hid _ _, Function.update_of_ne hid _ _⟩, ?_⟩
      intro slot _ _
      exact ⟨Function.update_self _ _ _, Function.update_self _ _ _⟩
  | unavailable =>
      rw [if_neg (by decide), if_pos (by decide)]
      refine ⟨rfl, fun id hid ↦ ⟨Function.update_of_ne hid _ _, Function.update_of_ne hid _ _⟩, ?_⟩
      intro slot _ _
      exact ⟨Function.update_self _ _ _, Function.update_self _ _ _⟩
  | degraded =>
      rw [if_neg (by decide), if_neg (by decide), if_pos (by decide)]
      refine ⟨rfl, fun id hid ↦ ⟨rfl, Function.update_of_ne hid _ _⟩, ?_⟩
      intro slot havailable _
      exact ⟨havailable, Function.update_self _ _ _⟩

namespace Matches

theorem congr (h : r.Matches l) (hmode : l'.mode = l.mode)
    (hsubs : l'.subsystems = l.subsystems) : r.Matches l' := by
  refine ⟨h.mode.trans hmode.symm, fun id slot hslot ↦ h.flags id slot ?_⟩
  rwa [← hsubs]

theorem enrol (h : r.Matches l) {slot : SubsystemSlot} (havailable : slot.available = true)
    (hdegraded : slot.degraded = false) (hmode : l'.mode = l.mode)
    (hsubs : l'.subsystems = l.subsystems.enrol slot) :
    (r.enrol l.subsystems.subCount).Matches l' := by
  refine ⟨h.mode.trans hmode.symm, fun id found hfound ↦ ?_⟩
  rw [hsubs] at hfound
  rcases SubsystemTable.slotOf_enrol hfound with ⟨rfl, rfl⟩ | ⟨hid, hold⟩
  · rw [havailable, hdegraded]
    exact ⟨Function.update_self _ _ _, Function.update_self _ _ _⟩
  · have hflags := h.flags id found hold
    refine ⟨.trans ?_ hflags.1, .trans ?_ hflags.2⟩
    · exact Function.update_of_ne hid _ _
    · exact Function.update_of_ne hid _ _

theorem mark (h : r.Matches l) {mark : Mark} (hkind : e.kind ≠ .modeChange)
    (hlevel : e.level = .subsystem) (hdetail : e.detail = mark.detail) (hmode : l'.mode = l.mode)
    (hsubs : l'.subsystems = mark.apply l.subsystems e.subsystem) : (r.event e).Matches l' := by
  obtain ⟨hsame, hothers, hself⟩ := r.event_of_marked hkind hlevel hdetail
  refine ⟨hsame.trans (h.mode.trans hmode.symm), fun id found hfound ↦ ?_⟩
  rw [hsubs, Mark.apply_eq, SubsystemTable.slotOf_updateSlot _ mark.flags_set] at hfound
  by_cases hid : id = e.subsystem
  · subst hid
    rw [if_pos rfl, Option.map_eq_some_iff] at hfound
    obtain ⟨slot, hslot, rfl⟩ := hfound
    obtain ⟨havailable, hdegraded⟩ := h.flags _ slot hslot
    exact hself slot havailable hdegraded
  · rw [if_neg hid] at hfound
    obtain ⟨havailable, hdegraded⟩ := h.flags id found hfound
    exact ⟨(hothers id hid).1.trans havailable, (hothers id hid).2.trans hdegraded⟩

end Matches

end Replay

/-- The event of a mark has room for its text, or the mark changes nothing. -/
def Mark.Told (B : Build) (mark : Mark) (t : SubsystemTable) (id : SubsystemId) : Prop :=
  mark.detail.length < B.detailSize ∨ ∀ slot, t.slotOf id = some slot → mark.set slot = slot

/-- The scope of what ground can follow: marks and overrides of registered subsystems
that are told, without registrations. -/
def Scope.followed (B : Build) : Scope where
  entity := fun _ ↦ True
  marks := fun mark t id ↦ (t.slotOf id).isSome ∧ mark.Told B t id
  overrides := fun t id ↦ (t.slotOf id).isSome
  enrols := False
  consults := True
  overflows := True

theorem Replay.Matches.mark_same {r : Replay} {l l' : Lib B} (h : r.Matches l) {mark : Mark}
    {id : SubsystemId} (hsame : ∀ slot, l.subsystems.slotOf id = some slot → mark.set slot = slot)
    (hmode : l'.mode = l.mode) (hsubs : l'.subsystems = mark.apply l.subsystems id) :
    r.Matches l' := by
  refine ⟨h.mode.trans hmode.symm, fun other found hfound ↦ h.flags other found ?_⟩
  rw [hsubs, Mark.apply_eq, SubsystemTable.slotOf_updateSlot _ mark.flags_set] at hfound
  by_cases hother : other = id
  · rw [if_pos hother, Option.map_eq_some_iff] at hfound
    obtain ⟨slot, hslot, rfl⟩ := hfound
    rw [hother, hsame slot hslot, hslot]
  · rwa [if_neg hother] at hfound

theorem Told.matches {l l' : Lib B} {new : List Event} (h : Told (.followed B) l l' new)
    {r : Replay} (hr : r.Matches l) : (new.foldl Replay.event r).Matches l' := by
  cases h with
  | nothing hmode hsubs => exact hr.congr hmode hsubs
  | enrolled slot hscope => exact hscope.elim
  | noted e hkind hlevel hkey hmode hsubs =>
      rw [List.foldl_cons, List.foldl_nil,
        Replay.event_of_noted hkind (Replay.level_ne_subsystem hlevel)]
      exact hr.congr hmode hsubs
  | changed e hkind hlevel hchanged hmode hsubs =>
      rw [List.foldl_cons, List.foldl_nil, Replay.event_of_changed hkind]
      refine ⟨hmode.symm, fun id slot hslot ↦ hr.flags id slot ?_⟩
      rwa [← hsubs]
  | marked mark e hkind hlevel hdetail hkey hsub hmode hsubs =>
      by_cases hlength : mark.detail.length < B.detailSize
      · rw [copyDetail_of_le hlength] at hdetail
        exact hr.mark hkind hlevel hdetail hmode hsubs
      · have hcut := mark.cut_ne (Nat.le_of_not_lt hlength)
        rw [List.foldl_cons, List.foldl_nil,
          Replay.event_of_overridden hkind fun mark' ↦ hdetail ▸ hcut mark']
        exact hr.mark_same (hsub.2.resolve_left hlength) hmode hsubs
  | overridden e hkind hlevel hdetail hkey hsub hmode hsubs =>
      rw [List.foldl_cons, List.foldl_nil, Replay.event_of_overridden hkind
        fun mark ↦ hdetail ▸ override_ne B.detailSize mark]
      exact hr.congr hmode hsubs

theorem Tells.matches {l l' : Lib B} {new : List Event} (h : Tells (.followed B) l l' new)
    {r : Replay} (hr : r.Matches l) : (new.foldl Replay.event r).Matches l' := by
  induction h with
  | refl => exact hr
  | tail _ htold ih =>
      rw [List.foldl_append]
      exact htold.matches ih

/-- The scope of marks whose texts are cut. -/
def Scope.cut (B : Build) : Scope where
  entity := fun _ ↦ True
  marks := fun mark _ _ ↦ B.detailSize ≤ mark.detail.length
  overrides := fun _ _ ↦ True
  enrols := True
  consults := True
  overflows := True

theorem Told.unmoved {l l' : Lib B} {new : List Event} (h : Told (.cut B) l l' new) (r : Replay) :
    (new.foldl Replay.event r).available = r.available ∧
      (new.foldl Replay.event r).degraded = r.degraded := by
  cases h with
  | nothing | enrolled => exact ⟨rfl, rfl⟩
  | noted e hkind hlevel =>
      rw [List.foldl_cons, List.foldl_nil,
        Replay.event_of_noted hkind (Replay.level_ne_subsystem hlevel)]
      exact ⟨rfl, rfl⟩
  | changed e hkind =>
      rw [List.foldl_cons, List.foldl_nil, Replay.event_of_changed hkind]
      exact ⟨rfl, rfl⟩
  | marked mark e hkind hlevel hdetail hkey hsub =>
      rw [List.foldl_cons, List.foldl_nil,
        Replay.event_of_overridden hkind fun mark' ↦ hdetail ▸ mark.cut_ne hsub mark']
      exact ⟨rfl, rfl⟩
  | overridden e hkind hlevel hdetail =>
      rw [List.foldl_cons, List.foldl_nil, Replay.event_of_overridden hkind
        fun mark ↦ hdetail ▸ override_ne B.detailSize mark]
      exact ⟨rfl, rfl⟩

theorem Tells.unmoved {l l' : Lib B} {new : List Event} (h : Tells (.cut B) l l' new)
    (r : Replay) : (new.foldl Replay.event r).available = r.available ∧
      (new.foldl Replay.event r).degraded = r.degraded := by
  induction h with
  | refl => exact ⟨rfl, rfl⟩
  | tail _ htold ih =>
      rw [List.foldl_append]
      obtain ⟨havailable, hdegraded⟩ := htold.unmoved _
      exact ⟨havailable.trans ih.1, hdegraded.trans ih.2⟩

/-! ## Changes of mode -/

/-- Consecutive announcements differ, and the last is the mode in force. -/
structure ModesTold (events : List Event) (mode : Mode) : Prop where
  differ : (announcedModes events).IsChain (· ≠ ·)
  last : ∀ last ∈ (announcedModes events).getLast?, last = mode

theorem ModesTold.quiet {events new : List Event} {mode : Mode} (h : ModesTold events mode)
    (hnew : announcedModes new = []) : ModesTold (events ++ new) mode := by
  have happend : announcedModes (events ++ new) = announcedModes events := by
    rw [announcedModes, List.filterMap_append, ← announcedModes, ← announcedModes, hnew,
      List.append_nil]
  exact ⟨happend ▸ h.differ, happend ▸ h.last⟩

theorem ModesTold.change {events : List Event} {mode : Mode} (h : ModesTold events mode)
    {e : Event} (hkind : e.kind = .modeChange) (hchanged : mode ≠ e.mode) :
    ModesTold (events ++ [e]) e.mode := by
  have happend : announcedModes (events ++ [e]) = announcedModes events ++ [e.mode] := by
    rw [announcedModes, List.filterMap_append, ← announcedModes]
    simp [hkind]
  constructor
  · rw [happend]
    refine h.differ.append (List.isChain_singleton _) fun x hx y hy ↦ ?_
    obtain rfl : e.mode = y := Option.some.inj hy
    rw [h.last x hx]
    exact hchanged
  · intro last hlast
    rw [happend, List.getLast?_concat] at hlast
    exact (Option.some.inj hlast).symm

theorem Told.modes {l l' : Lib B} {new events : List Event} {scope : Scope}
    (h : Told scope l l' new) (hevents : ModesTold events l.mode) :
    ModesTold (events ++ new) l'.mode := by
  have hquiet : ∀ e : Event, e.kind ≠ .modeChange → announcedModes [e] = [] := by
    intro e hkind
    simp [announcedModes, hkind]
  cases h with
  | nothing hmode | enrolled slot henrols hmode =>
      rw [hmode]
      exact hevents.quiet rfl
  | noted e hkind hlevel hkey hmode | marked mark e hkind hlevel hdetail hkey hsub hmode
  | overridden e hkind hlevel hdetail hkey hsub hmode =>
      rw [hmode]
      exact hevents.quiet (hquiet e hkind)
  | changed e hkind hlevel hchanged hmode =>
      rw [hmode]
      exact hevents.change hkind hchanged

theorem Tells.modes {l l' : Lib B} {new events : List Event} {scope : Scope}
    (h : Tells scope l l' new) (hevents : ModesTold events l.mode) :
    ModesTold (events ++ new) l'.mode := by
  induction h with
  | refl => rwa [List.append_nil]
  | tail _ htold ih =>
      rw [← List.append_assoc]
      exact htold.modes ih

/-! ## What events get wrong -/

/-- Whether an event has misstated the mode, or been about an unregistered
subsystem. -/
def State.defects (s : State B) : Bool × Bool := (s.world.misstated, s.world.stray)

section Defects

variable (s : State B)

@[simp] theorem defects_write (f : Lib B → Lib B) : (s.write f).defects = s.defects := rfl

@[simp] theorem defects_log (o : Obs) : (s.log o).defects = s.defects := rfl

@[simp] theorem defects_stamp (id : EntityId) : (s.stamp id).defects = s.defects := by
  unfold State.stamp
  split <;> rfl

@[simp] theorem defects_syncEnter : (syncEnter s).defects = s.defects := by
  unfold syncEnter
  split <;> rfl

@[simp] theorem defects_syncExit : (syncExit s).defects = s.defects := by
  unfold syncExit
  split <;> rfl

@[simp] theorem defects_getNowMs : (getNowMs s).2.defects = s.defects := by
  unfold getNowMs
  split <;> rfl

@[simp] theorem defects_requestReboot (why : CStr) : (requestReboot s why).defects = s.defects := by
  unfold requestReboot
  split <;> rfl

theorem defects_emitEvent {event : Event} (hmode : event.mode = s.lib.mode)
    (hlevel : event.level ≠ .subsystem) : (emitEvent s event).defects = s.defects := by
  unfold emitEvent
  split
  · simp [State.defects, State.emit, hmode, hlevel]
  · rfl

theorem defects_emitEventFull {kind : EventKind} {entity : EntityId} {reason : Reason}
    {errorCode : UInt16} {level : Level} {phase : Phase} {detail : Option CStr} {mode : Mode}
    (hmode : mode = s.lib.mode) (hlevel : level ≠ .subsystem) :
    (emitEventFull s kind mode entity reason errorCode level phase detail).defects =
      s.defects := by
  rw [emitEventFull, defects_emitEvent, defects_getNowMs]
  · rwa [getNowMs_lib]
  · exact hlevel

theorem defects_emitSubsystemState (hready : s.lib.portReady = true) (sub : SubsystemId)
    (entity : EntityId) (reason : Reason) (errorCode : UInt16) (phase : Phase) (detail : CStr) :
    (emitSubsystemState s sub entity reason errorCode phase detail).defects =
      (s.world.misstated, s.world.stray || (s.lib.subsystems.slotOf sub).isNone) := by
  have hnow := defects_getNowMs s
  simp only [State.defects, Prod.mk.injEq] at hnow
  have hready' : (getNowMs s).2.lib.portReady = true := by
    rwa [getNowMs_lib]
  unfold emitSubsystemState emitEvent
  rw [if_pos hready']
  simp [State.defects, State.emit, hnow.1, hnow.2]

end Defects

/-- No event misstates the mode, and a stray event stays on record; there is a new one
only if the scope allows it. -/
structure Keeps (scope : Scope) (s s' : State B) : Prop where
  ready : s'.lib.portReady = s.lib.portReady
  misstated : s'.world.misstated = s.world.misstated
  mono : s.world.stray = true → s'.world.stray = true
  stray : (∀ mark t id, scope.marks mark t id → (t.slotOf id).isSome) →
    (∀ t id, scope.overrides t id → (t.slotOf id).isSome) → s'.world.stray = s.world.stray

namespace Keeps

variable {scope : Scope} {s s' s'' : State B}

theorem of_defects (hready : s'.lib.portReady = s.lib.portReady) (h : s'.defects = s.defects) :
    Keeps scope s s' := by
  rw [State.defects, State.defects, Prod.mk.injEq] at h
  exact ⟨hready, h.1, fun hstray ↦ h.2.trans hstray, fun _ _ ↦ h.2⟩

theorem trans (h : Keeps scope s s') (h' : Keeps scope s' s'') : Keeps scope s s'' where
  ready := h'.ready.trans h.ready
  misstated := h'.misstated.trans h.misstated
  mono := fun hstray ↦ h'.mono (h.mono hstray)
  stray := fun hmarks hoverrides ↦
    (h'.stray hmarks hoverrides).trans (h.stray hmarks hoverrides)

theorem subsystem {sub : SubsystemId} (hready : s'.lib.portReady = s.lib.portReady)
    (hdefects : s'.defects =
      (s.world.misstated, s.world.stray || (s.lib.subsystems.slotOf sub).isNone))
    (hsub : (∀ mark t id, scope.marks mark t id → (t.slotOf id).isSome) →
      (∀ t id, scope.overrides t id → (t.slotOf id).isSome) →
        (s.lib.subsystems.slotOf sub).isSome) : Keeps scope s s' := by
  rw [State.defects, Prod.mk.injEq] at hdefects
  refine ⟨hready, hdefects.1, fun hstray ↦ ?_, fun hmarks hoverrides ↦ ?_⟩
  · rw [hdefects.2, hstray]
    rfl
  · rw [hdefects.2, ← Option.not_isSome, hsub hmarks hoverrides]
    exact Bool.or_false _

end Keeps

section

variable {scope : Scope} {s s' : State B}

theorem Act.keeps (hready : s.lib.portReady = true) (hact : Act scope s s') :
    Keeps scope s s' := by
  obtain ⟨new, hnew⟩ := hact.emits hready
  have hsame := hnew.ready
  cases hact with
  | clock => exact .of_defects hsame (defects_getNowMs s)
  | stamp id => exact .of_defects hsame (defects_stamp s id)
  | call | consult => exact .of_defects hsame rfl
  | reboot why => exact .of_defects hsame (defects_requestReboot s why)
  | write | enrol => exact .of_defects hsame rfl
  | event kind entity reason errorCode level phase detail hkind hlevel =>
      refine .of_defects hsame (defects_emitEventFull s rfl ?_)
      rcases hlevel with rfl | ⟨rfl, -⟩ <;> decide
  | mode mode entity detail hmode =>
      exact .of_defects hsame (defects_emitEventFull _ rfl (by decide))
  | mark mark sub entity reason errorCode phase hsub =>
      have hdefects := defects_emitSubsystemState
        (s.write fun l ↦ { l with subsystems := mark.apply l.subsystems sub }) hready sub entity
        reason errorCode phase mark.detail
      rw [State.write_lib, Mark.apply_eq, ← Option.not_isSome,
        SubsystemTable.isSome_slotOf_updateSlot _ mark.flags_set, Option.not_isSome] at hdefects
      exact .subsystem hsame hdefects fun hmarks _ ↦ hmarks mark _ _ hsub
  | override sub entity reason errorCode phase hsub =>
      exact .subsystem hsame (defects_emitSubsystemState s hready sub entity reason errorCode phase
        "policy_override".toList) fun _ hoverrides ↦ hoverrides _ _ hsub

theorem Work.keeps (hready : s.lib.portReady = true) (hwork : Work scope s s') :
    Keeps scope s s' := by
  induction hwork with
  | refl => exact .of_defects rfl rfl
  | tail _ hact ih => exact ih.trans (hact.keeps (ih.ready.trans hready))

theorem Keeps.enter (scope : Scope) (s : State B) : Keeps scope s (syncEnter s) :=
  .of_defects (congrArg Lib.portReady (syncEnter_lib s)) (defects_syncEnter s)

theorem Keeps.exit (scope : Scope) (s : State B) : Keeps scope s (syncExit s) :=
  .of_defects (congrArg Lib.portReady (syncExit_lib s)) (defects_syncExit s)

theorem Keeps.clock (scope : Scope) (s : State B) : Keeps scope s (getNowMs s).2 :=
  .of_defects (congrArg Lib.portReady (getNowMs_lib s)) (defects_getNowMs s)

theorem Trail.keeps (hready : s.lib.portReady = true) (htrail : Trail scope s s') :
    Keeps scope s s' := by
  induction htrail with
  | refl => exact .of_defects rfl rfl
  | tail _ hstretch ih =>
      refine ih.trans ?_
      have hready' := ih.ready.trans hready
      cases hstretch with
      | critical hwork =>
          refine (Keeps.enter scope _).trans ((Work.keeps ?_ hwork).trans (.exit scope _))
          rwa [syncEnter_lib]
      | clock => exact .clock scope _
      | call => exact .of_defects rfl rfl

end

end Fdir
