import Fdir.Trails

/-!
# The event log

Every act emits at most one event, and the event tells what the act did to the
mode or to a subsystem.  `Tells` says so of a trail: it lists the events emitted
on the way from one state of the static variables to another.
-/

namespace Fdir

open Relation (ReflTransGen)

variable {B : Build} {scope : Scope} {l l' : Lib B} {s s' : State B}

/-- The events of one act, and what it did to the mode and the subsystems. -/
inductive Told (scope : Scope) (l l' : Lib B) : List Event → Prop where
  | nothing (hmode : l'.mode = l.mode) (hsubs : l'.subsystems = l.subsystems) :
      Told scope l l' []
  | enrolled (slot : SubsystemSlot) (henrols : scope.enrols) (hmode : l'.mode = l.mode)
      (hsubs : l'.subsystems = l.subsystems.enrol slot) : Told scope l l' []
  | noted (e : Event) (hkind : e.kind ≠ .modeChange)
      (hlevel : e.level = .system ∨ e.level = .entity ∧ scope.entity e.entity)
      (hkey : e.anomalyId = if e.entity ≠ entityNone then anomalyId e.entity e.reason else 0)
      (hmode : l'.mode = l.mode) (hsubs : l'.subsystems = l.subsystems)
      (hnote : e.kind = .queueOverflow → scope.overflows) : Told scope l l' [e]
  | changed (e : Event) (hkind : e.kind = .modeChange) (hlevel : e.level = .system)
      (hchanged : l.mode ≠ e.mode) (hmode : l'.mode = e.mode)
      (hsubs : l'.subsystems = l.subsystems) : Told scope l l' [e]
  | marked (mark : Mark) (e : Event) (hkind : e.kind ≠ .modeChange)
      (hlevel : e.level = .subsystem)
      (hdetail : e.detail = copyDetail B.detailSize (some mark.detail))
      (hkey : e.anomalyId = subsystemAnomalyId e.subsystem e.reason)
      (hsub : scope.marks mark l.subsystems e.subsystem) (hmode : l'.mode = l.mode)
      (hsubs : l'.subsystems = mark.apply l.subsystems e.subsystem)
      (hnote : e.kind ≠ .queueOverflow) : Told scope l l' [e]
  | overridden (e : Event) (hkind : e.kind ≠ .modeChange) (hlevel : e.level = .subsystem)
      (hdetail : e.detail = copyDetail B.detailSize (some "policy_override".toList))
      (hkey : e.anomalyId = subsystemAnomalyId e.subsystem e.reason)
      (hsub : scope.overrides l.subsystems e.subsystem) (hmode : l'.mode = l.mode)
      (hsubs : l'.subsystems = l.subsystems) (hnote : e.kind ≠ .queueOverflow) :
      Told scope l l' [e]

/-- The events of a trail. -/
inductive Tells (scope : Scope) (l : Lib B) : Lib B → List Event → Prop where
  | refl : Tells scope l l []
  | tail {l' l'' : Lib B} {events new : List Event} (h : Tells scope l l' events)
      (htold : Told scope l' l'' new) : Tells scope l l'' (events ++ new)

/-! ## Acts tell -/

theorem events_emitEvent (hready : s.lib.portReady = true) (event : Event) :
    (emitEvent s event).events = s.events ++ [event] := by
  simp [emitEvent, hready, State.events, Obs.emitted]

theorem events_emitEventFull (hready : s.lib.portReady = true) (kind : EventKind) (mode : Mode)
    (entity : EntityId) (reason : Reason) (errorCode : UInt16) (level : Level) (phase : Phase)
    (detail : Option CStr) :
    ∃ e : Event, (emitEventFull s kind mode entity reason errorCode level phase detail).events =
        s.events ++ [e] ∧
      e.kind = kind ∧ e.mode = mode ∧ e.entity = entity ∧ e.level = level ∧
      e.anomalyId = if e.entity ≠ entityNone then anomalyId e.entity e.reason else 0 := by
  obtain ⟨e, ms, htrace, he⟩ := trace_emitEventFull s hready kind mode entity reason errorCode
    level phase detail
  refine ⟨e, ?_, he⟩
  rw [State.events, htrace, List.filterMap_append]
  rfl

theorem events_emitSubsystemState (hready : s.lib.portReady = true) (sub : SubsystemId)
    (entity : EntityId) (reason : Reason) (errorCode : UInt16) (phase : Phase) (detail : CStr) :
    ∃ e : Event, (emitSubsystemState s sub entity reason errorCode phase detail).events =
        s.events ++ [e] ∧
      e.kind = .failure ∧ e.subsystem = sub ∧ e.level = .subsystem ∧
      e.detail = copyDetail B.detailSize (some detail) ∧
      e.anomalyId = subsystemAnomalyId e.subsystem e.reason := by
  have hready' : (getNowMs s).2.lib.portReady = true := by
    rwa [getNowMs_lib]
  rw [emitSubsystemState, events_emitEvent hready', events_getNowMs]
  exact ⟨_, rfl, rfl, rfl, rfl, rfl, rfl⟩

/-- A step to a state whose log has grown by what was told. -/
structure Emits (scope : Scope) (s s' : State B) (new : List Event) : Prop where
  ready : s'.lib.portReady = s.lib.portReady
  events : s'.events = s.events ++ new
  told : Told scope s.lib s'.lib new

theorem Emits.of_quiet (hlib : s'.lib = s.lib) (hevents : s'.events = s.events) :
    Emits scope s s' [] := by
  refine ⟨by rw [hlib], by rw [hevents, List.append_nil], .nothing ?_ ?_⟩
  · rw [hlib]
  · rw [hlib]

theorem Act.emits (hready : s.lib.portReady = true) (hact : Act scope s s') :
    ∃ new, Emits scope s s' new := by
  cases hact with
  | clock => exact ⟨[], .of_quiet (getNowMs_lib s) (events_getNowMs s)⟩
  | stamp id => exact ⟨[], .of_quiet (stamp_lib s id) (events_stamp s id)⟩
  | call ho => exact ⟨[], .of_quiet rfl (events_log ho s)⟩
  | consult => exact ⟨[], .of_quiet rfl (events_log rfl s)⟩
  | reboot why =>
      refine ⟨[], .of_quiet (requestReboot_lib s why) ?_⟩
      rw [requestReboot, if_pos hready]
      exact events_log rfl s
  | write f hf =>
      exact ⟨[], hf.ready, (List.append_nil _).symm, .nothing hf.mode hf.subsystems⟩
  | event kind entity reason errorCode level phase detail hkind hlevel hnote =>
      obtain ⟨e, hevents, rfl, -, rfl, rfl, hkey⟩ :=
        events_emitEventFull hready kind s.lib.mode entity reason errorCode level phase detail
      exact ⟨[e], by rw [emitEventFull_lib], hevents,
        .noted e hkind hlevel hkey (by rw [emitEventFull_lib]) (by rw [emitEventFull_lib]) hnote⟩
  | mode mode entity detail hmode =>
      let written := s.write fun l ↦ { l with mode := mode }
      have hready' : written.lib.portReady = true := hready
      obtain ⟨e, hevents, hkind, rfl, -, hlevel, -⟩ := events_emitEventFull hready' .modeChange
        mode entity .user 0 .system .raised detail
      exact ⟨[e], by rw [emitEventFull_lib]; rfl, hevents,
        .changed e hkind hlevel hmode (by rw [emitEventFull_lib]; rfl)
          (by rw [emitEventFull_lib]; rfl)⟩
  | mark mark sub entity reason errorCode phase hsub =>
      let written := s.write fun l ↦ { l with subsystems := mark.apply l.subsystems sub }
      have hready' : written.lib.portReady = true := hready
      obtain ⟨e, hevents, hkind, rfl, hlevel, hdetail, hkey⟩ := events_emitSubsystemState hready'
        sub entity reason errorCode phase mark.detail
      exact ⟨[e], by rw [emitSubsystemState_lib]; rfl, hevents,
        .marked mark e (by rw [hkind]; decide) hlevel hdetail hkey hsub
          (by rw [emitSubsystemState_lib]; rfl) (by rw [emitSubsystemState_lib]; rfl)
          (by rw [hkind]; decide)⟩
  | override sub entity reason errorCode phase hsub =>
      obtain ⟨e, hevents, hkind, rfl, hlevel, hdetail, hkey⟩ := events_emitSubsystemState hready
        sub entity reason errorCode phase "policy_override".toList
      exact ⟨[e], by rw [emitSubsystemState_lib], hevents,
        .overridden e (by rw [hkind]; decide) hlevel hdetail hkey hsub
          (by rw [emitSubsystemState_lib]) (by rw [emitSubsystemState_lib])
          (by rw [hkind]; decide)⟩
  | enrol slot henrols =>
      exact ⟨[], rfl, (List.append_nil _).symm, .enrolled slot henrols rfl rfl⟩

/-! ## Trails tell -/

/-- A trail to a state whose log has grown by what was told on the way. -/
structure Recounts (scope : Scope) (s s' : State B) (new : List Event) : Prop where
  ready : s'.lib.portReady = s.lib.portReady
  events : s'.events = s.events ++ new
  tells : Tells scope s.lib s'.lib new

namespace Recounts

variable {s'' : State B} {new : List Event}

theorem refl (s : State B) : Recounts scope s s [] :=
  ⟨rfl, (List.append_nil _).symm, .refl⟩

theorem tail {more : List Event} (h : Recounts scope s s' new) (hemits : Emits scope s' s'' more) :
    Recounts scope s s'' (new ++ more) where
  ready := hemits.ready.trans h.ready
  events := by rw [hemits.events, h.events, List.append_assoc]
  tells := h.tells.tail hemits.told

theorem quiet (h : Recounts scope s s' new) (hlib : s''.lib = s'.lib)
    (hevents : s''.events = s'.events) : Recounts scope s s'' new := by
  have htail := h.tail (.of_quiet hlib hevents)
  rwa [List.append_nil] at htail

theorem work (hready : s.lib.portReady = true) (h : Recounts scope s s' new)
    (hwork : Work scope s' s'') : ∃ more, Recounts scope s s'' more := by
  induction hwork with
  | refl => exact ⟨new, h⟩
  | tail _ hact ih =>
      obtain ⟨more, hmore⟩ := ih
      obtain ⟨last, hlast⟩ := hact.emits (hmore.ready.trans hready)
      exact ⟨more ++ last, hmore.tail hlast⟩

end Recounts

theorem Trail.recounts (hready : s.lib.portReady = true) (htrail : Trail scope s s') :
    ∃ new, Recounts scope s s' new := by
  induction htrail with
  | refl => exact ⟨[], .refl s⟩
  | tail _ hstretch ih =>
      obtain ⟨new, hnew⟩ := ih
      cases hstretch with
      | critical hwork =>
          have hlocked := hnew.quiet (syncEnter_lib _) (events_syncEnter _)
          obtain ⟨more, hmore⟩ := hlocked.work hready hwork
          exact ⟨more, hmore.quiet (syncExit_lib _) (events_syncExit _)⟩
      | clock => exact ⟨new, hnew.quiet (getNowMs_lib _) (events_getNowMs _)⟩
      | call ho => exact ⟨new, hnew.quiet rfl (events_log ho _)⟩

theorem Machine.recounts {m : Machine B} (hs : m.state.lib.Sound) (hconsults : scope.consults)
    {turn : Turn} (h : m.Within scope turn) :
    ∃ new, Recounts scope m.state (m.step turn).state new := by
  rcases m.trail hs hconsults h with htrail | ⟨ms, -, hstate⟩
  · exact Trail.recounts hs.ready htrail
  · rw [hstate]
    exact ⟨[], rfl, (List.append_nil _).symm, .refl⟩

end Fdir
