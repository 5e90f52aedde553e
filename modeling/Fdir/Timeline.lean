import Fdir.Foundation.Run
import Fdir.Foundation.Wrapped
import Fdir.EventLog

/-!
# The time stamps of the event log

Every event carries a clock reading of its own, taken under the lock it is emitted under.  The
log is therefore in the order of true time under any interleaving, and ground recovers the
true times from the 32-bit stamps if no two neighbours are a turn of the clock apart.
-/

namespace Fdir

open Foundation

variable {B : Build} {scope : Scope}

/-- `times` are true times between two states, in order, that the stamps of the events
emitted between them show. -/
structure State.Chronicle (s s' : State B) (times : List ℕ) : Prop where
  ready : s'.lib.portReady = s.lib.portReady
  stamps : ∃ new, s'.events = s.events ++ new ∧
    new.map Event.timestampMs = times.map UInt32.ofNat
  ordered : (s.world.clock :: times).IsChain (· ≤ ·)
  past : ∀ t ∈ s.world.clock :: times, t ≤ s'.world.clock

namespace State.Chronicle

variable {s s' s'' : State B} {times times' : List ℕ}

theorem length_events (h : s.Chronicle s' times) :
    s'.events.length = s.events.length + times.length := by
  obtain ⟨new, hevents, hnew⟩ := h.stamps
  have hlength := congrArg List.length hnew
  rw [hevents, List.length_append]
  simpa using hlength

/-- A step without an event. -/
theorem quiet (hready : s'.lib.portReady = s.lib.portReady) (hevents : s'.events = s.events)
    (hclock : s.world.clock ≤ s'.world.clock) : s.Chronicle s' [] where
  ready := hready
  stamps := ⟨[], by rw [hevents, List.append_nil], rfl⟩
  ordered := .singleton _
  past t ht := (List.mem_singleton.mp ht).trans_le hclock

theorem of_lib_eq (hlib : s'.lib = s.lib) (hevents : s'.events = s.events)
    (hclock : s.world.clock ≤ s'.world.clock) : s.Chronicle s' [] :=
  quiet (by rw [hlib]) hevents hclock

theorem trans (h : s.Chronicle s' times) (h' : s'.Chronicle s'' times') :
    s.Chronicle s'' (times ++ times') where
  ready := h'.ready.trans h.ready
  stamps := by
    obtain ⟨new, hevents, hnew⟩ := h.stamps
    obtain ⟨new', hevents', hnew'⟩ := h'.stamps
    exact ⟨new ++ new', by rw [hevents', hevents, List.append_assoc],
      by rw [List.map_append, List.map_append, hnew, hnew']⟩
  ordered := by
    rw [← List.cons_append]
    refine h.ordered.append h'.ordered.tail ?_
    intro t ht t' ht'
    cases times' with
    | nil => cases ht'
    | cons first rest =>
        obtain rfl : first = t' := by simpa using ht'
        exact (h.past t (List.mem_of_mem_getLast? ht)).trans
          (List.isChain_cons_cons.mp h'.ordered).1
  past t ht := by
    have hnow : s'.world.clock ≤ s''.world.clock := h'.past _ List.mem_cons_self
    rw [← List.cons_append] at ht
    rcases List.mem_append.mp ht with hearlier | hlater
    · exact (h.past t hearlier).trans hnow
    · exact h'.past t (List.mem_cons_of_mem _ hlater)

theorem read (s : State B) : s.Chronicle (getNowMs s).2 [] :=
  of_lib_eq (getNowMs_lib s) (events_getNowMs s) (silent_getNowMs s).clock_le

/-- An event that carries the reading of the moment. -/
theorem emit (hready : s.lib.portReady = true) {e : Event}
    (hstamp : e.timestampMs = (getNowMs s).1) :
    s.Chronicle (emitEvent (getNowMs s).2 e) [(getNowMs s).2.world.clock] := by
  have hread := getNowMs_fst_eq hready
  have hready' : (getNowMs s).2.lib.portReady = true := by rwa [getNowMs_lib]
  have hlater : s.world.clock ≤ (getNowMs s).2.world.clock := (silent_getNowMs s).clock_le
  have hclock : (emitEvent (getNowMs s).2 e).world.clock = (getNowMs s).2.world.clock := by
    rw [emitEvent, if_pos hready']
    rfl
  constructor
  · rw [emitEvent_lib, getNowMs_lib]
  · refine ⟨[e], ?_, ?_⟩
    · rw [events_emitEvent hready', events_getNowMs]
    · rw [List.map_singleton, List.map_singleton, hstamp, hread]
  · exact List.isChain_pair.mpr hlater
  · intro t ht
    rw [hclock]
    rcases List.mem_pair.mp ht with rfl | rfl
    · exact hlater
    · exact le_rfl

end State.Chronicle

section Steps

variable {s s' : State B}

/-- Every event of an act carries the reading taken for it. -/
theorem Act.chronicle (hact : Act scope s s') (hready : s.lib.portReady = true) :
    ∃ times, s.Chronicle s' times := by
  cases hact with
  | clock => exact ⟨[], .read s⟩
  | stamp id =>
      refine ⟨[], .of_lib_eq (stamp_lib s id) (events_stamp s id) ?_⟩
      rw [State.stamp]
      split <;> rfl
  | call ho => exact ⟨[], .of_lib_eq rfl (events_log ho s) le_rfl⟩
  | consult => exact ⟨[], .of_lib_eq rfl (events_log rfl s) le_rfl⟩
  | reboot why =>
      rw [requestReboot, if_pos hready]
      exact ⟨[], .of_lib_eq rfl (events_log rfl s) le_rfl⟩
  | write f hf => exact ⟨[], .quiet hf.ready rfl le_rfl⟩
  | event => exact ⟨_, .emit hready rfl⟩
  | mode mode entity detail hmode =>
      have hwritten : s.Chronicle (s.write fun l ↦ { l with mode := mode }) [] :=
        .quiet rfl rfl le_rfl
      exact ⟨_, hwritten.trans (.emit (by exact hready) rfl)⟩
  | mark mark sub entity reason errorCode phase hsub =>
      have hwritten : s.Chronicle (s.write fun l ↦ { l with
          subsystems := mark.apply l.subsystems sub }) [] := .quiet rfl rfl le_rfl
      exact ⟨_, hwritten.trans (.emit (by exact hready) rfl)⟩
  | override => exact ⟨_, .emit hready rfl⟩
  | enrol => exact ⟨[], .quiet rfl rfl le_rfl⟩

theorem Work.chronicle (hwork : Work scope s s') (hready : s.lib.portReady = true) :
    ∃ times, s.Chronicle s' times := by
  induction hwork with
  | refl => exact ⟨[], .quiet rfl rfl le_rfl⟩
  | tail _ hact ih =>
      obtain ⟨times, htimes⟩ := ih
      obtain ⟨more, hmore⟩ := hact.chronicle (htimes.ready.trans hready)
      exact ⟨times ++ more, htimes.trans hmore⟩

theorem Stretch.chronicle (hstretch : Stretch scope s s') (hready : s.lib.portReady = true) :
    ∃ times, s.Chronicle s' times := by
  cases hstretch with
  | critical hwork =>
      have hentered : s.Chronicle (syncEnter s) [] :=
        .of_lib_eq (syncEnter_lib s) (events_syncEnter s) (silent_syncEnter s).clock_le
      obtain ⟨times, htimes⟩ := hwork.chronicle (hentered.ready.trans hready)
      exact ⟨_, hentered.trans (htimes.trans (.of_lib_eq (syncExit_lib _) (events_syncExit _)
        (silent_syncExit _).clock_le))⟩
  | clock => exact ⟨[], .read s⟩
  | call ho => exact ⟨[], .of_lib_eq rfl (events_log ho s) le_rfl⟩

theorem Trail.chronicle (htrail : Trail scope s s') (hready : s.lib.portReady = true) :
    ∃ times, s.Chronicle s' times := by
  induction htrail with
  | refl => exact ⟨[], .quiet rfl rfl le_rfl⟩
  | tail _ hstretch ih =>
      obtain ⟨times, htimes⟩ := ih
      obtain ⟨more, hmore⟩ := hstretch.chronicle (htimes.ready.trans hready)
      exact ⟨times ++ more, htimes.trans hmore⟩

end Steps

namespace Machine

theorem chronicle_step {m : Machine B} (hs : m.state.lib.Sound) (turn : Turn) :
    ∃ times, m.state.Chronicle (m.step turn).state times := by
  have hconsults : Scope.all.consults := trivial
  rcases m.trail hs hconsults (m.within_all turn) with htrail | ⟨ms, -, hstate⟩
  · exact htrail.chronicle hs.ready
  · rw [hstate]
    exact ⟨[], .quiet rfl rfl (Nat.le_add_right _ _)⟩

/-- One list of times fits a run and each moment of it: what is logged before the moment has
happened by then, and the rest has not. -/
theorem chronicle_run {m : Machine B} (hs : m.state.lib.Sound) (hlog : m.state.events = [])
    (turns : List Turn) :
    ∃ times : List ℕ, m.state.Chronicle (Run.run step m turns).state times ∧
      ∀ before, before <+: turns →
        let now := (Run.run step m before).state
        m.state.Chronicle now (times.take now.events.length) ∧
          now.Chronicle (Run.run step m turns).state (times.drop now.events.length) := by
  induction turns using List.reverseRecOn with
  | nil =>
      have hnone : m.state.Chronicle m.state [] := .quiet rfl rfl le_rfl
      refine ⟨[], hnone, fun before hbefore ↦ ?_⟩
      obtain rfl := List.prefix_nil.mp hbefore
      simpa using hnone
  | append_singleton turns turn ih =>
      obtain ⟨times, hwhole, htimes⟩ := ih
      have hsound : (Run.run step m turns).state.lib.Sound :=
        Run.invariant (fun m : Machine B ↦ m.state.lib.Sound)
          (fun m turn h ↦ (m.stride turn).sound h) hs turns
      obtain ⟨more, hmore⟩ := chronicle_step hsound turn
      rw [← Run.run_concat step] at hmore
      have hlonger := hwhole.trans hmore
      refine ⟨times ++ more, hlonger, ?_⟩
      intro before hbefore now
      rcases List.prefix_concat_iff.mp hbefore with rfl | hearlier
      · have hlength := hlonger.length_events
        rw [hlog, List.length_nil, Nat.zero_add] at hlength
        rw [show now.events.length = (times ++ more).length from hlength, List.take_length,
          List.drop_length]
        exact ⟨hlonger, .quiet rfl rfl le_rfl⟩
      · obtain ⟨hpast, hrest⟩ := htimes before hearlier
        have hlength := hpast.length_events
        rw [hlog, List.length_nil, Nat.zero_add, List.length_take] at hlength
        have hle : now.events.length ≤ times.length := hlength.trans_le (Nat.min_le_right _ _)
        rw [List.take_append_of_le_length hle, List.drop_append_of_le_length hle]
        exact ⟨hpast, hrest.trans hmore⟩

end Machine

/-- Under any interleaving the events show true times in order, each between the moments
before and after it, and ground, which knows when the library was started, recovers them from
the stamps as long as neighbours are less than 2³² ms apart. -/
theorem events_on_timeline (clock : ℕ) (pace : List Obs → ℕ) (config : Option Config)
    (lock unlock : Bool) (turns : List Turn) :
    let start : Machine B := .started clock pace config lock unlock
    let s := (Run.run Machine.step start turns).state
    ∃ times : List ℕ,
      (∀ before, before <+: turns →
        let now := (Run.run Machine.step start before).state
        start.state.Chronicle now (times.take now.events.length) ∧
          now.Chronicle s (times.drop now.events.length)) ∧
      (List.IsChain (fun t t' ↦ t ≤ t' ∧ t' < t + 2 ^ 32) (start.state.world.clock :: times) →
        Wrapped.unwrap (2 ^ 32) start.state.world.clock
          (s.events.map fun e ↦ e.timestampMs.toNat) = times) := by
  intro start s
  have hlog : start.state.events = [] := rfl
  have hsound : start.state.lib.Sound := started_sound clock pace config lock unlock
  obtain ⟨times, hwhole, htimes⟩ := Machine.chronicle_run hsound hlog turns
  refine ⟨times, htimes, fun hapart ↦ ?_⟩
  obtain ⟨new, hevents, hnew⟩ := hwhole.stamps
  rw [hlog, List.nil_append] at hevents
  have hreadings : s.events.map (fun e ↦ e.timestampMs.toNat) = times.map (· % 2 ^ 32) := by
    have htoNat := congrArg (List.map UInt32.toNat) hnew
    rw [← hevents] at htoNat
    simpa [Function.comp_def] using htoNat
  rw [hreadings]
  exact Wrapped.unwrap_readings hapart

end Fdir
