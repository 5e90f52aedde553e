import Fdir.Foundation.Format
import Fdir.Foundation.Tally
import Fdir.Replay

/-!
# Notes of queue overflows

`fdir_log_queue_overflow` prints its three arguments into the detail of an event.  A detail of
31 bytes holds the longest such text with its end, so that ground reads from the event log,
under any interleaving, exactly the overflows that were noted; a shorter one does not.
-/

namespace Fdir

open Foundation

variable {B : Build}

/-! ## The text of a note -/

/-- An overflow of a queue of the application. -/
structure Overflow where
  queueId : UInt16
  overflowDelta : UInt32
  depthHighWater : UInt32
  deriving DecidableEq, Repr

namespace Overflow

variable (o : Overflow)

def fields : List (List Char × ℕ) :=
  [("q".toList, o.queueId.toNat), (" d".toList, o.overflowDelta.toNat),
    (" h".toList, o.depthHighWater.toNat)]

def detail : CStr := Format.print o.fields

/-- The overflow that a text tells of. -/
def ofDetail (text : CStr) : Option Overflow :=
  match Format.read ["q".toList, " d".toList, " h".toList] text with
  | some [queueId, overflowDelta, depthHighWater] =>
      some ⟨UInt16.ofNat queueId, UInt32.ofNat overflowDelta, UInt32.ofNat depthHighWater⟩
  | _ => none

theorem ofDetail_detail : ofDetail o.detail = some o := by
  have hliterals : ∀ literal ∈ o.fields.map Prod.fst, literal ≠ [] ∧ Format.Ends literal := by
    change ∀ literal ∈ ["q".toList, " d".toList, " h".toList], _
    decide
  have hread := Format.read_print (List.forall_mem_map.mp hliterals)
  rw [fields, List.map_cons, List.map_cons, List.map_cons, List.map_nil] at hread
  simp only [ofDetail, detail, fields, hread, List.map_cons, List.map_nil, UInt16.ofNat_toNat,
    UInt32.ofNat_toNat]

theorem length_detail_le : o.detail.length ≤ 30 := by
  have hqueue : (Nat.toDigits 10 o.queueId.toNat).length ≤ 5 :=
    (Nat.length_toDigits_le_iff (by decide) (by decide)).mpr (by have := o.queueId.toNat_lt; omega)
  have hword : ∀ n : UInt32, (Nat.toDigits 10 n.toNat).length ≤ 10 := fun n ↦
    (Nat.length_toDigits_le_iff (by decide) (by decide)).mpr (by have := n.toNat_lt; omega)
  have hdelta := hword o.overflowDelta
  have hwater := hword o.depthHighWater
  have hliterals : "q".toList.length = 1 ∧ " d".toList.length = 2 ∧ " h".toList.length = 2 := by
    decide
  simp only [detail, Format.length_print, fields, List.map_cons, List.map_nil, List.sum_cons,
    List.sum_nil]
  omega

end Overflow

/-- The overflow that an event tells of. -/
def Event.overflow? (e : Event) : Option Overflow :=
  if e.kind = .queueOverflow then Overflow.ofDetail e.detail else none

/-- What ground reads from the event log. -/
def State.overflows (s : State B) : List Overflow := s.events.filterMap Event.overflow?

theorem logQueueOverflow_eq (s : State B) (o : Overflow) :
    logQueueOverflow s o.queueId o.overflowDelta o.depthHighWater =
      syncExit (emitEventFull (syncEnter s) .queueOverflow (syncEnter s).lib.mode entityNone
        .queueOverflow o.queueId .system .raised
        (some (copyDetail B.detailSize (some o.detail)))) := by
  have htext : ∀ n : ℕ, (toString n).toList = Nat.toDigits 10 n := fun n ↦ Nat.toList_repr
  simp only [logQueueOverflow, htext, Overflow.detail, Overflow.fields, Format.print,
    List.append_nil, List.append_assoc]

/-! ## Turns that note no overflow -/

/-- The scope of all that is done without noting an overflow. -/
def Scope.smooth : Scope :=
  ⟨fun _ ↦ True, fun _ _ _ ↦ True, fun _ _ ↦ True, True, True, False⟩

theorem Told.overflows_eq {l l' : Lib B} {new : List Event} (h : Told .smooth l l' new) :
    new.filterMap Event.overflow? = [] := by
  have hother : ∀ e : Event, e.kind ≠ .queueOverflow → [e].filterMap Event.overflow? = [] :=
    fun e he ↦ List.filterMap_cons_none (if_neg he)
  cases h with
  | nothing | enrolled => rfl
  | noted e hkind hlevel hkey hmode hsubs hnote => exact hother e hnote
  | changed e hkind => exact hother e (by rw [hkind]; decide)
  | marked mark e hkind hlevel hdetail hkey hsub hmode hsubs hnote => exact hother e hnote
  | overridden e hkind hlevel hdetail hkey hsub hmode hsubs hnote => exact hother e hnote

theorem Tells.overflows_eq {l l' : Lib B} {new : List Event} (h : Tells .smooth l l' new) :
    new.filterMap Event.overflow? = [] := by
  induction h with
  | refl => rfl
  | tail _ htold ih => rw [List.filterMap_append, ih, htold.overflows_eq, List.append_nil]

theorem Machine.overflows_of_within {m : Machine B} (hs : m.state.lib.Sound) {turn : Turn}
    (h : m.Within .smooth turn) : (m.step turn).state.overflows = m.state.overflows := by
  obtain ⟨new, hnew⟩ := m.recounts hs trivial h
  rw [State.overflows, hnew.events, List.filterMap_append, hnew.tells.overflows_eq,
    List.append_nil, State.overflows]

/-! ## Runs -/

theorem overflows_logQueueOverflow {s : State B} (hready : s.lib.portReady = true)
    (hsize : 31 ≤ B.detailSize) (o : Overflow) :
    (logQueueOverflow s o.queueId o.overflowDelta o.depthHighWater).overflows =
      s.overflows ++ [o] := by
  have hfits : copyDetail B.detailSize (some o.detail) = o.detail :=
    copyDetail_of_le (o.length_detail_le.trans_lt hsize)
  have hready' : (getNowMs (syncEnter s)).2.lib.portReady = true := by
    rwa [getNowMs_lib, syncEnter_lib]
  rw [logQueueOverflow_eq, State.overflows, events_syncExit, emitEventFull,
    events_emitEvent hready', List.filterMap_append, events_getNowMs, events_syncEnter,
    State.overflows, hfits, hfits, List.filterMap_cons, List.filterMap_nil, Event.overflow?,
    if_pos rfl, Overflow.ofDetail_detail]

namespace Machine

/-- The overflow that a turn notes. -/
def noted (m : Machine B) : Turn → List Overflow
  | .call thread (.logQueueOverflow queueId overflowDelta depthHighWater) =>
      if m.pcs thread = .idle then [⟨queueId, overflowDelta, depthHighWater⟩] else []
  | _ => []

/-- A turn that notes no overflow lies in the scope of such turns. -/
theorem within_smooth {m : Machine B} {turn : Turn} (hnoted : m.noted turn = []) :
    m.Within .smooth turn where
  call := by
    rintro thread c rfl hidle -
    cases c with
    | logQueueOverflow =>
        rw [noted, if_pos hidle] at hnoted
        exact absurd hnoted (List.cons_ne_nil _ _)
    | subsystemRegister | subsystemMarkAvailable | subsystemMarkUnavailable
    | subsystemMarkDegraded => exact fun _ ↦ trivial
    | _ => exact trivial
  entity := fun _ _ _ _ _ _ ↦ trivial
  linked := fun _ _ _ _ _ _ _ ↦ ⟨fun _ ↦ trivial, fun _ _ _ ↦ trivial⟩

theorem noted_cases (m : Machine B) (turn : Turn) :
    m.noted turn = [] ∨ ∃ thread, ∃ o : Overflow, m.pcs thread = .idle ∧
      turn = .call thread (.logQueueOverflow o.queueId o.overflowDelta o.depthHighWater) := by
  unfold noted
  split
  · next thread queueId overflowDelta depthHighWater =>
    split
    · next hidle => exact Or.inr ⟨thread, ⟨queueId, overflowDelta, depthHighWater⟩, hidle, rfl⟩
    · exact Or.inl rfl
  · exact Or.inl rfl

theorem overflows_step {m : Machine B} (hs : m.state.lib.Sound) (hsize : 31 ≤ B.detailSize)
    (turn : Turn) : (m.step turn).state.overflows = m.state.overflows ++ m.noted turn := by
  rcases m.noted_cases turn with hnone | ⟨thread, o, hidle, rfl⟩
  · rw [overflows_of_within hs (within_smooth hnone), hnone, List.append_nil]
  · rw [step_of_single hidle rfl, noted, if_pos hidle]
    exact overflows_logQueueOverflow hs.ready hsize o

end Machine

/-- Two overflows whose notes differ in the last of 30 characters. -/
theorem overflow_cut {size : ℕ} (hsize : size ≤ 30) :
    copyDetail size (some (Overflow.mk 65535 4294967295 4294967290).detail) =
      copyDetail size (some (Overflow.mk 65535 4294967295 4294967291).detail) := by
  have hagree : (Overflow.mk 65535 4294967295 4294967290).detail.take 29 =
      (Overflow.mk 65535 4294967295 4294967291).detail.take 29 := by
    decide +kernel
  have hshort : min (size - 1) 29 = size - 1 := by omega
  have hcut := congrArg (List.take (size - 1)) hagree
  rwa [List.take_take, List.take_take, hshort] at hcut

/-- A shorter detail is cut before the last character of the longest note. -/
theorem logQueueOverflow_cut (hsize : B.detailSize < 31) (s : State B) :
    logQueueOverflow s 65535 4294967295 4294967290 =
      logQueueOverflow s 65535 4294967295 4294967291 := by
  have hcut : copyDetail B.detailSize _ = copyDetail B.detailSize _ :=
    overflow_cut (Nat.le_of_lt_succ hsize)
  have hlow := logQueueOverflow_eq s ⟨65535, 4294967295, 4294967290⟩
  have hhigh := logQueueOverflow_eq s ⟨65535, 4294967295, 4294967291⟩
  rw [hcut] at hlow
  exact hlow.trans hhigh.symm

/-- Ground can read from the events of every run, under any interleaving, exactly the overflows
that were noted, in order, if and only if a detail has at least 31 bytes: with fewer there are
two overflows whose notes leave the library and its log in one and the same state. -/
theorem overflows_legible_iff :
    ((∃ read : Event → Option Overflow,
      ∀ (clock : ℕ) (pace : List Obs → ℕ) (config : Option Config) (lock unlock : Bool)
        (turns : List Turn),
        let start : Machine B := .started clock pace config lock unlock
        (Run.run Machine.step start turns).state.events.filterMap read =
          Run.record Machine.step Machine.noted start turns) ↔ 31 ≤ B.detailSize) ∧
      (B.detailSize < 31 → ∃ o o' : Overflow, o ≠ o' ∧ ∀ s : State B,
        logQueueOverflow s o.queueId o.overflowDelta o.depthHighWater =
          logQueueOverflow s o'.queueId o'.overflowDelta o'.depthHighWater) := by
  have hcut : B.detailSize < 31 → ∃ o o' : Overflow, o ≠ o' ∧ ∀ s : State B,
      logQueueOverflow s o.queueId o.overflowDelta o.depthHighWater =
        logQueueOverflow s o'.queueId o'.overflowDelta o'.depthHighWater :=
    fun hsize ↦ ⟨⟨65535, 4294967295, 4294967290⟩, ⟨65535, 4294967295, 4294967291⟩, by decide,
      logQueueOverflow_cut hsize⟩
  refine ⟨⟨?_, ?_⟩, hcut⟩
  · rintro ⟨read, hread⟩
    by_contra hsize
    obtain ⟨o, o', hne, hsame⟩ := hcut (Nat.not_le.mp hsize)
    let start : Machine B := .started 0 (fun _ ↦ 0) none true true
    have hevents : ∀ o : Overflow,
        (logQueueOverflow start.state o.queueId o.overflowDelta o.depthHighWater).events.filterMap
          read = [o] := fun o ↦ hread 0 (fun _ ↦ 0) none true true
            [.call 0 (.logQueueOverflow o.queueId o.overflowDelta o.depthHighWater)]
    have hnotes := hevents o
    rw [hsame start.state, hevents o'] at hnotes
    exact hne (List.singleton_inj.mp hnotes.symm)
  · intro hsize
    refine ⟨Event.overflow?, fun clock pace config lock unlock turns ↦ ?_⟩
    have hsound : (Machine.started clock pace config lock unlock : Machine B).state.lib.Sound :=
      started_sound clock pace config lock unlock
    have hgrows : Run.Along Machine.step (fun (m : Machine B) turn ↦
        (m.step turn).state.overflows = m.state.overflows ++ m.noted turn)
        (.started clock pace config lock unlock) turns := by
      refine Run.along_of_invariant (Q := fun _ _ ↦ True) (fun m ↦ m.state.lib.Sound)
        (fun m turn hs _ ↦ (m.stride turn).sound hs)
        (fun m turn hs _ ↦ Machine.overflows_step hs hsize turn) hsound ?_
      exact Run.along_of_forall (Q := fun _ ↦ True) (fun _ _ _ ↦ trivial) fun _ _ ↦ trivial
    exact Run.log_run (fun m : Machine B ↦ m.state.overflows) hgrows

end Fdir
