import Fdir.Outcome

/-!
# Marks of subsystems

A recovery action only ever sets flags of a linked subsystem, so that the marks
of any two actions commute and never lower the count of unavailable critical
subsystems.
-/

namespace Fdir

variable {B : Build}

/-! ## Counting critical subsystems -/

namespace SubsystemTable

theorem toNat_foldl_count (p : ℕ → Bool) (indices : List ℕ) (acc : UInt8)
    (hbound : acc.toNat + indices.length ≤ 255) :
    (indices.foldl (fun count i ↦ if p i then count + 1 else count) acc).toNat =
      acc.toNat + indices.countP p := by
  induction indices generalizing acc with
  | nil => simp
  | cons i indices ih =>
      rw [List.length_cons] at hbound
      rw [List.foldl_cons, List.countP_cons]
      by_cases hp : p i
      · have hnext : (acc + 1).toNat = acc.toNat + 1 := by
          rw [UInt8.toNat_add, UInt8.toNat_one]
          omega
        rw [if_pos hp, ih (acc + 1) (by omega), hnext, if_pos hp]
        omega
      · rw [if_neg hp, ih acc (by omega), if_neg hp, Nat.add_zero]

theorem toNat_criticalUnavailableCount (t : SubsystemTable) :
    t.criticalUnavailableCount.toNat =
      (List.range t.subCount.toNat).countP t.criticalUnavailable := by
  have hcount := t.subCount.toNat_lt
  have hzero : (0 : UInt8).toNat = 0 := rfl
  rw [criticalUnavailableCount, toNat_foldl_count _ _ _ (by rw [List.length_range]; omega), hzero,
    Nat.zero_add]

theorem criticalUnavailableCount_le {t t' : SubsystemTable}
    (h : ∀ i < t'.subCount.toNat, t'.criticalUnavailable i →
      i < t.subCount.toNat ∧ t.criticalUnavailable i) :
    t'.criticalUnavailableCount ≤ t.criticalUnavailableCount := by
  have hsubset : (List.range t'.subCount.toNat).filter t'.criticalUnavailable ⊆
      (List.range t.subCount.toNat).filter t.criticalUnavailable := by
    intro i hi
    rw [List.mem_filter, List.mem_range] at hi ⊢
    exact h i hi.1 hi.2
  rw [UInt8.le_iff_toNat_le, toNat_criticalUnavailableCount, toNat_criticalUnavailableCount,
    List.countP_eq_length_filter, List.countP_eq_length_filter]
  exact ((List.nodup_range.filter _).subperm hsubset).length_le

/-- Marking a slot does not raise the count unless it makes a subsystem
unavailable. -/
theorem criticalUnavailableCount_updateSlot_le (t : SubsystemTable) (id : SubsystemId)
    {f : SubsystemSlot → SubsystemSlot} (hused : ∀ slot, (f slot).used = slot.used)
    (hdesc : ∀ slot, (f slot).desc = slot.desc)
    (havailable : ∀ slot, slot.available = true → (f slot).available = true) :
    (t.updateSlot id f).criticalUnavailableCount ≤ t.criticalUnavailableCount := by
  unfold updateSlot slotOf
  by_cases hslot : t.subCount ≤ id || !(t.subs id).used
  · rw [if_pos hslot]
    exact UInt8.le_refl _
  · rw [if_neg hslot]
    refine criticalUnavailableCount_le fun i hlt hi ↦ ⟨hlt, ?_⟩
    by_cases hid : UInt8.ofNat i = id
    · simp only [criticalUnavailable, hid, Function.update_self, hused, hdesc] at hi ⊢
      cases hold : (t.subs id).available
      · simp_all
      · simp [havailable _ hold] at hi
    · simpa only [criticalUnavailable, Function.update_of_ne hid] using hi

/-! ## Updates of slots -/

/-- What a mark leaves alone: whether a slot is used, and its descriptor. -/
structure Flags (f : SubsystemSlot → SubsystemSlot) : Prop where
  used : ∀ slot, (f slot).used = slot.used
  desc : ∀ slot, (f slot).desc = slot.desc

variable {f g : SubsystemSlot → SubsystemSlot}

@[simp] theorem updateSlot_subCount (t : SubsystemTable) (id : SubsystemId) :
    (t.updateSlot id f).subCount = t.subCount := by
  unfold updateSlot
  split <;> rfl

theorem slotOf_eq_some {t : SubsystemTable} {id : SubsystemId} {slot : SubsystemSlot}
    (h : t.slotOf id = some slot) : t.subs id = slot := by
  unfold slotOf at h
  split at h
  · cases h
  · exact Option.some.inj h

theorem updateSlot_subs (t : SubsystemTable) (id other : SubsystemId) :
    (t.updateSlot id f).subs other =
      if other = id ∧ (t.slotOf id).isSome then f (t.subs other) else t.subs other := by
  cases hslot : t.slotOf id with
  | none => simp [updateSlot, hslot]
  | some slot =>
      simp only [updateSlot, hslot, Option.isSome_some, and_true]
      split
      · next hother => rw [hother, Function.update_self, slotOf_eq_some hslot]
      · next hother => rw [Function.update_of_ne hother]

theorem isSome_slotOf_updateSlot (t : SubsystemTable) (hf : Flags f) (id other : SubsystemId) :
    ((t.updateSlot id f).slotOf other).isSome = (t.slotOf other).isSome := by
  have hused : ((t.updateSlot id f).subs other).used = (t.subs other).used := by
    rw [updateSlot_subs]
    split
    · exact hf.used _
    · rfl
  simp only [slotOf, updateSlot_subCount, hused]
  split <;> rfl

theorem updateSlot_comm (t : SubsystemTable) (hf : Flags f) (hg : Flags g)
    (hcomm : ∀ slot, g (f slot) = f (g slot)) (id other : SubsystemId) :
    (t.updateSlot id f).updateSlot other g = (t.updateSlot other g).updateSlot id f := by
  have hsubs : ((t.updateSlot id f).updateSlot other g).subs =
      ((t.updateSlot other g).updateSlot id f).subs := by
    funext i
    simp only [updateSlot_subs, isSome_slotOf_updateSlot t hf, isSome_slotOf_updateSlot t hg]
    split_ifs
    · exact hcomm _
    all_goals rfl
  have hcount : ((t.updateSlot id f).updateSlot other g).subCount =
      ((t.updateSlot other g).updateSlot id f).subCount := by
    simp only [updateSlot_subCount]
  exact congrArg₂ SubsystemTable.mk hsubs hcount

/-- The descriptor of a registered subsystem. -/
def policy (t : SubsystemTable) (id : SubsystemId) : Option SubsystemDesc :=
  (t.slotOf id).map SubsystemSlot.desc

theorem policy_updateSlot (t : SubsystemTable) (hf : Flags f) (id : SubsystemId) :
    (t.updateSlot id f).policy = t.policy := by
  funext other
  have hdesc : ((t.updateSlot id f).subs other).desc = (t.subs other).desc := by
    rw [updateSlot_subs]
    split
    · exact hf.desc _
    · rfl
  have hsome := isSome_slotOf_updateSlot t hf id other
  unfold policy
  cases hold : t.slotOf other with
  | none =>
      rw [hold, Option.isSome_none, Option.isSome_eq_false_iff, Option.isNone_iff_eq_none] at hsome
      rw [hsome]
  | some slot =>
      rw [hold, Option.isSome_some, Option.isSome_iff_exists] at hsome
      obtain ⟨slot', hnew⟩ := hsome
      rw [hnew, Option.map_some, Option.map_some, ← slotOf_eq_some hnew, hdesc,
        slotOf_eq_some hold]

theorem handler_eq (t : SubsystemTable) (id : SubsystemId) :
    t.handler id = (t.policy id).bind SubsystemDesc.onEntityExhausted := by
  unfold handler policy
  cases t.slotOf id <;> rfl

theorem le_criticalUnavailableCount_updateSlot (t : SubsystemTable) (id : SubsystemId)
    (hf : Flags f) (havailable : ∀ slot, slot.available = false → (f slot).available = false) :
    t.criticalUnavailableCount ≤ (t.updateSlot id f).criticalUnavailableCount := by
  refine criticalUnavailableCount_le fun i hlt hi ↦ ⟨by rwa [updateSlot_subCount], ?_⟩
  simp only [criticalUnavailable, updateSlot_subs, Bool.and_eq_true, Bool.not_eq_true'] at hi ⊢
  split
  · exact ⟨⟨by rw [hf.used]; exact hi.1.1, by rw [hf.desc]; exact hi.1.2⟩, havailable _ hi.2⟩
  · exact hi

end SubsystemTable

/-! ## The marks of actions -/

/-- The flags an action sets in a slot. -/
def Action.set : Action → SubsystemSlot → SubsystemSlot
  | .degrade, slot => { slot with degraded := true }
  | .unavailable, slot | .safe, slot | .reboot, slot =>
      { slot with available := false, degraded := true }
  | .none, slot | .restart, slot | .other _, slot => slot

theorem Action.flags_set (action : Action) : SubsystemTable.Flags action.set := by
  cases action <;> exact ⟨fun _ ↦ rfl, fun _ ↦ rfl⟩

theorem Action.set_comm (action action' : Action) (slot : SubsystemSlot) :
    action'.set (action.set slot) = action.set (action'.set slot) := by
  cases action <;> cases action' <;> rfl

theorem SubsystemTable.updateSlot_self (t : SubsystemTable) (id : SubsystemId) :
    t.updateSlot id (fun slot ↦ slot) = t := by
  unfold updateSlot
  split
  · rfl
  · next hslot => rw [← slotOf_eq_some hslot, Function.update_eq_self]

theorem Action.mark_eq (action : Action) (t : SubsystemTable) (id : SubsystemId) :
    action.mark t id = t.updateSlot id action.set := by
  cases action with
  | degrade | unavailable | safe | reboot => rfl
  | none | restart | other code => exact (t.updateSlot_self id).symm

theorem Action.mark_comm (action action' : Action) (t : SubsystemTable)
    (id id' : SubsystemId) :
    action'.mark (action.mark t id) id' = action.mark (action'.mark t id') id := by
  simp only [Action.mark_eq]
  exact t.updateSlot_comm action.flags_set action'.flags_set (Action.set_comm action action') id id'

theorem Action.policy_mark (action : Action) (t : SubsystemTable) (id : SubsystemId) :
    (action.mark t id).policy = t.policy := by
  rw [Action.mark_eq, t.policy_updateSlot action.flags_set]

theorem Action.le_count_mark (action : Action) (t : SubsystemTable) (id : SubsystemId) :
    t.criticalUnavailableCount ≤ (action.mark t id).criticalUnavailableCount := by
  rw [Action.mark_eq]
  apply t.le_criticalUnavailableCount_updateSlot id action.flags_set
  intro slot havailable
  cases action with
  | unavailable | safe | reboot => rfl
  | _ => exact havailable

end Fdir
