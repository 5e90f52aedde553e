import Mathlib

/-!
# Alternating lists

Lists of the form `a, b, a, b, …`, and how they grow at the end.
-/

namespace Fdir.Foundation

variable {α : Type*} {a b x : α}

/-- The list reads `a, b, a, b, …`. -/
def Alternates (a b : α) : List α → Prop
  | [] => True
  | y :: ys => y = a ∧ Alternates b a ys

namespace Alternates

theorem getLast_mem {l : List α} (h : Alternates a b l) {y : α} (hy : l.getLast? = some y) :
    y = a ∨ y = b := by
  induction l generalizing a b with
  | nil => cases hy
  | cons z zs ih =>
      obtain ⟨rfl, hrest⟩ := h
      cases zs with
      | nil =>
          left
          simpa [eq_comm] using hy
      | cons w ws =>
          rw [List.getLast?_cons_cons] at hy
          exact (ih hrest hy).symm

/-- Which element may come next depends on the last. -/
theorem concat_iff [DecidableEq α] (hab : a ≠ b) {l : List α} :
    Alternates a b (l ++ [x]) ↔
      Alternates a b l ∧ x = if l.getLast? = some a then b else a := by
  induction l generalizing a b with
  | nil => simp [Alternates]
  | cons z zs ih =>
      rw [List.cons_append, Alternates, Alternates, ih hab.symm, and_assoc]
      refine and_congr_right fun hz ↦ and_congr_right fun hrest ↦ ?_
      subst hz
      cases zs with
      | nil => simp
      | cons w ws =>
          rw [List.getLast?_cons_cons]
          obtain ⟨y, hy⟩ : ∃ y, (w :: ws).getLast? = some y := by
            simp [List.getLast?_cons]
          rcases hrest.getLast_mem hy with rfl | rfl
          · simp [hy, hab.symm]
          · simp [hy, hab]

theorem concat_first (hab : a ≠ b) {l : List α} (h : Alternates a b l)
    (hlast : l.getLast? ≠ some a) : Alternates a b (l ++ [a]) := by
  classical
  rw [concat_iff hab, if_neg hlast]
  exact ⟨h, rfl⟩

theorem concat_second (hab : a ≠ b) {l : List α} (h : Alternates a b l)
    (hlast : l.getLast? = some a) : Alternates a b (l ++ [b]) := by
  classical
  rw [concat_iff hab, if_pos hlast]
  exact ⟨h, rfl⟩

end Alternates

end Fdir.Foundation
