import Mathlib

/-!
# Windows of a circular buffer

A circular buffer of capacity `cap` stores its elements in the cells
`head, head + 1, …` taken modulo the capacity.  The list it holds is the window
of length `count` that starts at `head`.
-/

namespace Fdir.Foundation.Ring

variable {α : Type*}

/-- The elements in the `count` cells from `head` on. -/
def window (slots : ℕ → α) (cap head count : ℕ) : List α :=
  (List.range count).map fun i ↦ slots ((head + i) % cap)

@[simp] theorem length_window (slots : ℕ → α) (cap head count : ℕ) :
    (window slots cap head count).length = count := by
  simp [window]

/-- Cells of one window are distinct as long as it fits the buffer. -/
theorem cell_ne (head : ℕ) {cap i j : ℕ} (hij : i < j) (hj : j < cap) :
    (head + i) % cap ≠ (head + j) % cap := by
  intro h
  have hmod : i % cap = j % cap := Nat.ModEq.add_left_cancel' head h
  rw [Nat.mod_eq_of_lt (hij.trans hj), Nat.mod_eq_of_lt hj] at hmod
  omega

/-- Writing the cell behind a window that leaves room extends it by one. -/
theorem window_push (slots : ℕ → α) {cap head count : ℕ} (x : α)
    (hroom : count < cap) :
    window (Function.update slots ((head + count) % cap) x) cap head (count + 1) =
      window slots cap head count ++ [x] := by
  simp only [window, List.range_succ, List.map_append, List.map_cons, List.map_nil,
    Function.update_self]
  congr 1
  apply List.map_congr_left
  intro i hi
  have hne := cell_ne head (List.mem_range.mp hi) hroom
  simp [Function.update_of_ne hne]

/-- Advancing the head of a nonempty window drops its first element. -/
theorem window_pop (slots : ℕ → α) (cap head count : ℕ) :
    window slots cap head (count + 1) =
      slots (head % cap) :: window slots cap ((head + 1) % cap) count := by
  simp only [window, List.range_succ_eq_map, List.map_cons, List.map_map, Nat.add_zero]
  congr 1
  apply List.map_congr_left
  intro i _
  simp only [Function.comp_apply, Nat.mod_add_mod]
  congr 2
  omega

end Fdir.Foundation.Ring
