import Mathlib

/-!
# Bounded first-in first-out lists

A list that takes elements at its end as long as it is shorter than a capacity
and yields them at its front, with the record of all it accepted and yielded
since it was last empty by decree.  What was yielded is a prefix of what was
accepted.
-/

namespace Fdir.Foundation

structure Fifo (α : Type*) where
  items : List α
  rejected : Bool

namespace Fifo

variable {α : Type*} {cap : ℕ} {f : Fifo α} {x : α}

def empty : Fifo α := ⟨[], false⟩

/-- Whether the element was accepted, and the list afterwards. -/
def put (cap : ℕ) (f : Fifo α) (x : α) : Bool × Fifo α :=
  if f.items.length < cap then (true, { f with items := f.items ++ [x] })
  else (false, { f with rejected := true })

def get (f : Fifo α) : Option α × Fifo α :=
  match f.items with
  | [] => (none, f)
  | x :: rest => (some x, { f with items := rest })

theorem put_of_lt (h : f.items.length < cap) :
    f.put cap x = (true, { f with items := f.items ++ [x] }) := if_pos h

theorem put_of_le (h : cap ≤ f.items.length) :
    f.put cap x = (false, { f with rejected := true }) := if_neg (Nat.not_lt.mpr h)

theorem get_of_nil (h : f.items = []) : f.get = (none, f) := by
  rw [get, h]

theorem get_of_cons {rest : List α} (h : f.items = x :: rest) :
    f.get = (some x, { f with items := rest }) := by
  rw [get, h]

/-! ## The record of a list -/

/-- The list holds what was accepted and not yet yielded, within its capacity. -/
structure Ledger (cap : ℕ) (accepted yielded : List α) (f : Fifo α) : Prop where
  conserved : accepted = yielded ++ f.items
  bounded : f.items.length ≤ cap

namespace Ledger

variable {accepted yielded : List α}

theorem empty (cap : ℕ) : Ledger cap [] [] (empty : Fifo α) := ⟨rfl, Nat.zero_le _⟩

theorem yielded_prefix (h : Ledger cap accepted yielded f) : yielded <+: accepted :=
  ⟨f.items, h.conserved.symm⟩

theorem put (h : Ledger cap accepted yielded f) (x : α) :
    Ledger cap (if (f.put cap x).1 then accepted ++ [x] else accepted) yielded
      (f.put cap x).2 := by
  rcases Nat.lt_or_ge f.items.length cap with hroom | hfull
  · rw [put_of_lt hroom]
    constructor
    · simp only [if_true, h.conserved, List.append_assoc]
    · simpa using hroom
  · rw [put_of_le hfull]
    exact ⟨h.conserved, h.bounded⟩

theorem get (h : Ledger cap accepted yielded f) :
    Ledger cap accepted (yielded ++ f.get.1.toList) f.get.2 := by
  cases hitems : f.items with
  | nil =>
      rw [get_of_nil hitems]
      constructor
      · simpa using h.conserved
      · exact h.bounded
  | cons x rest =>
      have hbounded := h.bounded
      rw [hitems] at hbounded
      rw [get_of_cons hitems]
      constructor
      · simp [h.conserved, hitems]
      · exact (Nat.le_succ _).trans hbounded

end Ledger

end Fifo

end Fdir.Foundation
