import Mathlib

/-!
# Arrays with checked access

An array is a function of its index together with the indices that lie within it.  A program
that reads and writes through `fetch` and `store` has no result from the moment on that it
strays beyond an array, so that having a result means never having strayed.
-/

namespace Fdir.Foundation

variable {ι α : Type*} (within : ι → Prop) [DecidablePred within]

def fetch (array : ι → α) (i : ι) : Option α := if within i then some (array i) else none

def store [DecidableEq ι] (array : ι → α) (i : ι) (a : α) : Option (ι → α) :=
  if within i then some (Function.update array i a) else none

variable {within} {i : ι}

theorem fetch_of_within (hi : within i) (array : ι → α) : fetch within array i = some (array i) :=
  if_pos hi

theorem store_of_within [DecidableEq ι] (hi : within i) (array : ι → α) (a : α) :
    store within array i a = some (Function.update array i a) :=
  if_pos hi

/-- A search whose tests all have results. -/
theorem findM?_eq_find? {β : Type} {test : β → Option Bool} {p : β → Bool} {l : List β}
    (h : ∀ b ∈ l, test b = some (p b)) : l.findM? test = some (l.find? p) := by
  induction l with
  | nil => rfl
  | cons b l ih =>
      have htail := ih fun c hc ↦ h c (List.mem_cons_of_mem b hc)
      rw [List.findM?, h b List.mem_cons_self]
      by_cases hb : p b = true
      · rw [List.find?_cons_of_pos hb, hb]
        rfl
      · rw [List.find?_cons_of_neg hb, eq_false_of_ne_true hb]
        exact htail

end Fdir.Foundation
