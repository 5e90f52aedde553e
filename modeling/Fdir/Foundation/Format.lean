import Mathlib

/-!
# Lines of literals and numbers

A line is a list of fields, each a literal text and a number in decimal digits.  When the
literals do not start with a digit, the numbers are read back from the line.
-/

namespace Fdir.Foundation.Format

def print : List (List Char × ℕ) → List Char
  | [] => []
  | field :: fields => field.1 ++ Nat.toDigits 10 field.2 ++ print fields

/-- The numbers behind the literals, if the line has this form. -/
def read : List (List Char) → List Char → Option (List ℕ)
  | [], line => if line = [] then some [] else none
  | literal :: literals, line =>
      if literal <+: line then
        let rest := line.drop literal.length
        (read literals (rest.dropWhile Char.isDigit)).map fun numbers ↦
          Nat.ofDigitChars 10 (rest.takeWhile Char.isDigit) 0 :: numbers
      else none

/-- A text that ends the number before it. -/
def Ends (text : List Char) : Prop := ∀ c ∈ text.head?, c.isDigit = false

theorem ends_nil : Ends [] := by
  rintro c ⟨⟩

theorem ends_cons_iff (c : Char) (text : List Char) : Ends (c :: text) ↔ c.isDigit = false := by
  simp [Ends]

instance : ∀ text, Decidable (Ends text)
  | [] => isTrue ends_nil
  | c :: text => decidable_of_iff _ (ends_cons_iff c text).symm

theorem takeWhile_digits (n : ℕ) {text : List Char} (h : Ends text) :
    (Nat.toDigits 10 n ++ text).takeWhile Char.isDigit = Nat.toDigits 10 n := by
  have hdigits : ∀ c ∈ Nat.toDigits 10 n, c.isDigit = true :=
    fun c hc ↦ Nat.isDigit_of_mem_toDigits (by decide) (by decide) hc
  rw [List.takeWhile_append_of_pos hdigits]
  cases text with
  | nil => rw [List.takeWhile_nil, List.append_nil]
  | cons c text =>
      rw [List.takeWhile_cons_of_neg (by simp [h c rfl]), List.append_nil]

theorem dropWhile_digits (n : ℕ) {text : List Char} (h : Ends text) :
    (Nat.toDigits 10 n ++ text).dropWhile Char.isDigit = text := by
  have hdigits : ∀ c ∈ Nat.toDigits 10 n, c.isDigit = true :=
    fun c hc ↦ Nat.isDigit_of_mem_toDigits (by decide) (by decide) hc
  rw [List.dropWhile_append_of_pos hdigits]
  cases text with
  | nil => rfl
  | cons c text => rw [List.dropWhile_cons_of_neg (by simp [h c rfl])]

theorem ends_print {fields : List (List Char × ℕ)}
    (h : ∀ field ∈ fields, field.1 ≠ [] ∧ Ends field.1) : Ends (print fields) := by
  cases fields with
  | nil => exact ends_nil
  | cons field fields =>
      obtain ⟨hne, hends⟩ := h field List.mem_cons_self
      obtain ⟨c, literal, hliteral⟩ := List.exists_cons_of_ne_nil hne
      rw [Ends, print, hliteral]
      rw [hliteral] at hends
      exact hends

/-- The numbers of a line are read back. -/
theorem read_print {fields : List (List Char × ℕ)}
    (h : ∀ field ∈ fields, field.1 ≠ [] ∧ Ends field.1) :
    read (fields.map Prod.fst) (print fields) = some (fields.map Prod.snd) := by
  induction fields with
  | nil => rfl
  | cons field fields ih =>
      have hrest : ∀ field ∈ fields, field.1 ≠ [] ∧ Ends field.1 :=
        fun other hother ↦ h other (List.mem_cons_of_mem field hother)
      have hends := ends_print hrest
      rw [List.map_cons, print, List.append_assoc, read, if_pos (List.prefix_append _ _),
        List.drop_left]
      simp only [dropWhile_digits field.2 hends, takeWhile_digits field.2 hends, ih hrest,
        Nat.ofDigitChars_ten_toDigits, Option.map_some, List.map_cons]

theorem length_print (fields : List (List Char × ℕ)) : (print fields).length =
    (fields.map fun field ↦ field.1.length + (Nat.toDigits 10 field.2).length).sum := by
  induction fields with
  | nil => rfl
  | cons field fields ih =>
      rw [print, List.length_append, List.length_append, ih, List.map_cons, List.sum_cons]

end Fdir.Foundation.Format
