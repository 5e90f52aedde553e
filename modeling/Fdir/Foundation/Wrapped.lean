import Mathlib.Data.List.Chain
import Mathlib.Tactic.Ring

/-!
# Readings of a clock that wraps

A clock shows true time modulo `M`.  Whoever knows one true time recovers the next one from
its reading, as long as less than `M` has passed, and so a whole log of readings.
-/

namespace Fdir.Foundation.Wrapped

variable {M : ℕ}

/-- The least time from `prev` on at which the clock shows `reading`. -/
def next (M prev reading : ℕ) : ℕ := prev + (reading + (M - prev % M)) % M

def unwrap (M : ℕ) : ℕ → List ℕ → List ℕ
  | _, [] => []
  | prev, reading :: readings =>
      next M prev reading :: unwrap M (next M prev reading) readings

theorem next_reading {prev t : ℕ} (hle : prev ≤ t) (hlt : t < prev + M) :
    next M prev (t % M) = t := by
  have hM : 0 < M := by omega
  have hmod := Nat.mod_lt prev hM
  have hdiv := Nat.div_add_mod prev M
  obtain ⟨d, rfl⟩ := Nat.exists_eq_add_of_le hle
  have hsum : prev + d + (M - prev % M) = d + M * (prev / M + 1) := by
    have hmul : M * (prev / M + 1) = M * (prev / M) + M := by ring
    omega
  rw [next, Nat.mod_add_mod, hsum, Nat.add_mul_mod_self_left, Nat.mod_eq_of_lt (by omega)]

/-- Times less than a turn of the clock apart are recovered from their readings. -/
theorem unwrap_readings {prev : ℕ} {times : List ℕ}
    (h : List.IsChain (fun t t' ↦ t ≤ t' ∧ t' < t + M) (prev :: times)) :
    unwrap M prev (times.map (· % M)) = times := by
  induction times generalizing prev with
  | nil => rfl
  | cons t times ih =>
      obtain ⟨⟨hle, hlt⟩, hrest⟩ := List.isChain_cons_cons.mp h
      rw [List.map_cons, unwrap, next_reading hle hlt, ih hrest]

end Fdir.Foundation.Wrapped
