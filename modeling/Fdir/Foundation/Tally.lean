import Fdir.Foundation.Run

/-!
# Books kept along a run

`tally` adds up, over the steps of a run, what each step contributes.  If every
step balances what comes in against what goes out and what is held, so does the
run; if every step is paid for by what it releases, so is the run.
-/

namespace Fdir.Foundation.Run

variable {σ α M : Type*} (step : σ → α → σ)

section Totals

variable [AddCommMonoid M]

/-- The total of `f` over the steps of the run from `s`. -/
def tally (f : σ → α → M) : σ → List α → M
  | _, [] => 0
  | s, a :: as => f s a + tally f (step s a) as

variable {step}

@[simp] theorem tally_nil (f : σ → α → M) (s : σ) : tally step f s [] = 0 := rfl

@[simp] theorem tally_cons (f : σ → α → M) (s : σ) (a : α) (as : List α) :
    tally step f s (a :: as) = f s a + tally step f (step s a) as := rfl

theorem tally_add (f g : σ → α → M) (s : σ) (as : List α) :
    tally step (fun s a ↦ f s a + g s a) s as = tally step f s as + tally step g s as := by
  induction as generalizing s with
  | nil => simp
  | cons a as ih =>
      rw [tally_cons, tally_cons, tally_cons, ih]
      abel

theorem tally_map {N : Type*} [AddCommMonoid N] (φ : M →+ N) (f : σ → α → M) (s : σ)
    (as : List α) : tally step (fun s a ↦ φ (f s a)) s as = φ (tally step f s as) := by
  induction as generalizing s with
  | nil => exact (map_zero φ).symm
  | cons a as ih => rw [tally_cons, tally_cons, ih, map_add]

/-- Steps that balance make a run that balances. -/
theorem tally_balanced {held : σ → M} {inflow outflow : σ → α → M} {s : σ} {as : List α}
    (h : Along step (fun s a ↦ held s + inflow s a = outflow s a + held (step s a)) s as) :
    held s + tally step inflow s as = tally step outflow s as + held (run step s as) := by
  induction as generalizing s with
  | nil => simp
  | cons a as ih =>
      obtain ⟨hstep, hrest⟩ := h
      calc held s + tally step inflow s (a :: as)
          = held s + inflow s a + tally step inflow (step s a) as := by
            rw [tally_cons, add_assoc]
        _ = outflow s a + (held (step s a) + tally step inflow (step s a) as) := by
            rw [hstep, add_assoc]
        _ = tally step outflow s (a :: as) + held (run step s (a :: as)) := by
            rw [ih hrest, tally_cons, run_cons, add_assoc]

end Totals

variable {step}

theorem tally_count (p : α → Bool) (s : σ) (as : List α) :
    tally step (fun _ a ↦ if p a then 1 else 0) s as = as.countP p := by
  induction as generalizing s with
  | nil => rfl
  | cons a as ih => rw [tally_cons, ih, List.countP_cons, add_comm]

/-- Steps whose cost is paid for, by a gain or by what is held or credited, make a run
that is paid for. -/
theorem tally_paid [AddCommMonoid M] [PartialOrder M] [IsOrderedCancelAddMonoid M]
    (held credit : σ → M) {cost gain : σ → α → M} {s : σ} {as : List α}
    (h : Along step (fun s a ↦ cost s a + held (step s a) + credit s ≤
      held s + credit (step s a) + gain s a) s as) :
    tally step cost s as + held (run step s as) + credit s ≤
      held s + credit (run step s as) + tally step gain s as := by
  induction as generalizing s with
  | nil => simp [add_comm]
  | cons a as ih =>
      obtain ⟨hstep, hrest⟩ := h
      refine le_of_add_le_add_right (a := held (step s a) + credit (step s a)) ?_
      calc _ = cost s a + held (step s a) + credit s + (tally step cost (step s a) as +
              held (run step (step s a) as) + credit (step s a)) := by
            rw [tally_cons, run_cons]
            abel
        _ ≤ held s + credit (step s a) + gain s a + (held (step s a) +
              credit (run step (step s a) as) + tally step gain (step s a) as) :=
            add_le_add hstep (ih hrest)
        _ = _ := by
            rw [tally_cons, run_cons]
            abel

instance decidableAlong {P : σ → α → Prop} [∀ s a, Decidable (P s a)] :
    ∀ (s : σ) (as : List α), Decidable (Along step P s as)
  | _, [] => isTrue trivial
  | s, a :: as => @instDecidableAnd _ _ _ (decidableAlong (step s a) as)

theorem Along.and {P Q : σ → α → Prop} {s : σ} {as : List α} (hP : Along step P s as)
    (hQ : Along step Q s as) : Along step (fun s a ↦ P s a ∧ Q s a) s as := by
  induction as generalizing s with
  | nil => trivial
  | cons a as ih => exact ⟨⟨hP.1, hQ.1⟩, ih hP.2 hQ.2⟩

section Record

variable {ω : Type*}

/-- What the steps of the run from `s` put on record, in order. -/
def record (step : σ → α → σ) (f : σ → α → List ω) : σ → List α → List ω
  | _, [] => []
  | s, a :: as => f s a ++ record step f (step s a) as

/-- A log that grows by what each step puts on record holds the record of the run. -/
theorem log_run (log : σ → List ω) {f : σ → α → List ω} {s : σ} {as : List α}
    (h : Along step (fun s a ↦ log (step s a) = log s ++ f s a) s as) :
    log (run step s as) = log s ++ record step f s as := by
  induction as generalizing s with
  | nil => exact (List.append_nil _).symm
  | cons a as ih =>
      obtain ⟨hstep, hrest⟩ := h
      rw [run_cons, ih hrest, hstep, List.append_assoc, record]

end Record

end Fdir.Foundation.Run

namespace Fdir.Foundation

/-- A sum over parties before and after one of them changes. -/
theorem sum_update_balance {ι M : Type*} [DecidableEq ι] [AddCommMonoid M] {parties : Finset ι}
    {i : ι} (hi : i ∈ parties) (f : ι → M) (x : M) :
    x + ∑ j ∈ parties, f j = ∑ j ∈ parties, Function.update f i x j + f i := by
  have hrest : ∑ j ∈ parties, f j = f i + ∑ j ∈ parties \ {i}, f j := by
    rw [Finset.sdiff_singleton_eq_erase, Finset.add_sum_erase parties f hi]
  rw [Finset.sum_update_of_mem hi, hrest]
  abel

end Fdir.Foundation
