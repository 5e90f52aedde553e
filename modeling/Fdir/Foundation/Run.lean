import Mathlib

/-!
# Runs of a deterministic system

A system is a step function that takes a state and an action.  `Along` says that
a condition holds of every step of a run, judged in the state before the step;
an invariant that every such step keeps holds wherever the run goes.
-/

namespace Fdir.Foundation.Run

variable {σ α : Type*} (step : σ → α → σ)

/-- The state after the actions `as`. -/
def run (s : σ) (as : List α) : σ := as.foldl step s

@[simp] theorem run_nil (s : σ) : run step s [] = s := rfl

@[simp] theorem run_cons (s : σ) (a : α) (as : List α) :
    run step s (a :: as) = run step (step s a) as := rfl

theorem run_append (s : σ) (as bs : List α) :
    run step s (as ++ bs) = run step (run step s as) bs :=
  List.foldl_append

theorem run_concat (s : σ) (as : List α) (a : α) :
    run step s (as ++ [a]) = step (run step s as) a := by
  rw [run_append, run_cons, run_nil]

/-- Every step of the run from `s` meets `P` in the state it starts from. -/
def Along (P : σ → α → Prop) : σ → List α → Prop
  | _, [] => True
  | s, a :: as => P s a ∧ Along P (step s a) as

variable {step}

@[simp] theorem along_nil {P : σ → α → Prop} (s : σ) : Along step P s [] := trivial

@[simp] theorem along_cons {P : σ → α → Prop} {s : σ} {a : α} {as : List α} :
    Along step P s (a :: as) ↔ P s a ∧ Along step P (step s a) as := Iff.rfl

theorem along_append {P : σ → α → Prop} {s : σ} {as bs : List α} :
    Along step P s (as ++ bs) ↔ Along step P s as ∧ Along step P (run step s as) bs := by
  induction as generalizing s with
  | nil => simp
  | cons a as ih =>
      rw [List.cons_append, along_cons, along_cons, ih, run_cons, and_assoc]

/-- `Along` spelled out over the positions of the run. -/
theorem along_iff {P : σ → α → Prop} {s : σ} {as : List α} :
    Along step P s as ↔
      ∀ pre a post, as = pre ++ a :: post → P (run step s pre) a := by
  constructor
  · rintro h pre a post rfl
    exact (along_append.mp h).2.1
  · intro h
    induction as generalizing s with
    | nil => trivial
    | cons a as ih =>
        refine ⟨h [] a as rfl, ih ?_⟩
        intro pre b post hsplit
        exact h (a :: pre) b post (by rw [hsplit, List.cons_append])

/-- The invariant rule for runs whose steps all meet `P`. -/
theorem Along.invariant {P : σ → α → Prop} (I : σ → Prop)
    (hstep : ∀ s a, I s → P s a → I (step s a)) {s : σ} {as : List α}
    (hinit : I s) (h : Along step P s as) : I (run step s as) := by
  induction as generalizing s with
  | nil => exact hinit
  | cons a as ih => exact ih (hstep s a hinit h.1) h.2

/-- A condition that holds in all states an invariant holds in. -/
theorem along_of_invariant {P Q : σ → α → Prop} (I : σ → Prop)
    (hstep : ∀ s a, I s → Q s a → I (step s a)) (h : ∀ s a, I s → Q s a → P s a) {s : σ}
    {as : List α} (hinit : I s) (hQ : Along step Q s as) : Along step P s as := by
  induction as generalizing s with
  | nil => trivial
  | cons a as ih => exact ⟨h s a hinit hQ.1, ih (hstep s a hinit hQ.1) hQ.2⟩

/-- Two conditions agree on runs if they agree in all states that meet an invariant
which the steps that meet the first condition keep. -/
theorem along_congr {P Q : σ → α → Prop} (I : σ → Prop)
    (hstep : ∀ s a, I s → P s a → I (step s a)) (hiff : ∀ s a, I s → (P s a ↔ Q s a))
    {s : σ} {as : List α} (hinit : I s) : Along step P s as ↔ Along step Q s as := by
  induction as generalizing s with
  | nil => exact Iff.rfl
  | cons a as ih =>
      constructor
      · rintro ⟨hP, hrest⟩
        exact ⟨(hiff s a hinit).mp hP, (ih (hstep s a hinit hP)).mp hrest⟩
      · rintro ⟨hQ, hrest⟩
        have hP := (hiff s a hinit).mpr hQ
        exact ⟨hP, (ih (hstep s a hinit hP)).mpr hrest⟩

/-- A condition on the actions alone, seen as a condition on steps. -/
theorem along_of_forall {P : σ → α → Prop} {Q : α → Prop} (hQ : ∀ s a, Q a → P s a)
    {s : σ} {as : List α} (h : ∀ a ∈ as, Q a) : Along step P s as := by
  refine along_iff.mpr fun pre a post hsplit ↦ hQ _ _ (h a ?_)
  rw [hsplit]
  exact List.mem_append_right _ List.mem_cons_self

/-- The invariant rule for runs with arbitrary actions. -/
theorem invariant (I : σ → Prop) (hstep : ∀ s a, I s → I (step s a)) {s : σ}
    (hinit : I s) (as : List α) : I (run step s as) := by
  induction as generalizing s with
  | nil => exact hinit
  | cons a as ih => exact ih (hstep s a hinit)

/-- A property that no step brings back holds at the end exactly if every step keeps it. -/
theorem kept_iff {P : σ → α → Prop} (I Good : σ → Prop) (hstep : ∀ s a, I s → I (step s a))
    (hlost : ∀ s a, I s → ¬ Good s → ¬ Good (step s a))
    (hkept : ∀ s a, I s → Good s → (Good (step s a) ↔ P s a)) {s : σ} (as : List α)
    (hinit : I s) (hgood : Good s) : Good (run step s as) ↔ Along step P s as := by
  induction as generalizing s with
  | nil => exact iff_of_true hgood trivial
  | cons a as ih =>
      rw [run_cons, along_cons, ← hkept s a hinit hgood]
      by_cases hnext : Good (step s a)
      · rw [ih (hstep s a hinit) hnext]
        exact (and_iff_right hnext).symm
      · refine iff_of_false ?_ fun h ↦ hnext h.1
        exact invariant (fun s ↦ I s ∧ ¬ Good s)
          (fun s a h ↦ ⟨hstep s a h.1, hlost s a h.1 h.2⟩) ⟨hstep s a hinit, hnext⟩ as |>.2

/-! ## Two runs side by side -/

variable (step) in
/-- Two runs side by side, the second without the actions that `skip` names. -/
def twin (skip : α → Bool) (t : σ × σ) (a : α) : σ × σ :=
  (step t.1 a, if skip a then t.2 else step t.2 a)

theorem run_twin (skip : α → Bool) (t : σ × σ) (as : List α) :
    run (twin step skip) t as =
      (run step t.1 as, run step t.2 (as.filter fun a ↦ !skip a)) := by
  induction as generalizing t with
  | nil => rfl
  | cons a as ih =>
      rw [run_cons, ih, run_cons, List.filter_cons]
      cases hskip : skip a <;> simp [twin, hskip]

/-- A relation between a run and the run with the actions left out that `keep` rejects: such an
action keeps it on the left alone, any other one on both sides. -/
theorem Along.purged {P : σ → α → Prop} (R : σ → σ → Prop) (keep : α → Bool)
    (hskip : ∀ s t a, R s t → P s a → keep a = false → R (step s a) t)
    (hkeep : ∀ s t a, R s t → P s a → keep a = true → R (step s a) (step t a)) {s t : σ}
    {as : List α} (h : Along step P s as) (hinit : R s t) :
    R (run step s as) (run step t (as.filter keep)) := by
  induction as generalizing s t with
  | nil => exact hinit
  | cons a as ih =>
      rw [run_cons, List.filter_cons]
      cases ha : keep a with
      | false => exact ih h.2 (hskip s t a hinit h.1 ha)
      | true => exact ih h.2 (hkeep s t a hinit h.1 ha)

end Fdir.Foundation.Run
