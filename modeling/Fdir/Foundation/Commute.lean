import Mathlib

/-!
# Folds whose steps commute across keys

A fold visits elements that carry a key.  If steps of different keys commute
wherever an invariant holds, the result depends only on the order in which the
elements of each single key are visited.
-/

namespace Fdir.Foundation.Commute

variable {σ α κ : Type*} {step : σ → α → σ} {key : α → κ}

/-- A step commutes with steps of other keys that come before it. -/
theorem foldl_concat_comm {I : σ → Prop} (hI : ∀ s a, I s → I (step s a))
    (hcomm : ∀ s a b, I s → key a ≠ key b → step (step s a) b = step (step s b) a)
    {a : α} {pre : List α} (hpre : ∀ b ∈ pre, key b ≠ key a) {s : σ} (hs : I s) :
    step (pre.foldl step s) a = pre.foldl step (step s a) := by
  induction pre generalizing s with
  | nil => rfl
  | cons b pre ih =>
      have hb : key b ≠ key a := hpre b List.mem_cons_self
      rw [List.foldl_cons, List.foldl_cons, hcomm s a b hs (Ne.symm hb)]
      exact ih (fun c hc ↦ hpre c (List.mem_cons_of_mem b hc)) (hI s b hs)

variable [DecidableEq κ]

/-- Rearrangements of one another that keep the order of the elements of each key. -/
def SameByKey (key : α → κ) (xs ys : List α) : Prop :=
  ∀ k, xs.filter (fun a ↦ key a = k) = ys.filter (fun a ↦ key a = k)

/-- A list that agrees by key with `a :: xs` has `a` as its first element of that key. -/
theorem SameByKey.exists_split {a : α} {xs ys : List α} (h : SameByKey key (a :: xs) ys) :
    ∃ pre post, ys = pre ++ a :: post ∧ (∀ b ∈ pre, key b ≠ key a) ∧
      SameByKey key xs (pre ++ post) := by
  have hhead := h (key a)
  rw [List.filter_cons_of_pos (by simp)] at hhead
  obtain ⟨pre, post, rfl, hpre, -, hpost⟩ := List.filter_eq_cons_iff.mp hhead.symm
  have hne : ∀ b ∈ pre, key b ≠ key a := by
    intro b hb hkey
    exact hpre b hb (by simpa using hkey)
  refine ⟨pre, post, rfl, hne, fun k ↦ ?_⟩
  have hk := h k
  by_cases hkey : key a = k
  · subst hkey
    have hnone : pre.filter (fun b ↦ key b = key a) = [] :=
      List.filter_eq_nil_iff.mpr fun b hb ↦ by simpa using hne b hb
    rw [List.filter_append, hnone, List.nil_append]
    exact hpost.symm
  · rw [List.filter_cons_of_neg (by simpa using hkey), List.filter_append,
      List.filter_cons_of_neg (by simpa using hkey)] at hk
    rw [hk, List.filter_append]

/-- The result of a fold depends only on the order within each key. -/
theorem foldl_eq_of_sameByKey (I : σ → Prop) (hI : ∀ s a, I s → I (step s a))
    (hcomm : ∀ s a b, I s → key a ≠ key b → step (step s a) b = step (step s b) a)
    {xs ys : List α} (h : SameByKey key xs ys) {s : σ} (hs : I s) :
    xs.foldl step s = ys.foldl step s := by
  induction xs generalizing ys s with
  | nil =>
      have hnil : ys = [] := by
        rw [List.eq_nil_iff_forall_not_mem]
        intro b hb
        have hfilter := h (key b)
        rw [List.filter_nil, eq_comm, List.filter_eq_nil_iff] at hfilter
        exact hfilter b hb (by simp)
      rw [hnil]
  | cons a xs ih =>
      obtain ⟨pre, post, rfl, hpre, hrest⟩ := h.exists_split
      rw [List.foldl_cons, ih hrest (hI s a hs), List.foldl_append, List.foldl_append,
        List.foldl_cons, foldl_concat_comm hI hcomm hpre hs]

end Fdir.Foundation.Commute
