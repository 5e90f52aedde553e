import Fdir.Foundation.Tally

/-!
# Condition variables

Threads stand at places.  A thread that waits on a condition variable sleeps at one place and
is moved to another when it is woken; there it looks for a unit of the supply it waits for.
If every new unit is announced by a signal, then as long as one thread sleeps there are at
least as many threads awake as there are units: no wake-up is lost.
-/

namespace Fdir.Foundation

/-- The places of the threads that wait on a condition variable. -/
structure Condition (P : Type*) where
  asleep : P → Bool
  awake : P → Bool
  rouse : P → P
  awake_rouse : ∀ p, asleep p → awake (rouse p)
  not_asleep : ∀ p, awake p → asleep p = false

namespace Condition

variable {T P : Type*} {c d : Condition P} {places : T → P} {woken : T → Bool} {supply : ℕ}

/-- The sleepers among `woken` wake up. -/
def wake (c : Condition P) (woken : T → Bool) (places : T → P) (t : T) : P :=
  if woken t && c.asleep (places t) then c.rouse (places t) else places t

/-- A signal wakes a sleeper if there is one. -/
def Signals (c : Condition P) (woken : T → Bool) (places : T → P) : Prop :=
  (∃ t, c.asleep (places t)) → ∃ t, woken t ∧ c.asleep (places t)

instance [Fintype T] (c : Condition P) (woken : T → Bool) (places : T → P) :
    Decidable (c.Signals woken places) :=
  inferInstanceAs (Decidable (_ → _))

theorem signals_broadcast : c.Signals (fun _ ↦ true) places := by
  rintro ⟨t, ht⟩
  exact ⟨t, rfl, ht⟩

theorem wake_of_asleep {t : T} (hwoken : woken t) (ht : c.asleep (places t)) :
    c.wake woken places t = c.rouse (places t) :=
  if_pos (by simp [hwoken, ht])

theorem wake_of_not_asleep {t : T} (ht : ¬ c.asleep (places t)) :
    c.wake woken places t = places t :=
  if_neg (by simp [ht])

theorem asleep_of_wake {t : T} (h : c.asleep (c.wake woken places t)) : c.asleep (places t) := by
  by_cases ht : c.asleep (places t)
  · exact ht
  · rwa [wake_of_not_asleep ht] at h

/-- A broadcast leaves nobody asleep. -/
theorem not_asleep_broadcast (t : T) : ¬ c.asleep (c.wake (fun _ ↦ true) places t) := by
  intro h
  have ht := asleep_of_wake h
  rw [wake_of_asleep rfl ht, c.not_asleep _ (c.awake_rouse _ ht)] at h
  cases h

theorem asleep_of_update [DecidableEq T] {t u : T} {p : P} (hp : ¬ c.asleep p)
    (hu : c.asleep (Function.update places t p u)) : c.asleep (places u) := by
  by_cases hut : u = t
  · subst hut
    rw [Function.update_self] at hu
    exact absurd hu hp
  · rwa [Function.update_of_ne hut] at hu

theorem Signals.update [DecidableEq T] {t : T} {p : P} (h : c.Signals woken places)
    (ht : ¬ c.asleep (places t)) (hp : ¬ c.asleep p) :
    c.Signals woken (Function.update places t p) := by
  rintro ⟨u, hu⟩
  obtain ⟨v, hwoken, hv⟩ := h ⟨u, asleep_of_update hp hu⟩
  refine ⟨v, hwoken, ?_⟩
  rwa [Function.update_of_ne]
  rintro rfl
  exact ht hv

/-! ## Counting the threads that are awake -/

section Contenders

variable [Fintype T]

/-- The threads that look for a unit. -/
def contenders (c : Condition P) (places : T → P) : ℕ :=
  ∑ t, if c.awake (places t) then 1 else 0

/-- As long as a thread sleeps there is a thread awake for every unit. -/
def Covered (c : Condition P) (supply : ℕ) (places : T → P) : Prop :=
  (∃ t, c.asleep (places t)) → supply ≤ c.contenders places

theorem contenders_pos (h : 0 < c.contenders places) : ∃ t, c.awake (places t) := by
  by_contra hnone
  rw [not_exists] at hnone
  rw [contenders, Finset.sum_eq_zero fun t _ ↦ if_neg (hnone t)] at h
  exact lt_irrefl _ h

theorem covered_zero : c.Covered 0 places := fun _ ↦ Nat.zero_le _

/-- A thread that is woken looks for a unit like those that were awake before. -/
theorem contenders_lt_wake {t : T} (hwoken : woken t) (ht : c.asleep (places t)) :
    c.contenders places < c.contenders (c.wake woken places) := by
  apply Finset.sum_lt_sum
  · intro u _
    by_cases hu : c.awake (places u)
    · rw [wake_of_not_asleep (by simp [c.not_asleep _ hu])]
    · rw [if_neg hu]
      exact Nat.zero_le _
  · refine ⟨t, Finset.mem_univ t, ?_⟩
    have hawake : ¬ c.awake (places t) := fun h ↦ by simp [c.not_asleep _ h] at ht
    rw [if_neg hawake, wake_of_asleep hwoken ht, if_pos (c.awake_rouse _ ht)]
    exact Nat.one_pos

/-- A new unit that is signalled is covered. -/
theorem Covered.signal (h : c.Covered supply places) (hsignals : c.Signals woken places) :
    c.Covered (supply + 1) (c.wake woken places) := by
  rintro ⟨t, ht⟩
  have hasleep : ∃ t, c.asleep (places t) := ⟨t, asleep_of_wake ht⟩
  obtain ⟨u, hwoken, hu⟩ := hsignals hasleep
  exact (Nat.succ_le_succ (h hasleep)).trans (contenders_lt_wake hwoken hu)

/-- Whoever waits on another condition variable is woken without effect on this one. -/
theorem Covered.wake_other (h : c.Covered supply places)
    (hasleep : ∀ p, d.asleep p → ¬ c.asleep (d.rouse p))
    (hawake : ∀ p, d.asleep p → ¬ c.awake p) : c.Covered supply (d.wake woken places) := by
  rintro ⟨t, ht⟩
  have hbefore : c.asleep (places t) := by
    by_cases hd : woken t && d.asleep (places t)
    · rw [Condition.wake, if_pos hd] at ht
      exact absurd ht (hasleep _ (Bool.and_eq_true_iff.mp hd).2)
    · rwa [Condition.wake, if_neg hd] at ht
  refine (h ⟨t, hbefore⟩).trans (Finset.sum_le_sum fun u _ ↦ ?_)
  by_cases hd : woken u && d.asleep (places u)
  · rw [if_neg (hawake _ (Bool.and_eq_true_iff.mp hd).2)]
    exact Nat.zero_le _
  · rw [Condition.wake, if_neg hd]

section Update

variable [DecidableEq T] {t : T} {p : P}

theorem contenders_update (c : Condition P) (places : T → P) (t : T) (p : P) :
    (if c.awake p then 1 else 0) + c.contenders places =
      c.contenders (Function.update places t p) + if c.awake (places t) then 1 else 0 := by
  have hbalance := sum_update_balance (Finset.mem_univ t)
    (fun u ↦ if c.awake (places u) then 1 else 0) (if c.awake p then 1 else 0)
  rw [contenders, contenders, hbalance]
  congr 1
  apply Finset.sum_congr rfl
  intro u _
  by_cases hu : u = t
  · subst hu
    simp
  · simp [hu]

/-- A thread that was not awake moves without falling asleep. -/
theorem Covered.move (h : c.Covered supply places) (ht : ¬ c.awake (places t))
    (hp : ¬ c.asleep p) : c.Covered supply (Function.update places t p) := by
  rintro ⟨u, hu⟩
  have hcovered := h ⟨u, asleep_of_update hp hu⟩
  have hcount := contenders_update c places t p
  rw [if_neg ht] at hcount
  omega

/-- A thread takes a unit and leaves. -/
theorem Covered.take (h : c.Covered (supply + 1) places) (hp : ¬ c.asleep p) :
    c.Covered supply (Function.update places t p) := by
  rintro ⟨u, hu⟩
  have hcovered := h ⟨u, asleep_of_update hp hu⟩
  have hcount := contenders_update c places t p
  split at hcount <;> split at hcount <;> omega

end Update

end Contenders

end Condition

end Fdir.Foundation
