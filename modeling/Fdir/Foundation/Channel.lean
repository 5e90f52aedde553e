import Mathlib

/-!
# Bounded channels that can be closed

The atomic object behind a producer-consumer queue: parties put elements in while there is room
and take them out in order, and once the channel is closed a party that finds it empty is told
that it is drained.  A history is a list of such events; `replay` says whether the channel
allows it.
-/

namespace Fdir.Foundation

/-- The elements in a channel, oldest first. -/
structure Channel (α : Type*) where
  items : List α
  closed : Bool

namespace Channel

variable {T α : Type*} [DecidableEq α]

inductive Event (T α : Type*) where
  | put (party : T) (x : α)
  | take (party : T) (x : α)
  | drained (party : T)
  | close (party : T)
  deriving DecidableEq, Repr

def empty : Channel α := ⟨[], false⟩

/-- The channel after an event, if it allows it. -/
def perform (cap : ℕ) (c : Channel α) : Event T α → Option (Channel α)
  | .put _ x => if c.items.length < cap then some { c with items := c.items ++ [x] } else none
  | .take _ x => if c.items.head? = some x then some { c with items := c.items.tail } else none
  | .drained _ => if c.items = [] ∧ c.closed then some c else none
  | .close _ => some { c with closed := true }

def replay (cap : ℕ) (c : Channel α) (history : List (Event T α)) : Option (Channel α) :=
  history.foldlM (perform cap) c

def puts : List (Event T α) → List α :=
  List.filterMap fun e ↦ match e with
    | .put _ x => some x
    | _ => none

def takes : List (Event T α) → List α :=
  List.filterMap fun e ↦ match e with
    | .take _ x => some x
    | _ => none

variable {cap : ℕ} {c c' : Channel α}

theorem replay_concat (history : List (Event T α)) (e : Event T α) :
    c.replay cap (history ++ [e]) = (c.replay cap history).bind (perform cap · e) := by
  simp [replay]

theorem perform_items {e : Event T α} (h : c.perform cap e = some c') :
    c.items ++ puts [e] = takes [e] ++ c'.items := by
  cases e with
  | put party x =>
      obtain ⟨-, hc'⟩ := Option.ite_none_right_eq_some.mp h
      cases hc'
      simp [puts, takes]
  | take party x =>
      obtain ⟨hhead, hc'⟩ := Option.ite_none_right_eq_some.mp h
      cases hc'
      simp [puts, takes, List.cons_head?_tail hhead]
  | drained party =>
      obtain ⟨-, hc'⟩ := Option.ite_none_right_eq_some.mp h
      cases hc'
      simp [puts, takes]
  | close party =>
      cases h
      simp [puts, takes]

/-- What has been put in is, in order, what has been taken out and what is still inside. -/
theorem puts_eq {history : List (Event T α)} (h : c.replay cap history = some c') :
    c.items ++ puts history = takes history ++ c'.items := by
  induction history using List.reverseRecOn generalizing c' with
  | nil =>
      cases h
      simp [puts, takes]
  | append_singleton history e ih =>
      rw [replay_concat] at h
      obtain ⟨mid, hmid, he⟩ := Option.bind_eq_some_iff.mp h
      have hevent := perform_items he
      have hsplit : puts (history ++ [e]) = puts history ++ puts [e] := List.filterMap_append
      have hsplit' : takes (history ++ [e]) = takes history ++ takes [e] := List.filterMap_append
      rw [hsplit, hsplit', ← List.append_assoc, ih hmid, List.append_assoc, hevent,
        List.append_assoc]

/-- A party is told that the channel is drained only after all that was put in before has been
taken out. -/
theorem takes_of_drained {history rest : List (Event T α)} {party : T}
    (h : (empty : Channel α).replay cap (history ++ .drained party :: rest) = some c') :
    takes history = puts history := by
  rw [replay, List.foldlM_append] at h
  obtain ⟨mid, hmid, hrest⟩ := Option.bind_eq_some_iff.mp h
  rw [List.foldlM_cons] at hrest
  obtain ⟨after, hdrained, -⟩ := Option.bind_eq_some_iff.mp hrest
  obtain ⟨⟨hempty, -⟩, -⟩ := Option.ite_none_right_eq_some.mp hdrained
  have hputs := puts_eq hmid
  rw [hempty, List.append_nil] at hputs
  exact hputs.symm

end Channel

end Fdir.Foundation
