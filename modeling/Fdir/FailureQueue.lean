import Fdir.Types
import Fdir.Foundation.Ring

/-!
# The internal failure queue

The ring buffer of `failure_queue.c` without its locking: the slots, the 8-bit
indices with their truncating casts, and the full latch.  The second half
relates it to the list of pending reports.
-/

namespace Fdir

open Foundation

/-- The static variables of `failure_queue.c`. -/
structure FailureQueue (cap : ℕ) where
  slots : ℕ → FailureReport
  head : UInt8
  tail : UInt8
  count : UInt8
  fullLatched : Bool

namespace FailureQueue

variable {cap : ℕ}

def init : FailureQueue cap where
  slots := fun _ ↦ FailureReport.zero
  head := 0
  tail := 0
  count := 0
  fullLatched := false

/-- The return code and the queue afterwards. -/
def putUnsafe (q : FailureQueue cap) (report : FailureReport) : ℤ × FailureQueue cap :=
  if cap ≤ q.count.toNat then
    (-1, { q with fullLatched := true })
  else
    (0, { q with
      slots := Function.update q.slots q.tail.toNat report
      tail := UInt8.ofNat ((q.tail.toNat + 1) % cap)
      count := q.count + 1 })

/-- The body of `fdir_failure_queue_get` under the lock. -/
def getUnsafe (q : FailureQueue cap) : Option FailureReport × FailureQueue cap :=
  if q.count = 0 then
    (none, q)
  else
    (some (q.slots q.head.toNat), { q with
      head := UInt8.ofNat ((q.head.toNat + 1) % cap)
      count := q.count - 1 })

/-! ## The pending reports -/

/-- The number of cells an 8-bit index reaches. -/
def depth (cap : ℕ) : ℕ := min cap 256

/-- The reports in the queue, oldest first. -/
def pending (q : FailureQueue cap) : List FailureReport :=
  Ring.window q.slots (depth cap) q.head.toNat q.count.toNat

/-- The indices are in range and the tail lies `count` cells behind the head. -/
structure Valid (q : FailureQueue cap) : Prop where
  depth_pos : 0 < depth cap
  head_lt : q.head.toNat < depth cap
  count_le : q.count.toNat ≤ depth cap
  tail_eq : q.tail.toNat = (q.head.toNat + q.count.toNat) % depth cap

@[simp] theorem length_pending (q : FailureQueue cap) :
    q.pending.length = q.count.toNat := by
  simp [pending]

@[simp] theorem pending_init : (init : FailureQueue cap).pending = [] := rfl

@[simp] theorem pending_fullLatched (q : FailureQueue cap) (b : Bool) :
    ({ q with fullLatched := b } : FailureQueue cap).pending = q.pending := rfl

theorem pending_eq_nil_iff (q : FailureQueue cap) : q.pending = [] ↔ q.count = 0 := by
  rw [← List.length_eq_zero_iff, length_pending, ← UInt8.toNat_inj]
  rfl

theorem length_pending_le (q : FailureQueue cap) : q.pending.length ≤ 255 := by
  have := q.count.toNat_lt
  rw [length_pending]
  omega

theorem valid_init (hpos : 0 < cap) : (init : FailureQueue cap).Valid where
  depth_pos := by simpa [depth] using hpos
  head_lt := by simpa [init, depth] using hpos
  count_le := by simp [init]
  tail_eq := by simp [init]

theorem toNat_advance (hpos : 0 < depth cap) (i : UInt8) :
    (UInt8.ofNat ((i.toNat + 1) % cap)).toNat = (i.toNat + 1) % depth cap := by
  have hi := i.toNat_lt
  rw [UInt8.toNat_ofNat']
  rcases Nat.le_total cap 256 with hle | hle
  · have hcap : depth cap = cap := min_eq_left hle
    rw [hcap] at hpos ⊢
    have hlt := Nat.mod_lt (i.toNat + 1) hpos
    omega
  · have hcap : depth cap = 256 := min_eq_right hle
    rw [hcap]
    rcases Nat.lt_or_ge (i.toNat + 1) cap with hlt | hge
    · rw [Nat.mod_eq_of_lt hlt]
    · have hwrap : i.toNat + 1 = cap := by omega
      rw [hwrap, Nat.mod_self]
      omega

theorem putUnsafe_of_full {q : FailureQueue cap} (hfull : cap ≤ q.pending.length)
    (report : FailureReport) : q.putUnsafe report = (-1, { q with fullLatched := true }) := by
  rw [length_pending] at hfull
  simp [putUnsafe, hfull]

theorem putUnsafe_fst_eq_zero_iff (q : FailureQueue cap) (report : FailureReport) :
    (q.putUnsafe report).1 = 0 ↔ q.pending.length < cap := by
  rw [length_pending]
  unfold putUnsafe
  split
  next h => simpa using h
  next h => simpa using h

theorem putUnsafe_of_room {q : FailureQueue cap} (hq : q.Valid)
    (hroom : q.pending.length < cap) (hcounter : q.pending.length < 255)
    (report : FailureReport) :
    (q.putUnsafe report).2.Valid ∧ (q.putUnsafe report).2.pending = q.pending ++ [report] := by
  rw [length_pending] at hroom hcounter
  have hcount : (q.count + 1).toNat = q.count.toNat + 1 := by
    rw [UInt8.toNat_add, UInt8.toNat_one]
    omega
  have hcells : q.count.toNat < depth cap := by
    rw [depth, Nat.lt_min]
    omega
  simp only [putUnsafe, if_neg (Nat.not_le.mpr hroom)]
  refine ⟨⟨hq.depth_pos, hq.head_lt, ?_, ?_⟩, ?_⟩
  · simp only [hcount]
    exact hcells
  · simp only [toNat_advance hq.depth_pos]
    rw [hcount, hq.tail_eq, Nat.mod_add_mod, Nat.add_assoc]
  · simp only [pending, hcount, hq.tail_eq]
    exact Ring.window_push q.slots report hcells

/-- One report more than the counter can count wraps it to zero. -/
theorem putUnsafe_of_wrap {q : FailureQueue cap} (hq : q.Valid) (hroom : 255 < cap)
    (hcount : q.count = 255) (report : FailureReport) :
    (q.putUnsafe report).2.Valid ∧ (q.putUnsafe report).2.pending = [] := by
  have hcells : depth cap = 256 := min_eq_right hroom
  have hhead := q.head.toNat_lt
  simp only [putUnsafe, hcount, if_neg (Nat.not_le.mpr hroom : ¬ cap ≤ (255 : UInt8).toNat)]
  refine ⟨⟨hq.depth_pos, hq.head_lt, Nat.zero_le _, ?_⟩, ?_⟩
  · simp only [toNat_advance hq.depth_pos]
    rw [hq.tail_eq, hcount, hcells]
    change ((q.head.toNat + 255) % 256 + 1) % 256 = (q.head.toNat + 0) % 256
    omega
  · rw [pending_eq_nil_iff]
    rfl

theorem Valid.put {q : FailureQueue cap} (hq : q.Valid) (report : FailureReport) :
    (q.putUnsafe report).2.Valid := by
  have hle := length_pending_le q
  rcases Nat.lt_or_ge q.pending.length cap with hroom | hfull
  · rcases Nat.lt_or_ge q.pending.length 255 with hcounter | hwrap
    · exact (putUnsafe_of_room hq hroom hcounter report).1
    · have hlength : q.pending.length = 255 := by omega
      have hcount : q.count = 255 := by
        rw [← UInt8.toNat_inj, ← length_pending, hlength]
        rfl
      exact (putUnsafe_of_wrap hq (hlength ▸ hroom) hcount report).1
  · rw [putUnsafe_of_full hfull]
    exact ⟨hq.depth_pos, hq.head_lt, hq.count_le, hq.tail_eq⟩

theorem getUnsafe_of_nil {q : FailureQueue cap} (hnil : q.pending = []) :
    q.getUnsafe = (none, q) := by
  simp [getUnsafe, (pending_eq_nil_iff q).mp hnil]

theorem getUnsafe_of_none {q : FailureQueue cap} (h : q.getUnsafe.1 = none) :
    q.getUnsafe.2 = q := by
  unfold getUnsafe at h ⊢
  split
  · rfl
  · next hcount =>
    rw [if_neg hcount] at h
    cases h

theorem getUnsafe_of_cons {q : FailureQueue cap} (hq : q.Valid) {report : FailureReport}
    {rest : List FailureReport} (hcons : q.pending = report :: rest) :
    q.getUnsafe.1 = some report ∧ q.getUnsafe.2.Valid ∧ q.getUnsafe.2.pending = rest := by
  have hne : q.count ≠ 0 := by
    intro h
    rw [(pending_eq_nil_iff q).mpr h] at hcons
    cases hcons
  have hpos : 0 < q.count.toNat := by
    rcases Nat.eq_zero_or_pos q.count.toNat with h | h
    · exact absurd (UInt8.toNat_inj.mp h) hne
    · exact h
  have hcle := hq.count_le
  have hcount : (q.count - 1).toNat = q.count.toNat - 1 := by
    rw [UInt8.toNat_sub_of_le]
    · rfl
    · exact UInt8.le_iff_toNat_le.mpr hpos
  have hwindow : q.pending = q.slots q.head.toNat ::
      Ring.window q.slots (depth cap) ((q.head.toNat + 1) % depth cap) (q.count.toNat - 1) := by
    have hpop := Ring.window_pop q.slots (depth cap) q.head.toNat (q.count.toNat - 1)
    rwa [Nat.sub_add_cancel hpos, Nat.mod_eq_of_lt hq.head_lt] at hpop
  rw [hwindow] at hcons
  obtain ⟨hfirst, hrest⟩ := List.cons.inj hcons
  simp only [getUnsafe, if_neg hne]
  refine ⟨by rw [hfirst], ⟨hq.depth_pos, ?_, ?_, ?_⟩, ?_⟩
  · simp only [toNat_advance hq.depth_pos]
    exact Nat.mod_lt _ hq.depth_pos
  · simp only [hcount]
    omega
  · simp only [toNat_advance hq.depth_pos, hcount, hq.tail_eq, Nat.mod_add_mod]
    congr 1
    omega
  · simpa only [pending, toNat_advance hq.depth_pos, hcount] using hrest

theorem pending_of_getUnsafe {q : FailureQueue cap} (hq : q.Valid) {report : FailureReport}
    (hget : q.getUnsafe.1 = some report) :
    q.getUnsafe.2.Valid ∧ q.pending = report :: q.getUnsafe.2.pending := by
  cases hpending : q.pending with
  | nil =>
      rw [getUnsafe_of_nil hpending] at hget
      cases hget
  | cons first rest =>
      obtain ⟨hfirst, hvalid, hrest⟩ := getUnsafe_of_cons hq hpending
      rw [hfirst] at hget
      obtain rfl := Option.some.inj hget
      exact ⟨hvalid, by rw [hrest]⟩

end FailureQueue

end Fdir
