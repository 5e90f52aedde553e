import Fdir.Machine

/-!
# Staleness in 32 bits

The age of a heartbeat is a difference of two 32-bit clock readings, and the
maximum age a 32-bit product.  The difference is exact for true ages below
`2 ^ 32` at every phase of the clock; the product is exact as long as it fits.
-/

namespace Fdir

open Foundation

variable {B : Build}

/-- The tolerated age in milliseconds, computed without bound. -/
def Config.tolerance (config : Config) : ℕ :=
  config.missedHeartbeatTolerance.toNat * config.healthCheckPeriodMs.toNat

theorem toNat_heartbeatMaxAgeMs (config : Config) :
    (heartbeatMaxAgeMs config).toNat = config.tolerance % 2 ^ 32 := by
  rw [heartbeatMaxAgeMs, UInt32.toNat_mul, UInt8.toNat_toUInt32, Config.tolerance]

/-- The wrapped difference of two readings is the true one, wherever the clock wraps
in between. -/
theorem toNat_sub_readings {earlier later : ℕ} (hle : earlier ≤ later)
    (hage : later - earlier < 2 ^ 32) :
    (UInt32.ofNat later - UInt32.ofNat earlier).toNat = later - earlier := by
  rw [← UInt32.ofNat_sub hle, UInt32.toNat_ofNat', Nat.mod_eq_of_lt hage]

theorem isStale_iff {t : HealthTable} {id : EntityId} (hid : id < t.entityLimit)
    (hlive : (t.health id).health ≠ .failed) (nowMs maxAgeMs : UInt32) :
    t.isStale id nowMs maxAgeMs = true ↔
      maxAgeMs.toNat < (nowMs - (t.health id).lastHeartbeatMs).toNat := by
  have hknown : ¬ t.entityLimit ≤ id := UInt8.not_le.mpr hid
  simp only [HealthTable.isStale, HealthTable.snapshot, if_neg hknown, if_neg hlive,
    decide_eq_true_eq, UInt32.lt_iff_toNat_lt]

namespace Machine

theorem config_run {m : Machine B} (hs : m.state.lib.Sound) (turns : List Turn) :
    (Run.run step m turns).state.lib.Sound ∧
      (Run.run step m turns).state.lib.config = m.state.lib.config := by
  refine Run.invariant (fun m' : Machine B ↦ m'.state.lib.Sound ∧
    m'.state.lib.config = m.state.lib.config) ?_ ⟨hs, rfl⟩ turns
  rintro m' turn ⟨hsound, hconfig⟩
  have hstride := m'.stride turn
  exact ⟨hstride.sound hsound, (hstride.config_eq hsound).trans hconfig⟩

end Machine

/-- The scan finds a live entity stale exactly if its true age exceeds the tolerated
one, if and only if the tolerated age fits 32 bits or the true age does not exceed
what is left of it. -/
theorem staleness_exact_iff (clock : ℕ) (pace : List Obs → ℕ) (config : Option Config)
    (lock unlock : Bool) (turns : List Turn) (id : EntityId) (beatAt now : ℕ) :
    let m := Run.run Machine.step
      (Machine.started clock pace config lock unlock : Machine B) turns
    id < m.state.lib.entityCount → (m.state.lib.health.health id).health ≠ .failed →
    (m.state.lib.health.health id).lastHeartbeatMs = UInt32.ofNat beatAt →
    beatAt ≤ now → now - beatAt < 2 ^ 32 →
      ((m.state.lib.health.isStale id (UInt32.ofNat now)
          (heartbeatMaxAgeMs m.state.lib.config) = true ↔
        (config.getD configDefault).tolerance < now - beatAt) ↔
      ((config.getD configDefault).tolerance < 2 ^ 32 ∨
        now - beatAt ≤ (config.getD configDefault).tolerance % 2 ^ 32)) := by
  intro m hid hlive hbeat hle hage
  obtain ⟨hsound, hconfig⟩ : m.state.lib.Sound ∧
      m.state.lib.config = config.getD configDefault :=
    Machine.config_run (Fdir.started_sound clock pace config lock unlock) turns
  rw [isStale_iff (hsound.limit_eq ▸ hid) hlive, hbeat, toNat_sub_readings hle hage, hconfig,
    toNat_heartbeatMaxAgeMs]
  rcases Nat.lt_or_ge (config.getD configDefault).tolerance (2 ^ 32) with hfits | hwraps
  · rw [Nat.mod_eq_of_lt hfits]
    exact iff_of_true Iff.rfl (Or.inl hfits)
  · have hnever : ¬ (config.getD configDefault).tolerance < now - beatAt := by omega
    constructor
    · intro hexact
      exact Or.inr (Nat.not_lt.mp fun hstale ↦ hnever (hexact.mp hstale))
    · rintro (hfits | hrecent)
      · omega
      · exact iff_of_false (Nat.not_lt.mpr hrecent) hnever

/-- The default configuration tolerates 1500 ms; here the heartbeat is stamped just
before the clock wraps and looked at just after. -/
theorem staleness_exact_across_wrap :
    let m := Run.run Machine.step
      (Machine.started (2 ^ 32 - 1) (fun _ ↦ 0) none true true : Machine .default)
      [.call 0 (.entityRegister (some .zero) true)]
    (m.state.lib.health.isStale 0 (UInt32.ofNat (2 ^ 32 + 1500))
        (heartbeatMaxAgeMs m.state.lib.config) = true ↔
      configDefault.tolerance < 2 ^ 32 + 1500 - (2 ^ 32 - 1)) :=
  (@staleness_exact_iff .default (2 ^ 32 - 1) (fun _ ↦ 0) none true true
    [.call 0 (.entityRegister (some .zero) true)] 0 (2 ^ 32 - 1) (2 ^ 32 + 1500) (by decide)
    (by decide) (by decide) (by decide) (by decide)).mpr (Or.inl (by decide))

/-- Two missed beats of `2 ^ 31` ms make a maximum age of 0 ms. -/
theorem stale_after_one_ms :
    let m := Run.run Machine.step
      (Machine.started 0 (fun _ ↦ 0) (some ⟨2 ^ 31, 2, 2, false⟩) true true : Machine .default)
      [.call 0 (.entityRegister (some .zero) true)]
    ¬ (m.state.lib.health.isStale 0 (UInt32.ofNat 1) (heartbeatMaxAgeMs m.state.lib.config) = true ↔
      Config.tolerance ⟨2 ^ 31, 2, 2, false⟩ < 1 - 0) := by
  decide

end Fdir
