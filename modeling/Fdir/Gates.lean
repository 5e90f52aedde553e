import Fdir.Effects

/-!
# The two worker gates

`fdir_entity_may_run` tests the supervision flag first, `fdir_worker_may_run` the
mode.  The gates agree, and both let every worker run while supervision is
disabled, except where these tests meet: supervision disabled in SAFE or
REBOOT_PENDING.
-/

namespace Fdir

open Foundation

variable {B : Build}

theorem entityMayRun_fst (s : State B) (id : EntityId) :
    (entityMayRun s id).1 = true ↔ s.lib.supervisionEnabled = 0 ∨
      (s.lib.mode < .safe ∧ id < s.lib.health.entityLimit ∧ ¬ s.lib.failed id) := by
  simp only [entityMayRun, syncEnter_lib, HealthTable.snapshot]
  by_cases hdisabled : s.lib.supervisionEnabled = 0
  · simp [hdisabled]
  · by_cases hmode : Mode.safe ≤ s.lib.mode
    · simp [hdisabled, hmode]
    · by_cases hlimit : s.lib.health.entityLimit ≤ id
      · simp [hdisabled, hmode, hlimit]
      · have hid : id < s.lib.health.entityLimit := UInt8.not_le.mp hlimit
        by_cases hfailed : s.lib.failed id
        · have hhealth : (s.lib.health.health id).health = .failed := hfailed
          simp [hdisabled, hmode, hlimit, hhealth, hfailed]
        · have hhealth : (s.lib.health.health id).health ≠ .failed := hfailed
          simp [hdisabled, hmode, hlimit, hhealth, hfailed, hid, not_le.mp hmode]

theorem workerMayRun_fst (s : State B) (id : EntityId) :
    (workerMayRun s id).1 = true ↔ s.lib.mode < .safe ∧ (s.lib.supervisionEnabled = 0 ∨
      (id < s.lib.health.entityLimit ∧ ¬ s.lib.failed id)) := by
  simp only [workerMayRun, systemMode_fst]
  by_cases hmode : Mode.safe ≤ s.lib.mode
  · rw [if_pos hmode]
    simp [not_lt.mpr hmode]
  · rw [if_neg hmode, entityMayRun_fst, systemMode_lib]
    simp [not_le.mp hmode]

/-- In SAFE and REBOOT_PENDING the worker gate gives the heartbeat of its entity;
otherwise it changes nothing. -/
theorem workerMayRun_lib (s : State B) (id : EntityId) :
    (workerMayRun s id).2.lib =
      if .safe ≤ s.lib.mode then (heartbeatNotify (systemMode s).2 id).lib else s.lib := by
  simp only [workerMayRun, systemMode_fst]
  split
  · rfl
  · rw [entityMayRun_snd, syncExit_lib, syncEnter_lib, systemMode_lib]

theorem heartbeatNotify_lib (s : State B) (id : EntityId) :
    ∃ now, (heartbeatNotify s id).lib = { s.lib with health := s.lib.health.heartbeat id now } := by
  simp only [heartbeatNotify, syncEnter_lib]
  split
  · next hlimit =>
    refine ⟨0, ?_⟩
    simp [HealthTable.heartbeat, hlimit]
  · exact ⟨(getNowMs (syncEnter s)).1, by simp⟩

/-- What the two gates promise for entity `id` in state `s`. -/
structure GatesAgree (s : State B) (id : EntityId) : Prop where
  agree : (workerMayRun s id).1 = true ↔ (entityMayRun s id).1 = true
  bypassed : s.lib.supervisionEnabled = 0 →
    (workerMayRun s id).1 = true ∧ (entityMayRun s id).1 = true
  refused : s.lib.supervisionEnabled ≠ 0 →
    s.lib.entityCount ≤ id ∨ s.lib.failed id ∨ s.lib.mode = .safe ∨ s.lib.mode = .rebootPending →
    (workerMayRun s id).1 = false ∧ (entityMayRun s id).1 = false
  frame : (workerMayRun s id).2.lib =
    if s.lib.mode = .safe ∨ s.lib.mode = .rebootPending then
      (heartbeatNotify (systemMode s).2 id).lib
    else s.lib
  heartbeat : ∃ now, (heartbeatNotify (systemMode s).2 id).lib =
    { s.lib with health := s.lib.health.heartbeat id now }

theorem safe_le_iff (mode : Mode) : .safe ≤ mode ↔ mode = .safe ∨ mode = .rebootPending := by
  cases mode <;> decide

/-- In every state of every run the gates keep their promise for an entity exactly
when supervision is enabled or the mode is below SAFE. -/
theorem gates_agree_iff (clock : ℕ) (pace : List Obs → ℕ) (config : Option Config)
    (lock unlock : Bool) (calls : List Call) (id : EntityId) :
    let s : State B := Run.run after (started clock pace config lock unlock) calls
    GatesAgree s id ↔ s.lib.supervisionEnabled ≠ 0 ∨ s.lib.mode < .safe := by
  intro s
  have hs : s.lib.Sound := Run.invariant (fun s : State B ↦ s.lib.Sound)
    (fun s c h ↦ after_sound h c) (started_sound clock pace config lock unlock) calls
  constructor
  · intro h
    by_contra hneither
    rw [not_or, not_not] at hneither
    have hworker := (h.bypassed hneither.1).1
    rw [workerMayRun_fst] at hworker
    exact hneither.2 hworker.1
  · intro h
    constructor
    · rw [workerMayRun_fst, entityMayRun_fst]
      tauto
    · intro hdisabled
      have hmode := h.resolve_left (not_not.mpr hdisabled)
      rw [workerMayRun_fst, entityMayRun_fst]
      exact ⟨⟨hmode, Or.inl hdisabled⟩, Or.inl hdisabled⟩
    · intro henabled hcond
      have hclosed : ¬ (s.lib.mode < .safe ∧ id < s.lib.health.entityLimit ∧
          ¬ s.lib.failed id) := by
        rintro ⟨hmode, hid, hfailed⟩
        rw [hs.limit_eq] at hid
        rcases hcond with hunknown | hfail | hsafe
        · exact UInt8.not_le.mpr hid hunknown
        · exact hfailed hfail
        · exact not_le.mpr hmode ((safe_le_iff _).mpr hsafe)
      rw [← Bool.not_eq_true, ← Bool.not_eq_true, workerMayRun_fst, entityMayRun_fst]
      tauto
    · rw [workerMayRun_lib]
      simp only [safe_le_iff]
    · obtain ⟨now, hlib⟩ := heartbeatNotify_lib (systemMode s).2 id
      exact ⟨now, by rw [hlib, systemMode_lib]⟩

/-- Bypassed after an escalation to SAFE, one gate lets the entity run and the
other does not. -/
theorem gates_disagree_in_safe :
    let calls : List Call := [.entityRegister (some .zero) true, .enterSafeMode,
      .setSupervisionEnabled 0]
    let s : State .default := Run.run after (started 0 (fun _ ↦ 1) none true true) calls
    s.lib.supervisionEnabled = 0 ∧ (workerMayRun s 0).1 = false ∧
      (entityMayRun s 0).1 = true := by
  decide

end Fdir
