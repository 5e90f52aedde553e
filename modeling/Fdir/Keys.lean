import Fdir.EventLog

/-!
# Anomaly keys

An anomaly key packs a tag bit, an id and a reason into 16 bits.  The id of an
entity or a subsystem leaves the tag bit alone as long as it is below 128, and
then no two keys collide.
-/

namespace Fdir

open Foundation

variable {B : Build}

/-! ## Packing -/

theorem Reason.code_lt (reason : Reason) : reason.code.toNat < 256 := by
  cases reason <;> decide

theorem Reason.code_injective : Function.Injective Reason.code := by
  intro r r' h
  cases r <;> cases r' <;> first | rfl | cases h

theorem toNat_anomalyId (id : EntityId) (reason : Reason) :
    (anomalyId id reason).toNat = id.toNat * 256 + reason.code.toNat := by
  have hid := id.toNat_lt
  have hcode := reason.code_lt
  have hshift : (id.toUInt16 <<< 8).toNat = id.toNat <<< 8 := by
    rw [UInt16.toNat_shiftLeft, UInt8.toNat_toUInt16, Nat.mod_eq_of_lt]
    · rfl
    · change id.toNat <<< 8 < 2 ^ 16
      rw [Nat.shiftLeft_eq]
      omega
  rw [anomalyId, UInt16.toNat_or, hshift, ← Nat.shiftLeft_add_eq_or_of_lt hcode, Nat.shiftLeft_eq]

theorem toNat_subsystemAnomalyId {id : SubsystemId} (hid : id < 128) (reason : Reason) :
    (subsystemAnomalyId id reason).toNat = 32768 + (id.toNat * 256 + reason.code.toNat) := by
  have hcode := reason.code_lt
  have hkey : subsystemAnomalyId id reason = (0x8000 : UInt16) ||| anomalyId id reason :=
    UInt16.or_assoc _ _ _
  have hlow : (anomalyId id reason).toNat < 2 ^ 15 := by
    rw [UInt8.lt_iff_toNat_lt] at hid
    change id.toNat < 128 at hid
    rw [toNat_anomalyId]
    omega
  have htag := Nat.two_pow_add_eq_or_of_lt hlow 1
  rw [hkey, UInt16.toNat_or, ← toNat_anomalyId]
  exact htag.symm

theorem tagged_iff (key : UInt16) : key &&& 0x8000 ≠ 0 ↔ 32768 ≤ key.toNat := by
  have hlt := key.toNat_lt
  have hzero : (0 : UInt16).toNat = 0 := rfl
  have hand : (key &&& 0x8000).toNat = key.toNat / 32768 % 2 * 32768 := by
    have htest := Nat.and_two_pow key.toNat 15
    rw [Nat.toNat_testBit] at htest
    exact (UInt16.toNat_and _ _).trans htest
  rw [ne_eq, ← UInt16.toNat_inj, hand, hzero]
  omega

/-! ## The keys of a run -/

/-- Ids that leave the tag bit alone. -/
def Scope.keyed : Scope :=
  ⟨fun id ↦ id < 128, fun _ _ id ↦ id < 128, fun _ id ↦ id < 128, True, True, True⟩

/-- The key of the event is that of its level, id and reason. -/
structure Event.Keyed (e : Event) : Prop where
  entity : e.level = .entity → e.entity < 128 ∧ e.anomalyId = Fdir.anomalyId e.entity e.reason
  subsystem : e.level = .subsystem →
    e.subsystem < 128 ∧ e.anomalyId = subsystemAnomalyId e.subsystem e.reason

theorem Told.keyed {l l' : Lib B} {new : List Event} (h : Told .keyed l l' new) :
    ∀ e ∈ new, e.Keyed := by
  cases h with
  | nothing | enrolled => exact List.forall_mem_nil _
  | noted e hkind hlevel hkey =>
      refine List.forall_mem_singleton.mpr ⟨fun hentity ↦ ?_, fun hsub ↦ ?_⟩
      · rcases hlevel with hsystem | ⟨-, hid⟩
        · rw [hsystem] at hentity
          cases hentity
        · have hnone : e.entity ≠ entityNone := by
            intro hnone
            have hid' : e.entity < 128 := hid
            rw [hnone] at hid'
            exact absurd hid' (by decide)
          rw [if_pos hnone] at hkey
          exact ⟨hid, hkey⟩
      · rcases hlevel with hsystem | ⟨hentity, -⟩
        · rw [hsystem] at hsub
          cases hsub
        · rw [hentity] at hsub
          cases hsub
  | changed e hkind hlevel =>
      refine List.forall_mem_singleton.mpr ⟨fun hentity ↦ ?_, fun hsub ↦ ?_⟩
      · rw [hlevel] at hentity
        cases hentity
      · rw [hlevel] at hsub
        cases hsub
  | marked mark e hkind hlevel hdetail hkey hsub | overridden e hkind hlevel hdetail hkey hsub =>
      refine List.forall_mem_singleton.mpr ⟨fun hentity ↦ ?_, fun _ ↦ ⟨hsub, hkey⟩⟩
      rw [hlevel] at hentity
      cases hentity

theorem Tells.keyed {l l' : Lib B} {new : List Event} (h : Tells .keyed l l' new) :
    ∀ e ∈ new, e.Keyed := by
  induction h with
  | refl => exact List.forall_mem_nil _
  | tail _ htold ih => exact List.forall_mem_append.mpr ⟨ih, htold.keyed⟩

/-- A key determines the level, and with it the id and the reason. -/
theorem Event.Keyed.tagged {e : Event} (h : e.Keyed) (hlevel : e.level ≠ .system) :
    e.anomalyId &&& 0x8000 ≠ 0 ↔ e.level = .subsystem := by
  rw [tagged_iff]
  cases hkind : e.level with
  | system => exact absurd hkind hlevel
  | entity =>
      obtain ⟨hid, hkey⟩ := h.entity hkind
      have hcode := e.reason.code_lt
      rw [UInt8.lt_iff_toNat_lt] at hid
      change e.entity.toNat < 128 at hid
      rw [hkey, toNat_anomalyId]
      constructor
      · intro
        omega
      · exact nofun
  | subsystem =>
      obtain ⟨hid, hkey⟩ := h.subsystem hkind
      rw [hkey, toNat_subsystemAnomalyId hid]
      exact ⟨fun _ ↦ rfl, fun _ ↦ Nat.le_add_right _ _⟩

theorem packed_inj {id id' : UInt8} {reason reason' : Reason}
    (h : id.toNat * 256 + reason.code.toNat = id'.toNat * 256 + reason'.code.toNat) :
    id = id' ∧ reason = reason' := by
  have hcode := reason.code_lt
  have hcode' := reason'.code_lt
  refine ⟨UInt8.toNat_inj.mp (by omega), Reason.code_injective (UInt16.toNat_inj.mp (by omega))⟩

theorem Event.Keyed.injective {e e' : Event} (h : e.Keyed) (h' : e'.Keyed)
    (hlevel : e.level ≠ .system) (hlevel' : e'.level ≠ .system)
    (hkey : e.anomalyId = e'.anomalyId) :
    e.level = e'.level ∧ e.reason = e'.reason ∧ (e.level = .entity → e.entity = e'.entity) ∧
      (e.level = .subsystem → e.subsystem = e'.subsystem) := by
  have htagged := h.tagged hlevel
  rw [hkey, h'.tagged hlevel'] at htagged
  cases hkind : e.level with
  | system => exact absurd hkind hlevel
  | entity =>
      have hkind' : e'.level = .entity := by
        cases hother : e'.level with
        | system => exact absurd hother hlevel'
        | entity => rfl
        | subsystem =>
            rw [htagged.mp hother] at hkind
            cases hkind
      rw [(h.entity hkind).2, (h'.entity hkind').2, ← UInt16.toNat_inj, toNat_anomalyId,
        toNat_anomalyId] at hkey
      obtain ⟨hid, hreason⟩ := packed_inj hkey
      exact ⟨hkind'.symm, hreason, fun _ ↦ hid, nofun⟩
  | subsystem =>
      have hkind' := htagged.mpr hkind
      obtain ⟨hid, hown⟩ := h.subsystem hkind
      obtain ⟨hid', hown'⟩ := h'.subsystem hkind'
      rw [hown, hown', ← UInt16.toNat_inj, toNat_subsystemAnomalyId hid,
        toNat_subsystemAnomalyId hid', Nat.add_left_cancel_iff] at hkey
      obtain ⟨hsub, hreason⟩ := packed_inj hkey
      exact ⟨hkind'.symm, hreason, nofun, fun _ ↦ hsub⟩

/-- No report is handled for an id from 128 on, and no subsystem with such an id is
announced. -/
def Machine.Confined (m : Machine B) (turn : Turn) : Prop := m.Within .keyed turn

theorem Machine.confined_call {m : Machine B} {thread : ℕ} {c : Call}
    (h : c.Within .keyed m.state.lib) : m.Confined (.call thread c) where
  call := by
    rintro _ _ ⟨⟩ - -
    exact h
  entity := fun _ _ _ hturn ↦ nomatch hturn
  linked := fun _ _ _ hturn ↦ nomatch hturn

/-- A section that handles at most a report of an entity that is not registered. -/
theorem Machine.confined_advance {m : Machine B} {thread : ℕ}
    (h : ∀ report ret, m.pcs thread = .handleLocked report ret →
      report.entity < 128 ∧ m.state.lib.entityCount ≤ report.entity) :
    m.Confined (.advance thread) where
  call := fun _ _ hturn ↦ nomatch hturn
  entity := by
    rintro _ report ret ⟨⟩ hpc -
    exact (h report ret hpc).1
  linked := by
    rintro _ report ret ⟨⟩ hpc - hid
    exact absurd hid (UInt8.not_lt.mpr (h report ret hpc).2)

/-- In every run, of any threads, that is confined to ids below 128: bit 15 of the
keys of entities and subsystems tells the two apart, and equal keys stand for one
entity or subsystem and one reason. -/
theorem anomaly_keys_distinct (clock : ℕ) (pace : List Obs → ℕ) (config : Option Config)
    (lock unlock : Bool) (turns : List Turn)
    (hconfined : Run.Along Machine.step Machine.Confined
      (Machine.started clock pace config lock unlock : Machine B) turns) :
    let m := Run.run Machine.step
      (Machine.started clock pace config lock unlock : Machine B) turns
    (∀ e ∈ m.state.events, e.level ≠ .system →
      (e.anomalyId &&& 0x8000 ≠ 0 ↔ e.level = .subsystem)) ∧
    ∀ e ∈ m.state.events, ∀ e' ∈ m.state.events, e.level ≠ .system → e'.level ≠ .system →
      e.anomalyId = e'.anomalyId →
        e.level = e'.level ∧ e.reason = e'.reason ∧
          (e.level = .entity → e.entity = e'.entity) ∧
          (e.level = .subsystem → e.subsystem = e'.subsystem) := by
  intro m
  have hkeyed : m.state.lib.Sound ∧ ∀ e ∈ m.state.events, e.Keyed := by
    refine hconfined.invariant
      (fun m : Machine B ↦ m.state.lib.Sound ∧ ∀ e ∈ m.state.events, e.Keyed) ?_ ?_
    · rintro m turn ⟨hs, hevents⟩ hturn
      obtain ⟨new, hnew⟩ := m.recounts hs trivial hturn
      refine ⟨(m.stride turn).sound hs, ?_⟩
      rw [hnew.events]
      exact List.forall_mem_append.mpr ⟨hevents, hnew.tells.keyed⟩
    · exact ⟨Fdir.started_sound clock pace config lock unlock, List.forall_mem_nil _⟩
  exact ⟨fun e he ↦ (hkeyed.2 e he).tagged,
    fun e he e' he' ↦ (hkeyed.2 e he).injective (hkeyed.2 e' he')⟩

/-- The keys of a marked subsystem and of an entity with the same id and reason. -/
theorem anomaly_keys_distinct_marked :
    let m := Run.run Machine.step (Machine.started 0 (fun _ ↦ 1) none true true : Machine .default)
      [.call 0 (.subsystemRegister (some .zero) true), .call 0 (.subsystemMarkDegraded 0),
        .call 0 (.handleFailure (some { FailureReport.zero with reason := .user })), .advance 0,
        .advance 0]
    ∃ e ∈ m.state.events, ∃ e' ∈ m.state.events, e.level = .entity ∧ e'.level = .subsystem ∧
      e.anomalyId &&& 0x8000 = 0 ∧ e'.anomalyId &&& 0x8000 ≠ 0 ∧ e.anomalyId ≠ e'.anomalyId := by
  intro m
  let report : FailureReport := { FailureReport.zero with reason := .user }
  have hconfined : Run.Along Machine.step Machine.Confined
      (Machine.started 0 (fun _ ↦ 1) none true true : Machine .default)
      [.call 0 (.subsystemRegister (some .zero) true), .call 0 (.subsystemMarkDegraded 0),
        .call 0 (.handleFailure (some report)), .advance 0, .advance 0] := by
    refine ⟨Machine.confined_call fun _ ↦ trivial, Machine.confined_call fun _ ↦ ?_,
      Machine.confined_call trivial, ?_, ?_, trivial⟩
    · change (0 : SubsystemId) < 128
      decide
    · exact Machine.confined_advance fun _ _ hpc ↦ nomatch hpc
    · refine Machine.confined_advance fun report' _ hpc ↦ ?_
      obtain ⟨rfl, -⟩ := Pc.handleLocked.inj hpc
      exact ⟨by decide, UInt8.zero_le⟩
  obtain ⟨htagged, hinjective⟩ := anomaly_keys_distinct 0 (fun _ ↦ 1) none true true _ hconfined
  have hentity : ∃ e ∈ m.state.events, e.level = .entity := by decide
  have hsub : ∃ e ∈ m.state.events, e.level = .subsystem := by decide
  obtain ⟨e, he, hlevel⟩ := hentity
  obtain ⟨e', he', hlevel'⟩ := hsub
  have hne : e.level ≠ .system := by rw [hlevel]; decide
  have hne' : e'.level ≠ .system := by rw [hlevel']; decide
  refine ⟨e, he, e', he', hlevel, hlevel', ?_, (htagged e' he' hne').mpr hlevel', fun hkey ↦ ?_⟩
  · by_contra htag
    rw [(htagged e he hne).mp htag] at hlevel
    cases hlevel
  · obtain ⟨hsame, -⟩ := hinjective e he e' he' hne hne' hkey
    rw [hlevel, hlevel'] at hsame
    cases hsame

/-- A report for entity 200, which is not registered, gets a key with bit 15 set. -/
theorem entity_key_tagged :
    let m := Run.run Machine.step (Machine.started 0 (fun _ ↦ 1) none true true : Machine .default)
      [.call 0 (.handleFailure (some { FailureReport.zero with entity := 200 })),
        .advance 0, .advance 0]
    ¬ ∀ e ∈ m.state.events, e.level ≠ .system →
      (e.anomalyId &&& 0x8000 ≠ 0 ↔ e.level = .subsystem) := by
  decide

end Fdir
