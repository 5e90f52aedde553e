import Fdir.Machine

/-!
# False watchdog trips

A scan reads the clock once and compares every heartbeat with that reading.  A
heartbeat that arrives later makes the unsigned difference wrap, so that the
scan reports an entity that has just been heard of.  This file shows that a run
is free of false trips exactly if no scan meets such a heartbeat.
-/

namespace Fdir

open Foundation

variable {B : Build}

/-! ## Heartbeat times -/

/-- Every heartbeat time is the low half of the true time of its stamp. -/
structure State.Timed (s : State B) : Prop where
  beat : ∀ id, (s.lib.health.health id).lastHeartbeatMs = UInt32.ofNat (s.world.stamped id)
  past : ∀ id, s.world.stamped id ≤ s.world.clock

theorem State.Timed.evolves {P : Obs → Prop} {s s' : State B} (h : s.Timed)
    (hworld : Evolves P s s') : s'.Timed := by
  constructor
  · intro id
    rcases hworld.stamps id with ⟨hstamp, hbeat⟩ | ⟨-, -, hbeat⟩
    · rw [hbeat, hstamp, h.beat id]
    · exact hbeat
  · intro id
    rcases hworld.stamps id with ⟨hstamp, -⟩ | ⟨-, hpast, -⟩
    · rw [hstamp]
      exact (h.past id).trans hworld.clock_le
    · exact hpast

theorem Stride.timed {s s' : State B} (h : Stride s s') (hs : s.lib.Sound) (ht : s.Timed) :
    s'.Timed ∧ s.world.clock ≤ s'.world.clock := by
  rcases h.evolves hs with hworld | ⟨ms, rfl⟩
  · exact ⟨ht.evolves hworld, hworld.clock_le⟩
  · exact ⟨⟨ht.beat, fun id ↦ (ht.past id).trans (Nat.le_add_right _ _)⟩, Nat.le_add_right _ _⟩

/-! ## The reading of a scan -/

/-- The true time and the value of the clock reading a scan uses, and its maximum
age. -/
structure Reading where
  readAt : ℕ
  nowMs : UInt32
  maxAge : UInt32

def Return.reading : Return → Option Reading
  | .scan readAt nowMs maxAge _ => some ⟨readAt, nowMs, maxAge⟩
  | .caller | .drain => none

def Pc.reading : Pc → Option Reading
  | .watchTest readAt nowMs maxAge | .watchScan readAt nowMs maxAge _ =>
      some ⟨readAt, nowMs, maxAge⟩
  | .handleTest _ ret | .handleLocked _ ret => ret.reading
  | _ => none

/-- A reading lies in the past, and the maximum age is that of the configuration. -/
structure Reading.Taken (r : Reading) (s : State B) : Prop where
  past : r.readAt ≤ s.world.clock
  now_eq : r.nowMs = UInt32.ofNat r.readAt
  max_eq : r.maxAge = heartbeatMaxAgeMs s.lib.config

theorem Return.reading_pc (ret : Return) : ret.pc.reading = ret.reading := by
  cases ret <;> rfl

/-- A section keeps the reading it uses, or takes one. -/
theorem Pc.reading_advance {s : State B} (hready : s.lib.portReady = true) {pc : Pc}
    {r : Reading} (h : (pc.advance s).1.reading = some r) :
    pc.reading = some r ∨ r.Taken (pc.advance s).2 := by
  cases pc with
  | idle | submitPut | gateHeartbeat | gateRun => cases h
  | submitTest report | tickTest =>
      simp only [Pc.advance] at h
      split at h <;> cases h
  | drain =>
      simp only [Pc.advance] at h
      split at h <;> cases h
  | handleTest report ret =>
      simp only [Pc.advance] at h
      split at h
      · exact Or.inl (ret.reading_pc.symm.trans h)
      · exact Or.inl h
  | handleLocked report ret => exact Or.inl (ret.reading_pc.symm.trans h)
  | watchClock =>
      obtain rfl := Option.some.inj h
      exact Or.inr ⟨le_refl _, getNowMs_fst_eq hready, rfl⟩
  | watchTest readAt nowMs maxAge =>
      simp only [Pc.advance] at h
      split at h
      · cases h
      · exact Or.inl h
  | watchScan readAt nowMs maxAge next =>
      simp only [Pc.advance] at h
      split at h
      · cases h
      · exact Or.inl h
  | gateMode id =>
      simp only [Pc.advance] at h
      split at h <;> cases h

theorem Call.reading_entry {c : Call} {pc : Pc} (h : c.entry = some pc) (r : Reading) :
    pc.reading ≠ some r := by
  unfold Call.entry at h
  split at h <;> cases h <;> exact nofun

namespace Machine

/-- What every turn keeps: the tables are in step, heartbeat times are true, and
readings are taken. -/
structure Clocked (m : Machine B) : Prop where
  sound : m.state.lib.Sound
  timed : m.state.Timed
  taken : ∀ thread r, (m.pcs thread).reading = some r → r.Taken m.state

theorem Clocked.step {m : Machine B} (h : m.Clocked) (turn : Turn) : (m.step turn).Clocked := by
  have hstride := m.stride turn
  obtain ⟨htimed, hclock⟩ := hstride.timed h.sound h.timed
  have hkeep : ∀ {r : Reading}, r.Taken m.state → r.Taken (m.step turn).state := fun hr ↦
    ⟨hr.past.trans hclock, hr.now_eq, by rw [hstride.config_eq h.sound]; exact hr.max_eq⟩
  refine ⟨hstride.sound h.sound, htimed, fun thread r hr ↦ ?_⟩
  cases turn with
  | call caller c =>
      refine hkeep (h.taken thread r ?_)
      simp only [Machine.step] at hr
      split at hr
      · next hidle =>
        cases hentry : c.entry with
        | none =>
            rw [hentry] at hr
            exact hr
        | some pc =>
            simp only [hentry] at hr
            by_cases hthread : thread = caller
            · subst hthread
              rw [Function.update_self] at hr
              exact absurd hr (Call.reading_entry hentry r)
            · rwa [Function.update_of_ne hthread] at hr
      · exact hr
  | advance mover =>
      by_cases hthread : thread = mover
      · subst hthread
        simp only [Machine.step, Function.update_self] at hr
        rcases Pc.reading_advance h.sound.ready hr with hold | hnew
        · exact hkeep (h.taken thread r hold)
        · exact hnew
      · simp only [Machine.step, Function.update_of_ne hthread] at hr
        exact hkeep (h.taken thread r hr)
  | elapse ms => exact hkeep (h.taken thread r hr)

end Machine

/-! ## Trips -/

/-- The scan looks at `id`: it starts at or before it and stops at none before it. -/
def Lib.Examines (l : Lib B) (nowMs maxAge : UInt32) (next : ℕ) (id : EntityId) : Prop :=
  next ≤ id.toNat ∧ id < l.entityCount ∧
    ∀ j, next ≤ j → j < id.toNat → watchdogDue l nowMs maxAge (UInt8.ofNat j) = false

/-- The scan watches `id`: it is not FAILED and its WATCHDOG fault is not latched. -/
def Lib.Watched (l : Lib B) (id : EntityId) : Prop :=
  ¬ l.failed id ∧ l.health.faultIsLatchedUnsafe id .watchdog = false

/-- A heartbeat at `stampedAt` came after the reading of the scan and is recent, but its
lead over the reading, taken negative in 32 bits, exceeds the maximum age. -/
structure Overtaken (readAt stampedAt clock maxAge : ℕ) : Prop where
  later : readAt < stampedAt
  recent : clock - stampedAt ≤ maxAge
  nonzero : 0 < (stampedAt - readAt) % 2 ^ 32
  wrapped : (stampedAt - readAt) % 2 ^ 32 + maxAge < 2 ^ 32

theorem watchdogDue_iff {l : Lib B} (hs : l.Sound) {id : EntityId} (hid : id < l.entityCount)
    (nowMs maxAge : UInt32) :
    watchdogDue l nowMs maxAge id = true ↔
      l.Watched id ∧ maxAge < nowMs - (l.health.health id).lastHeartbeatMs := by
  have hlimit : ¬ l.health.entityLimit ≤ id := by
    rw [hs.limit_eq]
    exact UInt8.not_le.mpr hid
  have hused := (hs.used_iff id).mpr hid
  simp only [watchdogDue, hused, HealthTable.snapshot, hlimit, HealthTable.snapshotFailed,
    HealthTable.isStale, Lib.Watched, Lib.failed, if_false, Option.isSome_some, Bool.true_and,
    Bool.and_eq_true, Bool.not_eq_true', decide_eq_false_iff_not]
  by_cases hfailed : (l.health.health id).health = .failed
  · simp [hfailed]
  · simp [hfailed]

theorem firstDue_eq_some_iff (l : Lib B) (nowMs maxAge : UInt32) (next i : ℕ) :
    firstDue l nowMs maxAge next = some i ↔
      (UInt8.ofNat i).toNat = i ∧ l.Examines nowMs maxAge next (UInt8.ofNat i) ∧
        watchdogDue l nowMs maxAge (UInt8.ofNat i) = true := by
  have hcount := l.entityCount.toNat_lt
  have hindex : i < l.entityCount.toNat → (UInt8.ofNat i).toNat = i := by
    intro hlt
    rw [UInt8.toNat_ofNat']
    omega
  rw [firstDue, List.find?_range'_eq_some, List.mem_range'_1]
  constructor
  · rintro ⟨hdue, ⟨hlow, hhigh⟩, hbefore⟩
    have hi := hindex (by omega)
    refine ⟨hi, ⟨by omega, ?_, fun j hj hlt ↦ ?_⟩, hdue⟩
    · rw [UInt8.lt_iff_toNat_lt]
      omega
    · simpa using hbefore j hj (by omega)
  · rintro ⟨hi, ⟨hlow, hhigh, hbefore⟩, hdue⟩
    rw [UInt8.lt_iff_toNat_lt] at hhigh
    refine ⟨hdue, by omega, fun j hj hlt ↦ ?_⟩
    simpa using hbefore j hj (by omega)

/-- The difference that the scan computes from a heartbeat after its reading. -/
theorem lt_ofNat_sub_iff {readAt stampedAt : ℕ} (hlater : readAt < stampedAt) (maxAge : UInt32) :
    maxAge < UInt32.ofNat readAt - UInt32.ofNat stampedAt ↔
      0 < (stampedAt - readAt) % 2 ^ 32 ∧
        (stampedAt - readAt) % 2 ^ 32 + maxAge.toNat < 2 ^ 32 := by
  obtain ⟨lead, rfl⟩ := Nat.exists_eq_add_of_le hlater.le
  rw [UInt32.lt_iff_toNat_lt, UInt32.toNat_sub, UInt32.toNat_ofNat', UInt32.toNat_ofNat',
    Nat.add_sub_cancel_left]
  omega

/-- A heartbeat that makes the scan trip falsely has overtaken it. -/
theorem overtaken_iff {readAt stampedAt clock : ℕ} {maxAge : UInt32} (hread : readAt ≤ clock) :
    Overtaken readAt stampedAt clock maxAge.toNat ↔ clock - stampedAt ≤ maxAge.toNat ∧
      maxAge < UInt32.ofNat readAt - UInt32.ofNat stampedAt := by
  constructor
  · exact fun h ↦ ⟨h.recent, (lt_ofNat_sub_iff h.later maxAge).mpr ⟨h.nonzero, h.wrapped⟩⟩
  · rintro ⟨hrecent, hstale⟩
    have hlater : readAt < stampedAt := by
      refine Nat.lt_of_not_le fun hle ↦ ?_
      rw [← UInt32.ofNat_sub hle, UInt32.lt_iff_toNat_lt, UInt32.toNat_ofNat'] at hstale
      have hmod := Nat.mod_le (readAt - stampedAt) (2 ^ 32)
      omega
    obtain ⟨hnonzero, hwrapped⟩ := (lt_ofNat_sub_iff hlater maxAge).mp hstale
    exact ⟨hlater, hrecent, hnonzero, hwrapped⟩

namespace Machine

/-- A scan that builds a report for an entity does so when more than the maximum age
has passed since its last heartbeat. -/
def Truthful (m : Machine B) (turn : Turn) : Prop :=
  ∀ thread readAt nowMs maxAge next report ret, turn = .advance thread →
    m.pcs thread = .watchScan readAt nowMs maxAge next →
    (m.step turn).pcs thread = .handleTest report ret →
      (heartbeatMaxAgeMs m.state.lib.config).toNat <
        m.state.world.clock - m.state.world.stamped report.entity

/-- A scan looks at no watched entity whose heartbeat has overtaken it. -/
def Unovertaken (m : Machine B) (turn : Turn) : Prop :=
  ∀ thread readAt nowMs maxAge next, turn = .advance thread →
    m.pcs thread = .watchScan readAt nowMs maxAge next →
    ∀ id, m.state.lib.Examines nowMs maxAge next id → m.state.lib.Watched id →
      ¬ Overtaken readAt (m.state.world.stamped id) m.state.world.clock
        (heartbeatMaxAgeMs m.state.lib.config).toNat

/-- A scan looks at no watched entity that was heard of after the reading. -/
def Unhurried (m : Machine B) (turn : Turn) : Prop :=
  ∀ thread readAt nowMs maxAge next, turn = .advance thread →
    m.pcs thread = .watchScan readAt nowMs maxAge next →
    ∀ id, m.state.lib.Examines nowMs maxAge next id → m.state.lib.Watched id →
      m.state.world.stamped id ≤ readAt

theorem Unhurried.unovertaken {m : Machine B} {turn : Turn} (h : m.Unhurried turn) :
    m.Unovertaken turn :=
  fun thread readAt nowMs maxAge next hturn hpc id hexamines hwatched hovertaken ↦
    absurd hovertaken.later
      (Nat.not_lt.mpr (h thread readAt nowMs maxAge next hturn hpc id hexamines hwatched))

theorem truthful_iff {m : Machine B} (h : m.Clocked) (turn : Turn) :
    m.Truthful turn ↔ m.Unovertaken turn := by
  have hscan : ∀ thread readAt nowMs maxAge next,
      m.pcs thread = .watchScan readAt nowMs maxAge next →
      readAt ≤ m.state.world.clock ∧ nowMs = UInt32.ofNat readAt ∧
        maxAge = heartbeatMaxAgeMs m.state.lib.config := by
    intro thread readAt nowMs maxAge next hpc
    obtain ⟨hpast, hnow, hmax⟩ := h.taken thread ⟨readAt, nowMs, maxAge⟩ (by rw [hpc]; rfl)
    exact ⟨hpast, hnow, hmax⟩
  constructor
  · intro htruthful thread readAt nowMs maxAge next hturn hpc id hexamines hwatched hovertaken
    obtain ⟨hpast, hnow, hmax⟩ := hscan thread readAt nowMs maxAge next hpc
    obtain ⟨hrecent, hstale⟩ := (overtaken_iff hpast).mp hovertaken
    have hdue : watchdogDue m.state.lib nowMs maxAge id = true := by
      rw [watchdogDue_iff h.sound hexamines.2.1, h.timed.beat id, hnow, hmax]
      exact ⟨hwatched, hstale⟩
    have hfirst : firstDue m.state.lib nowMs maxAge next = some id.toNat := by
      rw [firstDue_eq_some_iff, UInt8.ofNat_toNat]
      exact ⟨rfl, hexamines, hdue⟩
    have hreport : (m.step turn).pcs thread =
        .handleTest (watchdogReport B id nowMs) (.scan readAt nowMs maxAge (id.toNat + 1)) := by
      rw [hturn]
      simp only [step, hpc, Function.update_self, Pc.advance, syncEnter_lib, hfirst,
        UInt8.ofNat_toNat]
    have hold := htruthful thread readAt nowMs maxAge next _ _ hturn hpc hreport
    exact absurd hrecent (Nat.not_le.mpr hold)
  · intro hunovertaken thread readAt nowMs maxAge next report ret hturn hpc hreport
    obtain ⟨hpast, hnow, hmax⟩ := hscan thread readAt nowMs maxAge next hpc
    rw [hturn] at hreport
    simp only [step, hpc, Function.update_self, Pc.advance, syncEnter_lib] at hreport
    cases hfirst : firstDue m.state.lib nowMs maxAge next with
    | none =>
        rw [hfirst] at hreport
        cases hreport
    | some i =>
        rw [hfirst] at hreport
        obtain ⟨hi, hexamines, hdue⟩ := (firstDue_eq_some_iff _ _ _ _ _).mp hfirst
        obtain ⟨hwatched, hstale⟩ := (watchdogDue_iff h.sound hexamines.2.1 _ _).mp hdue
        injection hreport with hentity
        rw [← hentity]
        refine Nat.lt_of_not_le fun hrecent ↦ ?_
        refine hunovertaken thread readAt nowMs maxAge next hturn hpc _ hexamines hwatched ?_
        rw [h.timed.beat, hnow, hmax] at hstale
        exact (overtaken_iff hpast).mpr ⟨hrecent, hstale⟩

theorem started_clocked (clock : ℕ) (pace : List Obs → ℕ) (config : Option Config)
    (lock unlock : Bool) : (started clock pace config lock unlock : Machine B).Clocked where
  sound := started_sound clock pace config lock unlock
  timed := ⟨fun _ ↦ rfl, fun _ ↦ Nat.zero_le _⟩
  taken := fun _ _ h ↦ by cases h

end Machine

/-- For every interleaving, every clock and every answer of the callbacks: the run
has no false trip if and only if none of its scans looks at a watched entity whose
heartbeat has overtaken the scan. -/
theorem no_false_trip_iff (clock : ℕ) (pace : List Obs → ℕ) (config : Option Config)
    (lock unlock : Bool) (turns : List Turn) :
    Run.Along Machine.step Machine.Truthful
        (Machine.started clock pace config lock unlock : Machine B) turns ↔
      Run.Along Machine.step Machine.Unovertaken
        (Machine.started clock pace config lock unlock : Machine B) turns :=
  Run.along_congr Machine.Clocked (fun _ turn h _ ↦ h.step turn)
    (fun _ turn h ↦ Machine.truthful_iff h turn) (Machine.started_clocked _ _ _ _ _)

/-- A run in which no scan looks at an entity that was heard of after the reading is free
of false trips. -/
theorem truthful_of_unhurried {clock : ℕ} {pace : List Obs → ℕ} {config : Option Config}
    {lock unlock : Bool} {turns : List Turn}
    (h : Run.Along Machine.step Machine.Unhurried
      (Machine.started clock pace config lock unlock : Machine B) turns) :
    Run.Along Machine.step Machine.Truthful
      (Machine.started clock pace config lock unlock : Machine B) turns :=
  Run.along_of_invariant Machine.Clocked (fun _ turn hclocked _ ↦ hclocked.step turn)
    (fun _ turn hclocked hunhurried ↦
      (Machine.truthful_iff hclocked turn).mpr hunhurried.unovertaken)
    (Machine.started_clocked _ _ _ _ _) h

/-- The scan reads the clock at 2000 ms, a worker sends a heartbeat at 2001 ms, and
the scan reports its entity. -/
theorem false_trip_on_heartbeat :
    ¬ Run.Along Machine.step Machine.Truthful
      (Machine.started 0 (fun _ ↦ 0) none true true : Machine .default)
      [.call 0 (.entityRegister (some .zero) true), .elapse 2000, .call 1 .checkWatchdogs,
        .advance 1, .elapse 1, .call 0 (.heartbeatNotify 0), .advance 1, .advance 1] := by
  intro h
  have hlast := (Run.along_iff.mp h) [.call 0 (.entityRegister (some .zero) true), .elapse 2000,
    .call 1 .checkWatchdogs, .advance 1, .elapse 1, .call 0 (.heartbeatNotify 0), .advance 1]
    (.advance 1) [] rfl
  have htrip := hlast 1 2000 2000 1500 0 (watchdogReport .default 0 2000)
    (.scan 2000 2000 1500 1) rfl (by decide) (by decide)
  exact absurd htrip (by decide)

end Fdir
