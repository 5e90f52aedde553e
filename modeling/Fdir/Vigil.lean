import Fdir.Foundation.Tally
import Fdir.Scan

/-!
# No silence goes unnoticed

A scan that reads the clock at true time `t` leaves no entity in service that has not been
heard of since `t` less the maximum age, whatever other threads do during the scan.  As long
as the supervisor does not fall so far behind that the age of a heartbeat wraps, one completed
scan makes sure of this for the next, and the silence of every running entity is bounded at all
times.
-/

namespace Fdir

open Foundation

variable {B : Build}

/-! ## Stamps of entities that come into service -/

/-- Entity `id`, if it is in service, was last heard of at true time `t` or later. -/
def State.HeardSince (s : State B) (t : ℕ) (id : EntityId) : Prop :=
  id < s.lib.entityCount → ¬ s.lib.failed id → t ≤ s.world.stamped id

theorem Evolves.stamped_le {P : Obs → Prop} {s s' : State B} {t : ℕ} {id : EntityId}
    (h : Evolves P s s') (hclock : t ≤ s.world.clock) (hstamped : t ≤ s.world.stamped id) :
    t ≤ s'.world.stamped id := by
  rcases h.stamps id with ⟨hsame, -⟩ | ⟨hlater, -⟩
  · rwa [hsame]
  · exact hclock.trans hlater

theorem healthResetUnsafe_stamped {s : State B} {id : EntityId}
    (hid : id < s.lib.health.entityLimit) :
    s.world.clock ≤ (healthResetUnsafe s id).world.stamped id := by
  have hlimit : ¬ (getNowMs s).2.lib.health.entityLimit ≤ id := by
    rw [getNowMs_lib]
    exact UInt8.not_le.mpr hid
  have hrun : (healthResetUnsafe s id).world.stamped id = (getNowMs s).2.world.clock := by
    simp only [healthResetUnsafe, if_neg (UInt8.not_le.mpr hid), State.write_stamped, State.stamp,
      if_neg hlimit, Function.update_self]
  rw [hrun]
  exact (silent_getNowMs s).clock_le

theorem entityRegister_stamped {s : State B} (hready : s.lib.portReady = true) {desc : EntityDesc}
    (hroom : s.lib.entityCount.toNat < B.entityCap) (hexhausted : desc.onExhausted ≠ .restart) :
    s.world.clock ≤
      (entityRegister s (some desc) true).2.2.world.stamped s.lib.entityCount := by
  let enrolled := (syncEnter s).write fun l ↦
    { l.setSlot s.lib.entityCount (registeredSlot B desc) with
      entityCount := l.entityCount + 1
      health := l.health.setEntityLimit (l.entityCount + 1) }
  have hcap := B.entityCap_le
  have hready : enrolled.lib.portReady = true := (silent_syncEnter s).ready.trans hready
  have hid : s.lib.entityCount < enrolled.lib.health.entityLimit := by
    change s.lib.entityCount < (syncEnter s).lib.entityCount + 1
    rw [syncEnter_lib, UInt8.lt_iff_toNat_lt, UInt8.toNat_add, UInt8.toNat_one]
    omega
  have hrun : (entityRegister s (some desc) true).2.2 =
      syncExit (healthResetUnsafe enrolled s.lib.entityCount) := by
    simp only [entityRegister, syncEnter_lib, if_neg (Nat.not_le.mpr hroom), if_neg hexhausted]
    rfl
  have hclock : s.world.clock ≤ enrolled.world.clock := (silent_syncEnter s).clock_le
  have hstamped := hclock.trans (healthResetUnsafe_stamped hid)
  rw [hrun]
  refine (silent_syncExit _).stamped_le (hclock.trans ?_) hstamped
  exact (silent_healthResetUnsafe enrolled hready _).clock_le

theorem resetState_stamped {s : State B} {id : EntityId} (hid : id < s.lib.health.entityLimit)
    (reason : Reason) : (restartCalled s id reason).world.clock ≤
      (resetState s id reason).world.stamped id := by
  let cleared := (restartCalled s id reason).write fun l ↦
    { l with health := (l.health.clearLatchUnsafe id).2 }
  have hlimit : id < cleared.lib.health.entityLimit := by
    change id < (s.lib.health.clearLatchUnsafe id).2.entityLimit
    rwa [clearLatchUnsafe_entityLimit]
  exact healthResetUnsafe_stamped hlimit

/-- A recovery that restarts the entity stamps it. -/
theorem recoverEntity_stamped {s : State B} (hready : s.lib.portReady = true)
    {report : FailureReport} (hid : report.entity < s.lib.health.entityLimit)
    (h : s.lib.restores (answers s report) report) :
    s.world.clock ≤ (recoverEntity s report).world.stamped report.entity := by
  obtain ⟨⟨haction, hrestart⟩, hzero⟩ := h
  have hresolved := silent_resolvedState s report
  have hid' := resolvedState_limit hid
  obtain ⟨hlatched, -⟩ := resolvedState_latched hid
  have hok : (tryRestart (resolvedState s report) report.entity report.reason).1 = .ok := by
    refine (tryRestart_fst _ _ _).mpr ⟨?_, hzero⟩
    rwa [resolvedState_entities hid]
  obtain ⟨mode, mode', name, hrun⟩ := tryRestart_of_ok hid' hlatched hok
  have happly : applyAction (resolvedState s report) report.entity .restart report =
      (tryRestart (resolvedState s report) report.entity report.reason).2 := by
    simp [applyAction, hok]
  let reset := resetState (resolvedState s report) report.entity report.reason
  have hbefore : s.world.clock ≤ (restartCalled (resolvedState s report) report.entity
      report.reason).world.clock :=
    hresolved.clock_le.trans (evolves_restartCalled _ _ _).clock_le
  have hreset := silent_resetState (hresolved.ready.trans hready) report.entity report.reason
  have hstamped : s.world.clock ≤ reset.world.stamped report.entity := by
    exact hbefore.trans (resetState_stamped hid' report.reason)
  have hrest := (evolves_emitEventFull reset .failure mode report.entity
      ((resolvedState s report).lib.health.latchedReason report.entity) 0 .entity .cleared
      name).any.trans
    ((evolves_emitEventFull _ .restart mode' report.entity report.reason 0 .entity .raised
      name).any.trans (silent_evaluateDualPath _).any)
  rw [recoverEntity_eq hid, haction, happly, hrun]
  exact hrest.stamped_le (hbefore.trans hreset.clock_le) hstamped

/-- Handling a report leaves its entity FAILED or stamps it. -/
theorem handleFailureLocked_stamped {s : State B} (hs : s.lib.Sound)
    (hlatched : s.lib.LatchedFailed) {report : FailureReport}
    (hid : report.entity < s.lib.entityCount) :
    (handleFailureLocked s report).lib.failed report.entity ∨
      s.world.clock ≤ (handleFailureLocked s report).world.stamped report.entity := by
  by_cases hraises : s.lib.raises report
  · by_cases hrestores : s.lib.restores (answers (raisedState s report) report) report
    · right
      have hraised := (raisedState_world hs report).1
      have hstamped := recoverEntity_stamped (raisedState_ready hs report)
        (raisedState_limit hs.limit_eq hid) (by rwa [raisedState_lib])
      rw [handleFailureLocked_of_known hraises (hs.known hid)]
      refine (silent_syncExit _).stamped_le ?_ (hraised.clock_le.trans hstamped)
      have hrecovered := (recoverEntity_world (raisedState_ready hs report)
        (raisedState_limit hs.limit_eq hid)).1
      exact hraised.clock_le.trans ((silent_resolvedState _ _).clock_le.trans hrecovered.clock_le)
    · left
      have hhealth := (Lib.record_handle_of_not_restores hs hraises hid hrestores).1
      rw [handleFailureLocked_lib hs.limit_eq, Lib.failed, hhealth]
  · left
    have hlatch : s.lib.health.faultIsLatchedUnsafe report.entity report.reason = true := by
      simpa [Lib.raises] using hraises
    rw [handleFailureLocked_of_latched hlatch, syncExit_lib, syncEnter_lib]
    exact hlatched _ ((hs.faultIsLatched_iff _ _).mp hlatch).1

/-! ## Turns -/

theorem Effect.entityCount_eq {c : Call} {l l' : Lib B} (he : Effect c l l')
    (hc : ¬ ∃ desc, c = .entityRegister (some desc) true ∧ l.entityCount.toNat < B.entityCap ∧
      desc.onExhausted ≠ .restart) : l'.entityCount = l.entityCount := by
  cases he with
  | enroll desc now hcall hroom hexhausted =>
      exact absurd ⟨desc, hcall, hroom, hexhausted⟩ hc
  | handle ans report => exact Lib.handle_entityCount _ _ _
  | watch ans id now => exact Lib.handle_entityCount _ _ _
  | dequeue ans report => exact Lib.handle_entityCount _ _ _
  | supervise enabled =>
      unfold Lib.supervise
      split <;> rfl
  | _ => rfl

theorem Does.entityCount_eq {pc : Pc} {l l' : Lib B} (h : Does l pc l') :
    l'.entityCount = l.entityCount := by
  cases h with
  | handle ans report => exact Lib.handle_entityCount _ _ _
  | _ => rfl

namespace Machine

variable {m : Machine B} {turn : Turn} {id : EntityId} {t : ℕ}

theorem clock_le (hs : m.state.lib.Sound) :
    m.state.world.clock ≤ (m.step turn).state.world.clock := by
  rcases (m.stride turn).evolves hs with hevolves | ⟨ms, hstate⟩
  · exact hevolves.clock_le
  · rw [hstate]
    exact Nat.le_add_right _ _

theorem stamped_le (hs : m.state.lib.Sound) (hclock : t ≤ m.state.world.clock)
    (hstamped : t ≤ m.state.world.stamped id) : t ≤ (m.step turn).state.world.stamped id := by
  rcases (m.stride turn).evolves hs with hevolves | ⟨ms, hstate⟩
  · exact hevolves.stamped_le hclock hstamped
  · rwa [hstate]

/-- An entity that a turn registers is stamped by it. -/
theorem stamped_of_registered (hs : m.state.lib.Sound) (hbefore : m.state.lib.entityCount ≤ id)
    (hafter : id < (m.step turn).state.lib.entityCount) :
    m.state.world.clock ≤ (m.step turn).state.world.stamped id := by
  have hcount : (m.step turn).state.lib.entityCount ≠ m.state.lib.entityCount := by
    intro heq
    rw [heq] at hafter
    exact UInt8.not_le.mpr hafter hbefore
  rcases acts hs.limit_eq turn with ⟨thread, c, rfl, hentry, heffect⟩ | ⟨thread, -, hdoes⟩ | hsame
  · by_cases hc : ∃ desc, c = .entityRegister (some desc) true ∧
        m.state.lib.entityCount.toNat < B.entityCap ∧ desc.onExhausted ≠ .restart
    · obtain ⟨desc, rfl, hroom, hexhausted⟩ := hc
      by_cases hidle : m.pcs thread = .idle
      · rw [step_of_single hidle hentry] at hafter hcount ⊢
        obtain ⟨now, hlib⟩ := entityRegister_lib m.state hroom hexhausted
        change id < (entityRegister m.state (some desc) true).2.2.lib.entityCount at hafter
        rw [hlib] at hafter
        rcases (Lib.lt_enroll_entityCount hroom id).mp hafter with rfl | hold
        · exact entityRegister_stamped hs.ready hroom hexhausted
        · exact absurd hbefore (UInt8.not_le.mpr hold)
      · rw [step_of_busy hidle] at hcount
        exact absurd rfl hcount
    · exact absurd (heffect.entityCount_eq hc) hcount
  · exact absurd hdoes.entityCount_eq hcount
  · exact absurd (congrArg Lib.entityCount hsame) hcount

/-- Whoever comes into service, comes back, or stays in service is known to be alive. -/
theorem heardSince_step (hs : m.state.lib.Sound) (hlatched : m.state.lib.LatchedFailed)
    (hturn : turn.indirect) (ht : t ≤ m.state.world.clock) (h : m.state.HeardSince t id) :
    (m.step turn).state.HeardSince t id := by
  intro hknown' hfailed'
  by_cases hknown : id < m.state.lib.entityCount
  · by_cases hfailed : m.state.lib.failed id
    · by_cases hreopens : m.Reopens id turn
      · cases turn with
        | call thread c => exact absurd hreopens (hturn id)
        | advance thread =>
            obtain ⟨report, ret, hpc, rfl, -⟩ := hreopens
            rw [step_of_handling hpc] at hfailed' ⊢
            exact ht.trans ((handleFailureLocked_stamped hs hlatched hknown).resolve_left hfailed')
        | elapse ms => exact hreopens.elim
      · exact absurd (quarantined_step hs ⟨hknown, hfailed⟩ hreopens).failed hfailed'
    · exact stamped_le hs ht (h hknown hfailed)
  · exact ht.trans (stamped_of_registered hs (UInt8.not_lt.mp hknown) hknown')

/-- What a turn does to the program counter of a thread. -/
theorem pcs_step (m : Machine B) (turn : Turn) (thread : ℕ) :
    (m.step turn).pcs thread = m.pcs thread ∨
      (∃ c : Call, m.pcs thread = .idle ∧ c.entry = some ((m.step turn).pcs thread)) ∨
      turn = .advance thread ∧
        (m.step turn).pcs thread = ((m.pcs thread).advance m.state).1 := by
  cases turn with
  | call caller c =>
      by_cases hidle : m.pcs caller = .idle
      · cases hentry : c.entry with
        | none =>
            rw [step_of_single hidle hentry]
            exact Or.inl rfl
        | some pc =>
            rw [step_of_entry hidle hentry]
            by_cases hthread : thread = caller
            · subst hthread
              right; left
              exact ⟨c, hidle, by simpa using hentry⟩
            · exact Or.inl (Function.update_of_ne hthread _ _)
      · rw [step_of_busy hidle]
        exact Or.inl rfl
  | advance mover =>
      by_cases hthread : thread = mover
      · subst hthread
        exact Or.inr (Or.inr ⟨rfl, Function.update_self _ _ _⟩)
      · exact Or.inl (Function.update_of_ne hthread _ _)
  | elapse ms => exact Or.inl rfl

end Machine

/-- A turn that does not disable supervision. -/
def Turn.supervises : Turn → Prop
  | .call _ (.setSupervisionEnabled enabled) => enabled ≠ 0
  | _ => True

theorem Machine.enabled_step {m : Machine B} (hs : m.state.lib.Sound) {turn : Turn}
    (hturn : turn.supervises) (h : m.state.lib.supervisionEnabled ≠ 0) :
    (m.step turn).state.lib.supervisionEnabled ≠ 0 := by
  rcases acts hs.limit_eq turn with ⟨thread, c, rfl, -, heffect⟩ | ⟨thread, -, hdoes⟩ | hsame
  · generalize (m.step (.call thread c)).state.lib = l at heffect ⊢
    cases heffect with
    | supervise enabled hcall =>
        subst hcall
        exact hturn
    | handle ans report => rwa [Lib.handle_supervisionEnabled]
    | watch ans id now => rwa [Lib.handle_supervisionEnabled]
    | dequeue ans report => rwa [Lib.handle_supervisionEnabled]
    | _ => exact h
  · generalize (m.step turn).state.lib = l at hdoes ⊢
    generalize m.pcs thread = pc at hdoes
    cases hdoes with
    | handle ans report ret => rwa [Lib.handle_supervisionEnabled]
    | _ => exact h
  · rwa [hsame]

/-! ## The scan of the supervisor -/

/-- The scan has dealt with the entities below this index. -/
def Pc.examined : Pc → ℕ
  | .watchScan _ _ _ next => next
  | .handleTest report (.scan ..) | .handleLocked report (.scan ..) => report.entity.toNat
  | _ => 0

/-- A scan goes on behind the entity whose report it handles. -/
def Pc.InOrder : Pc → Prop
  | .handleTest report (.scan _ _ _ next) | .handleLocked report (.scan _ _ _ next) =>
      next = report.entity.toNat + 1
  | _ => True

theorem Call.inOrder_entry {c : Call} {pc : Pc} (h : c.entry = some pc) : pc.InOrder := by
  unfold Call.entry at h
  split at h <;> cases h <;> exact trivial

/-- An entity that is not due has been heard of since the reading less the maximum age: the
heartbeat is not so old that its age wraps. -/
theorem State.heardSince_of_not_due {s : State B} (hs : s.lib.Sound)
    (hlatched : s.lib.LatchedFailed) (htimed : s.Timed) {r : Reading} (hr : r.Taken s)
    {cover period : ℕ} {id : EntityId} (hcover : s.HeardSince (cover - r.maxAge.toNat) id)
    (hprompt : r.readAt ≤ cover + period) (hperiod : r.maxAge.toNat + period < 2 ^ 32)
    (hdue : watchdogDue s.lib r.nowMs r.maxAge id = false) :
    s.HeardSince (r.readAt - r.maxAge.toNat) id := by
  intro hknown hfailed
  have hheard := hcover hknown hfailed
  have hfresh : ¬ r.maxAge < r.nowMs - (s.lib.health.health id).lastHeartbeatMs := by
    intro hstale
    rw [(watchdogDue_iff hs hknown _ _).mpr
      ⟨(hlatched.watched_iff hs id).mpr hfailed, hstale⟩] at hdue
    cases hdue
  by_cases hle : s.world.stamped id ≤ r.readAt
  · rw [htimed.beat, hr.now_eq, ← UInt32.ofNat_sub hle, UInt32.lt_iff_toNat_lt,
      UInt32.toNat_ofNat', Nat.mod_eq_of_lt (by omega)] at hfresh
    omega
  · omega

/-- Every entity in service that the scan has dealt with has been heard of since its reading
less the maximum age. -/
def Pc.Vouches (s : State B) (maxAge : UInt32) (pc : Pc) : Prop :=
  ∀ r ∈ pc.reading, ∀ id : EntityId, id.toNat < pc.examined →
    s.HeardSince (r.readAt - maxAge.toNat) id

/-- What is known of the reading a scan uses. -/
structure Reading.Usable (s : State B) (maxAge : UInt32) (cover period : ℕ) (r : Reading) :
    Prop where
  taken : r.Taken s
  maxAge_eq : r.maxAge = maxAge
  prompt : r.readAt ≤ cover + period

section Sections

variable {s : State B} {maxAge : UInt32} {cover period : ℕ} {pc : Pc}

/-- Once a scan has dealt with an entity, its reading is not new. -/
theorem Pc.reading_of_examined (henabled : s.lib.supervisionEnabled ≠ 0)
    (hpc : ∀ report ret, pc ≠ .handleLocked report ret) {r : Reading}
    (hr : r ∈ (pc.advance s).1.reading) (hexamined : (pc.advance s).1.examined ≠ 0) :
    r ∈ pc.reading := by
  cases pc with
  | idle | submitPut | gateHeartbeat | gateRun => cases hr
  | submitTest | tickTest | gateMode | drain =>
      simp only [Pc.advance] at hr
      split at hr <;> cases hr
  | handleTest report ret =>
      simp only [Pc.advance, supervisionEnabled_fst, if_neg henabled] at hr
      exact hr
  | handleLocked report ret => exact absurd rfl (hpc report ret)
  | watchClock => exact absurd rfl hexamined
  | watchTest readAt nowMs age =>
      simp only [Pc.advance, supervisionEnabled_fst, if_neg henabled] at hr
      exact hr
  | watchScan readAt nowMs age next =>
      simp only [Pc.advance] at hr
      split at hr
      · cases hr
      · exact hr

theorem watchdogDue_of_firstDue {l : Lib B} {nowMs maxAge : UInt32} {next : ℕ}
    (h : firstDue l nowMs maxAge next = none) {id : EntityId} (hnext : next ≤ id.toNat)
    (hid : id < l.entityCount) : watchdogDue l nowMs maxAge id = false := by
  rw [firstDue, List.find?_eq_none] at h
  have hskipped := h id.toNat (List.mem_range'_1.mpr (by
    rw [UInt8.lt_iff_toNat_lt] at hid
    omega))
  rwa [UInt8.ofNat_toNat, Bool.not_eq_true] at hskipped

/-- The loop of the scan under its lock passes over entities that are not due. -/
theorem Pc.watchScan_vouches (hs : s.lib.Sound) (hlatched : s.lib.LatchedFailed)
    (htimed : s.Timed) (hcover : ∀ id, s.HeardSince (cover - maxAge.toNat) id)
    (hperiod : maxAge.toNat + period < 2 ^ 32) {readAt : ℕ} {nowMs age : UInt32} {next : ℕ}
    (hr : Reading.Usable s maxAge cover period ⟨readAt, nowMs, age⟩)
    (hvouches : (Pc.watchScan readAt nowMs age next).Vouches s maxAge) {id : EntityId}
    (hdue : next ≤ id.toNat → id < s.lib.entityCount → watchdogDue s.lib nowMs age id = false) :
    s.HeardSince (readAt - maxAge.toNat) id := by
  by_cases hnext : id.toNat < next
  · exact hvouches ⟨readAt, nowMs, age⟩ rfl id hnext
  · intro hknown hfailed
    have hage : age = maxAge := hr.maxAge_eq
    subst hage
    exact State.heardSince_of_not_due hs hlatched htimed hr.taken (hcover id) hr.prompt hperiod
      (hdue (Nat.le_of_not_lt hnext) hknown) hknown hfailed

/-- A scan that ends has dealt with every entity. -/
theorem Pc.heardSince_of_idle (hs : s.lib.Sound) (hlatched : s.lib.LatchedFailed)
    (htimed : s.Timed) (hcover : ∀ id, s.HeardSince (cover - maxAge.toNat) id)
    (hperiod : maxAge.toNat + period < 2 ^ 32) {readAt : ℕ} {nowMs age : UInt32} {next : ℕ}
    (hr : Reading.Usable s maxAge cover period ⟨readAt, nowMs, age⟩)
    (hvouches : (Pc.watchScan readAt nowMs age next).Vouches s maxAge)
    (hidle : ((Pc.watchScan readAt nowMs age next).advance s).1 = .idle) (id : EntityId) :
    s.HeardSince (readAt - maxAge.toNat) id := by
  simp only [Pc.advance, syncEnter_lib] at hidle
  cases hfirst : firstDue s.lib nowMs age next with
  | none =>
      refine Pc.watchScan_vouches hs hlatched htimed hcover hperiod hr hvouches ?_
      exact watchdogDue_of_firstDue hfirst
  | some i =>
      rw [hfirst] at hidle
      cases hidle

/-- A section of the scan that handles no report. -/
theorem Pc.vouches_advance (hs : s.lib.Sound) (hlatched : s.lib.LatchedFailed) (htimed : s.Timed)
    (henabled : s.lib.supervisionEnabled ≠ 0)
    (hcover : ∀ id, s.HeardSince (cover - maxAge.toNat) id)
    (hperiod : maxAge.toNat + period < 2 ^ 32)
    (hr : ∀ r ∈ pc.reading, r.Usable s maxAge cover period) (horder : pc.InOrder)
    (hvouches : pc.Vouches s maxAge) (hpc : ∀ report ret, pc ≠ .handleLocked report ret) :
    (pc.advance s).1.InOrder ∧ (pc.advance s).1.Vouches s maxAge := by
  have hnone : ∀ {pc : Pc}, pc.reading = none → pc.Vouches s maxAge := by
    intro pc hpc r hr
    rw [hpc] at hr
    cases hr
  cases pc with
  | idle => exact ⟨trivial, hnone rfl⟩
  | submitPut | gateHeartbeat | gateRun => exact ⟨trivial, hnone rfl⟩
  | submitTest | tickTest | gateMode =>
      simp only [Pc.advance]
      split <;> exact ⟨trivial, hnone rfl⟩
  | drain =>
      simp only [Pc.advance]
      split <;> exact ⟨trivial, hnone rfl⟩
  | handleTest report ret =>
      simp only [Pc.advance, supervisionEnabled_fst, if_neg henabled]
      refine ⟨?_, ?_⟩
      · cases ret <;> exact horder
      · cases ret <;> exact hvouches
  | handleLocked report ret => exact absurd rfl (hpc report ret)
  | watchClock => exact ⟨trivial, fun r _ id hid ↦ absurd hid (Nat.not_lt_zero _)⟩
  | watchTest readAt nowMs age =>
      simp only [Pc.advance, supervisionEnabled_fst, if_neg henabled]
      exact ⟨trivial, fun r _ id hid ↦ absurd hid (Nat.not_lt_zero _)⟩
  | watchScan readAt nowMs age next =>
      have husable := hr ⟨readAt, nowMs, age⟩ rfl
      simp only [Pc.advance, syncEnter_lib]
      cases hfirst : firstDue s.lib nowMs age next with
      | none =>
          exact ⟨trivial, hnone rfl⟩
      | some i =>
          obtain ⟨hi, ⟨hnext, hknown, hbefore⟩, hdue⟩ := (firstDue_eq_some_iff _ _ _ _ _).mp hfirst
          refine ⟨?_, ?_⟩
          · change i + 1 = (UInt8.ofNat i).toNat + 1
            rw [hi]
          · rintro r hreading id hid
            cases hreading
            refine Pc.watchScan_vouches hs hlatched htimed hcover hperiod husable hvouches ?_
            intro hnext' hknown'
            have hid' : id.toNat < (UInt8.ofNat i).toNat := hid
            have hskipped := hbefore id.toNat hnext' hid'
            rwa [UInt8.ofNat_toNat] at hskipped

end Sections

/-- The machine, and the true time read by the scan that thread `supervisor` completed
last. -/
structure Vigil (B : Build) where
  machine : Machine B
  readAt : ℕ

/-- The reading of the scan that a turn completes for a thread. -/
def Machine.completes (m : Machine B) (thread : ℕ) (turn : Turn) : Option ℕ :=
  match m.pcs thread, (m.step turn).pcs thread with
  | .watchScan readAt _ _ _, .idle => some readAt
  | _, _ => none

theorem Machine.completes_eq_some {m : Machine B} {thread : ℕ} {turn : Turn} {readAt : ℕ}
    (h : m.completes thread turn = some readAt) :
    ∃ nowMs age next, m.pcs thread = .watchScan readAt nowMs age next ∧
      (m.step turn).pcs thread = .idle := by
  unfold completes at h
  split at h
  · next hpc hidle =>
    cases h
    exact ⟨_, _, _, hpc, hidle⟩
  · cases h

theorem Machine.completes_eq_none {m : Machine B} {thread : ℕ} {turn : Turn}
    (h : ∀ readAt nowMs age next, m.pcs thread = .watchScan readAt nowMs age next →
      (m.step turn).pcs thread ≠ .idle) : m.completes thread turn = none := by
  rw [Option.eq_none_iff_forall_ne_some]
  intro readAt hsome
  obtain ⟨nowMs, age, next, hscan, hidle⟩ := completes_eq_some hsome
  exact h readAt nowMs age next hscan hidle

namespace Vigil

def step (supervisor : ℕ) (v : Vigil B) (turn : Turn) : Vigil B :=
  ⟨v.machine.step turn, (v.machine.completes supervisor turn).getD v.readAt⟩

/-- The supervisor scans with a reading that is at most `period` ms later than that of its
last completed scan. -/
def Prompt (supervisor period : ℕ) (v : Vigil B) : Prop :=
  ∀ r ∈ (v.machine.pcs supervisor).reading, r.readAt ≤ v.readAt + period

instance (supervisor period : ℕ) (v : Vigil B) : Decidable (v.Prompt supervisor period) :=
  inferInstanceAs (Decidable (∀ r ∈ _, _))

/-- What the turns of all threads keep. -/
structure Kept (supervisor : ℕ) (maxAge : UInt32) (v : Vigil B) : Prop where
  clocked : v.machine.Clocked
  latched : v.machine.state.lib.LatchedFailed
  enabled : v.machine.state.lib.supervisionEnabled ≠ 0
  config : heartbeatMaxAgeMs v.machine.state.lib.config = maxAge
  past : v.readAt ≤ v.machine.state.world.clock
  inOrder : (v.machine.pcs supervisor).InOrder
  heard : ∀ id, v.machine.state.HeardSince (v.readAt - maxAge.toNat) id
  vouches : (v.machine.pcs supervisor).Vouches v.machine.state maxAge

variable {supervisor period : ℕ} {maxAge : UInt32} {v : Vigil B} {turn : Turn}

theorem Kept.started (clock : ℕ) (pace : List Obs → ℕ) (config : Option Config)
    (lock unlock : Bool) : Kept supervisor (heartbeatMaxAgeMs (config.getD configDefault))
      (⟨.started clock pace config lock unlock, clock⟩ : Vigil B) where
  clocked := Machine.started_clocked clock pace config lock unlock
  latched := fun _ h ↦ nomatch h
  enabled := (by decide : (1 : UInt8) ≠ 0)
  config := rfl
  past := le_refl _
  inOrder := trivial
  heard := fun _ h ↦ absurd h (UInt8.not_lt.mpr (UInt8.zero_le))
  vouches := fun _ h ↦ nomatch h

/-- The readings in use are usable. -/
theorem Kept.usable (h : v.Kept supervisor maxAge) (hprompt : v.Prompt supervisor period)
    {r : Reading} (hr : r ∈ (v.machine.pcs supervisor).reading) :
    r.Usable v.machine.state maxAge v.readAt period := by
  have htaken := h.clocked.taken supervisor r hr
  exact ⟨htaken, htaken.max_eq.trans h.config, hprompt r hr⟩

/-- What a turn leaves of what the scan vouches for. -/
theorem Kept.vouches_step (h : v.Kept supervisor maxAge) {turn : Turn} (hturn : turn.indirect)
    {pc : Pc}
    (hreading : ∀ r ∈ pc.reading, pc.examined ≠ 0 → r.readAt ≤ v.machine.state.world.clock)
    (hvouches : pc.Vouches v.machine.state maxAge) :
    pc.Vouches (v.machine.step turn).state maxAge := by
  intro r hr id hid
  have hpast := hreading r hr (Nat.ne_zero_of_lt hid)
  exact Machine.heardSince_step h.clocked.sound h.latched hturn (by omega) (hvouches r hr id hid)

theorem Kept.past_reading (h : v.Kept supervisor maxAge) {r : Reading}
    (hr : r ∈ (v.machine.pcs supervisor).reading) : r.readAt ≤ v.machine.state.world.clock :=
  (h.clocked.taken supervisor r hr).past

/-- A turn keeps all that does not depend on where the supervisor is. -/
theorem Kept.keep (h : v.Kept supervisor maxAge) (hturn : turn.indirect)
    (hsupervises : turn.supervises) {readAt : ℕ} (hpast : readAt ≤ v.machine.state.world.clock)
    (hheard : ∀ id, v.machine.state.HeardSince (readAt - maxAge.toNat) id)
    (horder : ((v.machine.step turn).pcs supervisor).InOrder)
    (hvouches : ((v.machine.step turn).pcs supervisor).Vouches
      (v.machine.step turn).state maxAge) :
    (⟨v.machine.step turn, readAt⟩ : Vigil B).Kept supervisor maxAge where
  clocked := h.clocked.step turn
  latched := Machine.latchedFailed_step h.clocked.sound h.latched hturn
  enabled := Machine.enabled_step h.clocked.sound hsupervises h.enabled
  config := by rw [(v.machine.stride turn).config_eq h.clocked.sound, h.config]
  past := hpast.trans (Machine.clock_le h.clocked.sound)
  inOrder := horder
  heard := fun id ↦ Machine.heardSince_step h.clocked.sound h.latched hturn
    ((Nat.sub_le _ _).trans hpast) (hheard id)
  vouches := hvouches

/-- The supervisor handles a report: all it vouched for stays, and the entity of a report of
its scan is FAILED or restarted now. -/
theorem Kept.handled (h : v.Kept supervisor maxAge)
    (hturn : (Turn.advance supervisor).indirect) {report : FailureReport} {ret : Return}
    (hpc : v.machine.pcs supervisor = .handleLocked report ret) :
    ret.pc.InOrder ∧ ret.pc.Vouches (v.machine.step (.advance supervisor)).state maxAge := by
  have hs := h.clocked.sound
  have horder := h.inOrder
  have hvouches := h.vouches
  rw [hpc] at horder hvouches
  refine ⟨by cases ret <;> exact trivial, ?_⟩
  cases ret with
  | caller | drain => exact fun r hr ↦ nomatch hr
  | scan readAt nowMs age next =>
      rintro r hr id hid
      have hreading : (Pc.handleLocked report (.scan readAt nowMs age next)).reading = some r := hr
      have hclock : r.readAt ≤ v.machine.state.world.clock := by
        refine h.past_reading ?_
        rw [hpc]
        exact hreading
      by_cases hentity : id = report.entity
      · subst hentity
        intro hknown hfailed
        rw [Machine.step_of_handling hpc] at hknown hfailed ⊢
        rw [handleFailureLocked_lib hs.limit_eq, Lib.handle_entityCount] at hknown
        have hstamped := (handleFailureLocked_stamped hs h.latched hknown).resolve_left hfailed
        exact (Nat.sub_le _ _).trans (hclock.trans hstamped)
      · have hbefore : id.toNat < report.entity.toNat := by
          have hnext : id.toNat < next := hid
          have hne : id.toNat ≠ report.entity.toNat := fun heq ↦
            hentity (UInt8.toNat_inj.mp heq)
          have horder' : next = report.entity.toNat + 1 := horder
          omega
        exact Machine.heardSince_step hs h.latched hturn ((Nat.sub_le _ _).trans hclock)
          (hvouches r hreading id hbefore)

/-- The supervisor goes through a section that handles no report. -/
theorem Kept.advanced (h : v.Kept supervisor maxAge) (hprompt : v.Prompt supervisor period)
    (hperiod : maxAge.toNat + period < 2 ^ 32) (hturn : (Turn.advance supervisor).indirect)
    (hsupervises : (Turn.advance supervisor).supervises)
    (hadvance : (v.machine.step (.advance supervisor)).pcs supervisor =
      ((v.machine.pcs supervisor).advance v.machine.state).1)
    (hsection : ∀ report ret, v.machine.pcs supervisor ≠ .handleLocked report ret) :
    (v.step supervisor (.advance supervisor)).Kept supervisor maxAge := by
  have hs := h.clocked.sound
  obtain ⟨horder, hvouches⟩ := Pc.vouches_advance hs h.latched h.clocked.timed h.enabled
    h.heard hperiod (fun r hr ↦ h.usable hprompt hr) h.inOrder h.vouches hsection
  have hstill := h.vouches_step hturn (fun r hr hexamined ↦
    h.past_reading (Pc.reading_of_examined h.enabled hsection hr hexamined)) hvouches
  rw [← hadvance] at horder hstill
  unfold Vigil.step
  rcases hcompletes : v.machine.completes supervisor (.advance supervisor) with _ | readAt
  · exact h.keep hturn hsupervises h.past h.heard horder hstill
  · obtain ⟨nowMs, age, next, hscan, hidle⟩ := Machine.completes_eq_some hcompletes
    have hreading : (v.machine.pcs supervisor).reading = some ⟨readAt, nowMs, age⟩ := by
      rw [hscan]
      rfl
    have hvouched := h.vouches
    rw [hscan] at hadvance hvouched
    refine h.keep hturn hsupervises (h.past_reading hreading) ?_ horder hstill
    exact Pc.heardSince_of_idle hs h.latched h.clocked.timed h.heard hperiod
      (h.usable hprompt hreading) hvouched (hadvance.symm.trans hidle)

theorem Kept.step (h : v.Kept supervisor maxAge) (hprompt : v.Prompt supervisor period)
    (hperiod : maxAge.toNat + period < 2 ^ 32) (hturn : turn.indirect)
    (hsupervises : turn.supervises) : (v.step supervisor turn).Kept supervisor maxAge := by
  rcases v.machine.pcs_step turn supervisor with
    hsame | ⟨c, hidle, hentry⟩ | ⟨rfl, hadvance⟩
  · have hcompletes : v.machine.completes supervisor turn = none := by
      refine Machine.completes_eq_none fun readAt nowMs age next hscan ↦ ?_
      rw [hsame, hscan]
      exact Pc.noConfusion
    rw [Vigil.step, hcompletes]
    refine h.keep hturn hsupervises h.past h.heard ?_ ?_
    · rw [hsame]
      exact h.inOrder
    · rw [hsame]
      exact h.vouches_step hturn (fun r hr _ ↦ h.past_reading hr) h.vouches
  · have hcompletes : v.machine.completes supervisor turn = none := by
      refine Machine.completes_eq_none fun readAt nowMs age next hscan ↦ ?_
      rw [hidle] at hscan
      cases hscan
    rw [Vigil.step, hcompletes]
    exact h.keep hturn hsupervises h.past h.heard (Call.inOrder_entry hentry)
      fun r hr ↦ absurd hr (Call.reading_entry hentry r)
  · by_cases hpc : ∃ report ret, v.machine.pcs supervisor = .handleLocked report ret
    · obtain ⟨report, ret, hpc⟩ := hpc
      have hcompletes : v.machine.completes supervisor (.advance supervisor) = none := by
        refine Machine.completes_eq_none fun readAt nowMs age next hscan ↦ ?_
        rw [hpc] at hscan
        cases hscan
      obtain ⟨horder, hvouches⟩ := h.handled hturn hpc
      have hnext : (v.machine.step (.advance supervisor)).pcs supervisor = ret.pc := by
        rw [hadvance, hpc]
        rfl
      rw [← hnext] at horder hvouches
      rw [Vigil.step, hcompletes]
      exact h.keep hturn hsupervises h.past h.heard horder hvouches
    · exact h.advanced hprompt hperiod hturn hsupervises hadvance
        fun report ret hlocked ↦ hpc ⟨report, ret, hlocked⟩

end Vigil

/-- From a successful `fdir_init` on, for every interleaving in which no thread writes the
health directly or disables supervision, and whose supervisor reads the clock for a scan at
most `period` ms after the reading of its last completed scan: no entity in service has been
silent for longer than the maximum age and the time since that reading together. -/
theorem silence_bounded (clock : ℕ) (pace : List Obs → ℕ) (config : Option Config)
    (lock unlock : Bool) (supervisor period : ℕ) (turns : List Turn) :
    let maxAge := (heartbeatMaxAgeMs (config.getD configDefault)).toNat
    let start : Vigil B := ⟨.started clock pace config lock unlock, clock⟩
    let v := Run.run (Vigil.step supervisor) start turns
    let s := v.machine.state
    maxAge + period < 2 ^ 32 → (∀ turn ∈ turns, turn.indirect ∧ turn.supervises) →
      Run.Along (Vigil.step supervisor) (fun v _ ↦ v.Prompt supervisor period) start turns →
        ∀ id < s.lib.entityCount, ¬ s.lib.failed id →
          s.world.clock - s.world.stamped id ≤ maxAge + (s.world.clock - v.readAt) := by
  intro maxAge start v s hperiod hturns hprompt id hid hfailed
  have halong : Run.Along (Vigil.step supervisor)
      (fun v turn ↦ v.Prompt supervisor period ∧ turn.indirect ∧ turn.supervises) start turns :=
    hprompt.and (Run.along_of_forall (fun _ _ h ↦ h) hturns)
  have hkept : v.Kept supervisor (heartbeatMaxAgeMs (config.getD configDefault)) := by
    refine halong.invariant (Vigil.Kept supervisor _) ?_ (.started clock pace config lock unlock)
    rintro v turn h ⟨hprompt, hindirect, hsupervises⟩
    exact h.step hprompt hperiod hindirect hsupervises
  have hheard : v.readAt - maxAge ≤ s.world.stamped id := hkept.heard id hid hfailed
  have hpast : v.readAt ≤ s.world.clock := hkept.past
  omega

/-- A worker of two keeps silent from the start; at 3000 ms its entity is not in service any
more, and the other one has been silent for 500 ms. -/
theorem silence_bounded_two :
    let beat : List Turn := [.elapse 500, .call 0 (.heartbeatNotify 0)]
    let scan : List Turn := [.call 1 .checkWatchdogs, .advance 1, .advance 1, .advance 1,
      .advance 1, .advance 1, .advance 1]
    let v := Run.run (Vigil.step 1) (⟨.started 0 (fun _ ↦ 0) none true true, 0⟩ : Vigil .default)
      (.call 0 (.entityRegister (some .zero) true) :: .call 0 (.entityRegister (some .zero) true) ::
        beat ++ beat ++ beat ++ scan ++ beat ++ scan ++ [.elapse 500])
    v.machine.state.world.clock - v.machine.state.world.stamped 0 ≤
      1500 + (v.machine.state.world.clock - v.readAt) := by
  intro beat scan v
  refine silence_bounded 0 (fun _ ↦ 0) none true true 1 2000 _ ?_ ?_ ?_ 0 ?_ ?_
  · decide
  · simp [beat, scan, Turn.indirect, Turn.supervises, Call.rewrites]
  · decide +kernel
  · decide +kernel
  · decide +kernel

end Fdir
