import Fdir.Accounts
import Fdir.Budgets
import Fdir.Quarantine

/-!
# Recovery comes to an end

An accepted fault report makes its entity FAILED, and only a successful restart or a call
that writes its health undoes that.  Every fault report of an entity after its first is
therefore paid for by a restart, and the restarts by its budgets.
-/

namespace Fdir

open Foundation

variable {B : Build}

/-! ## What is counted -/

/-- The successful restarts of entity `id`. -/
def State.revivals (s : State B) (id : EntityId) : ℕ :=
  s.restarts.countP fun call ↦ decide (call.1 = id ∧ call.2.2 = 0)

/-- One more fault report of `id` can be accepted. -/
def Lib.allowance (l : Lib B) (id : EntityId) : ℕ :=
  if id < l.entityCount ∧ l.failed id then 0 else 1

instance (id : EntityId) (c : Call) : Decidable (c.rewrites id) := by
  unfold Call.rewrites
  split <;> infer_instance

namespace Machine

/-- The fault reports of the registered entity `id` that a turn puts into the queue. -/
def reported (id : EntityId) (m : Machine B) : Turn → ℕ
  | .call thread c =>
      if m.pcs thread = .idle ∧ id < m.state.lib.entityCount then
        ((c.accepted m.state).map FailureReport.entity).count id
      else 0
  | _ => 0

theorem reported_call (id : EntityId) (m : Machine B) (thread : ℕ) (c : Call) :
    m.reported id (.call thread c) =
      if m.pcs thread = .idle ∧ id < m.state.lib.entityCount then
        ((c.accepted m.state).map FailureReport.entity).count id
      else 0 := rfl

/-- The application writes the health of `id` itself. -/
def rewritten (id : EntityId) : Turn → ℕ
  | .call _ c => if c.rewrites id then 1 else 0
  | _ => 0

end Machine

/-! ## One turn -/

section Turns

variable {m : Machine B} {id : EntityId} {turn : Turn}

theorem Lib.allowance_le (l : Lib B) (id : EntityId) : l.allowance id ≤ 1 := by
  unfold Lib.allowance
  split <;> omega

theorem State.revivals_of_append {s s' : State B} {new : List (EntityId × Reason × ℤ)}
    (h : s'.restarts = s.restarts ++ new) : s.revivals id ≤ s'.revivals id := by
  rw [State.revivals, State.revivals, h, List.countP_append]
  exact Nat.le_add_right _ _

theorem Machine.revivals_le (hs : m.state.lib.Sound) :
    m.state.revivals id ≤ (m.step turn).state.revivals id := by
  rcases (m.stride turn).evolves hs with hevolves | ⟨ms, hstate⟩
  · obtain ⟨new, hnew⟩ := hevolves.restarts_append
    exact State.revivals_of_append hnew
  · rw [hstate]
    exact le_refl _

/-- Only a turn that reopens an entity renews its allowance. -/
theorem Machine.allowance_step_le (hs : m.state.lib.Sound) (hturn : ¬ m.Reopens id turn) :
    (m.step turn).state.lib.allowance id ≤ m.state.lib.allowance id := by
  unfold Lib.allowance
  split
  · exact Nat.zero_le _
  · next hafter =>
    rw [if_neg]
    rintro ⟨hknown, hfailed⟩
    have hkept := Machine.quarantined_step hs ⟨hknown, hfailed⟩ hturn
    exact hafter ⟨hkept.known, hkept.failed⟩

/-- A fault report that reaches a queue with room fails its entity. -/
theorem reportFaultImpl_taken {s : State B} (hs : s.lib.Sound) {entity : EntityId}
    (hid : entity < s.lib.entityCount) {reason : Reason} (hpasses : s.lib.passes entity reason)
    (hroom : s.lib.queue.pending.length < B.failureQueueCap) (errorCode : UInt16)
    (detail : Option CStr) (flags : UInt8) :
    (reportFaultImpl s entity reason errorCode detail flags).2.lib.allowance entity = 0 := by
  have hreported := reportFaultImpl_reported s entity reason errorCode detail flags
  generalize (reportFaultImpl s entity reason errorCode detail flags).1 = status at hreported
  generalize (reportFaultImpl s entity reason errorCode detail flags).2.lib = l at hreported ⊢
  obtain ⟨henabled, hlatch, hfailed⟩ := hpasses
  cases hreported with
  | suppressed hcause =>
      rcases hcause with hdisabled | hlatched | hdown
      · exact absurd hdisabled henabled
      · rw [hlatch] at hlatched
        cases hlatched
      · rw [hfailed] at hdown
        cases hdown
  | rejected report _ hput =>
      exact absurd ((FailureQueue.putUnsafe_fst_eq_zero_iff _ report).mpr hroom) hput
  | accepted report detail hentity =>
      subst hentity
      exact if_pos ⟨hid, failed_accept_self (by rwa [hs.limit_eq])⟩

/-- An accepted fault report uses the allowance up. -/
theorem reportFaultImpl_allowance {s : State B} (hs : s.lib.Sound) (hid : id < s.lib.entityCount)
    (entity : EntityId) (reason : Reason) (errorCode : UInt16) (detail : Option CStr)
    (flags : UInt8) {taken : Multiset FailureReport}
    (htaken : taken = if s.lib.passes entity reason then
      s.lib.queue.takes (faultReport s entity reason errorCode detail flags) else 0) :
    (taken.map FailureReport.entity).count id = 0 ∨
      s.lib.allowance id = 1 ∧ (taken.map FailureReport.entity).count id = 1 ∧
        (reportFaultImpl s entity reason errorCode detail flags).2.lib.allowance id = 0 := by
  subst htaken
  by_cases hpasses : s.lib.passes entity reason
  · rw [if_pos hpasses, FailureQueue.takes]
    split
    · next hput =>
      by_cases hentity : entity = id
      · subst hentity
        right
        have hroom := (FailureQueue.putUnsafe_fst_eq_zero_iff _ _).mp hput
        have hhealthy := hpasses.2.2
        rw [Bool.eq_false_iff, ne_eq, hs.snapshotFailed_iff hid] at hhealthy
        exact ⟨if_neg fun hdown ↦ hhealthy hdown.2, by simp [faultReport],
          reportFaultImpl_taken hs hid hpasses hroom errorCode detail flags⟩
      · left
        simp [faultReport, Ne.symm hentity]
    · exact Or.inl rfl
  · rw [if_neg hpasses]
    exact Or.inl rfl

/-- What a turn takes from the allowance of an entity, its restarts or the application
give back. -/
theorem Machine.reported_paid (hs : m.state.lib.Sound) :
    m.reported id turn + (m.step turn).state.lib.allowance id + m.state.revivals id ≤
      m.state.lib.allowance id + (m.step turn).state.revivals id + Machine.rewritten id turn := by
  have hrevivals : m.state.revivals id ≤ (m.step turn).state.revivals id := m.revivals_le hs
  have hafter := (m.step turn).state.lib.allowance_le id
  by_cases hreopens : m.Reopens id turn
  · have hreported : m.reported id turn = 0 := by
      cases turn with
      | call thread c =>
          have hnone : c.accepted m.state = 0 := by
            cases c with
            | healthReset | healthSet => rfl
            | _ => exact hreopens.elim
          rw [reported_call, hnone]
          exact ite_self 0
      | advance | elapse => rfl
    have hgain : m.state.revivals id + 1 ≤
        (m.step turn).state.revivals id + Machine.rewritten id turn := by
      cases turn with
      | call thread c =>
          have hrewrites : c.rewrites id := hreopens
          rw [rewritten, if_pos hrewrites]
          omega
      | advance thread =>
          obtain ⟨report, ret, -, -, hrestarts⟩ := hreopens
          rw [State.revivals, State.revivals, hrestarts, List.countP_append]
          simp
      | elapse ms => exact hreopens.elim
    omega
  · have hallowance := m.allowance_step_le hs hreopens
    have hreported : m.reported id turn = 0 ∨ m.state.lib.allowance id = 1 ∧
        m.reported id turn = 1 ∧ (m.step turn).state.lib.allowance id = 0 := by
      cases turn with
      | call thread c =>
          rw [reported_call]
          split
          · next hcall =>
            obtain ⟨hidle, hid⟩ := hcall
            cases c with
            | reportFault entity reason errorCode detail =>
                rw [step_of_single hidle rfl]
                exact reportFaultImpl_allowance hs hid entity reason errorCode detail _ rfl
            | reportFaultEx entity reason errorCode detail flags =>
                rw [step_of_single hidle rfl]
                exact reportFaultImpl_allowance hs hid entity reason errorCode detail flags rfl
            | _ => exact Or.inl rfl
          · exact Or.inl rfl
      | advance | elapse => exact Or.inl rfl
    omega

end Turns

/-! ## Runs -/

theorem Stride.counted {s s' : State B} (h : Stride s s') (hs : s.lib.Sound)
    (hcounted : s.Counted) : s'.Counted := by
  cases h with
  | moved hmove => exact hcounted.move hs hmove
  | called c hc =>
      refine hcounted.call hc (after_effect hs.limit_eq ?_ ?_) (silent_after hs.ready hc)
      · rintro rfl
        exact hc trivial
      · rintro rfl
        exact hc trivial
  | elapsed ms => exact ⟨hcounted.counter, hcounted.fresh, hcounted.bounded⟩

/-- The successful restarts are among the restarts of both classes. -/
theorem State.revivals_le_restartsOf (s : State B) (id : EntityId) :
    s.revivals id ≤ s.restartsOf id false + s.restartsOf id true := by
  unfold State.revivals State.restartsOf
  induction s.restarts with
  | nil => exact le_refl _
  | cons call calls ih =>
      have hone : (if decide (call.1 = id ∧ call.2.2 = 0) = true then 1 else 0) ≤
          (if decide (call.1 = id ∧ call.2.1.isWatchdog = false) = true then 1 else 0) +
            if decide (call.1 = id ∧ call.2.1.isWatchdog = true) = true then 1 else 0 := by
        by_cases hid : call.1 = id
        · cases call.2.1.isWatchdog <;> by_cases hanswer : call.2.2 = 0 <;> simp [hid, hanswer]
        · simp [hid]
      simp only [List.countP_cons]
      omega

/-- From a successful `fdir_init` on, after any turns of any threads: as long as no
callback has answered RESTART for an entity with two limited budgets, the fault reports
accepted for it are at most one more than its budgets together, not counting one for
every time the application has written its health itself. -/
theorem fault_reports_bounded (clock : ℕ) (pace : List Obs → ℕ) (config : Option Config)
    (lock unlock : Bool) (turns : List Turn) :
    let start : Machine B := .started clock pace config lock unlock
    let s := (Run.run Machine.step start turns).state
    ∀ id < s.lib.entityCount, ¬ s.overridden id →
      (∀ watchdog, (s.lib.entities id).desc.budget watchdog ≠ restartUnlimited) →
      Run.tally Machine.step (Machine.reported id) start turns ≤
        1 + (s.lib.entities id).desc.maxRestarts.toNat +
          (s.lib.entities id).desc.maxWatchdogRestarts.toNat +
            Run.tally Machine.step (fun _ turn ↦ Machine.rewritten id turn) start turns := by
  intro start s id hid hoverridden hbudgets
  have hkept : s.lib.Sound ∧ s.Counted := by
    refine Run.invariant (fun m : Machine B ↦ m.state.lib.Sound ∧ m.state.Counted) ?_
      ⟨started_sound clock pace config lock unlock, .started clock pace config lock unlock⟩ turns
    rintro m turn ⟨hs, hcounted⟩
    exact ⟨(m.stride turn).sound hs, (m.stride turn).counted hs hcounted⟩
  have hpaid : Run.Along Machine.step (fun m turn ↦
      m.reported id turn + (m.step turn).state.lib.allowance id + m.state.revivals id ≤
        m.state.lib.allowance id + (m.step turn).state.revivals id + Machine.rewritten id turn)
      start turns := by
    refine Run.along_of_invariant (fun m : Machine B ↦ m.state.lib.Sound)
      (fun m turn hs _ ↦ (m.stride turn).sound hs)
      (fun m turn hs _ ↦ Machine.reported_paid hs)
      (started_sound clock pace config lock unlock)
      (Run.along_of_forall (fun _ _ h ↦ h) fun _ _ ↦ trivial)
  have htotal := Run.tally_paid (fun m : Machine B ↦ m.state.lib.allowance id)
    (fun m ↦ m.state.revivals id) hpaid
  have hallowance := start.state.lib.allowance_le id
  have hrevivals := s.revivals_le_restartsOf id
  have hplain := (hkept.2.bounded id hid false (hbudgets false)).resolve_left hoverridden
  have hwatchdog := (hkept.2.bounded id hid true (hbudgets true)).resolve_left hoverridden
  have hsum : s.restartsOf id false + s.restartsOf id true ≤
      (s.lib.entities id).desc.maxRestarts.toNat +
        (s.lib.entities id).desc.maxWatchdogRestarts.toNat := add_le_add hplain hwatchdog
  change _ ≤ start.state.lib.allowance id + s.revivals id +
    Run.tally Machine.step (fun _ turn ↦ Machine.rewritten id turn) start turns at htotal
  omega

/-- One restart pays for the second report. -/
theorem fault_reports_bounded_two :
    let desc : EntityDesc := { EntityDesc.zero with
      maxRestarts := 1
      restart := some fun _ _ _ ↦ 0 }
    let fault : Turn := .call 0 (.reportFault 0 .timeout 7 none)
    let turns : List Turn := [.call 0 (.entityRegister (some desc) true), fault,
      .call 1 .supervisorTick, .advance 1, .advance 1, .advance 1, .advance 1, fault]
    Run.tally Machine.step (Machine.reported 0)
      (.started 0 (fun _ ↦ 1) none true true : Machine .default) turns ≤ 1 + 1 + 0 + 0 := by
  intro desc fault turns
  have hbound := fault_reports_bounded (B := .default) 0 (fun _ ↦ 1) none true true turns 0
    (by decide +kernel) (by decide +kernel) (by decide +kernel)
  exact hbound.trans (by decide +kernel)

end Fdir
