import Fdir.Moves

/-!
# Restart budgets

The two saturating counters of an entity count the restart calls made for it so
far, by class of report.  The default policy compares them with the budgets of
the entity, so that the calls of a class stay within its budget unless a callback
has answered RESTART itself.
-/

namespace Fdir

open Foundation

variable {B : Build}

/-! ## Counters and budgets by class of report -/

def Reason.isWatchdog (reason : Reason) : Bool := decide (reason = .watchdog)

def EntitySlot.counter (slot : EntitySlot) (watchdog : Bool) : UInt8 :=
  if watchdog then slot.watchdogRestartCount else slot.restartCount

def EntityDesc.budget (desc : EntityDesc) (watchdog : Bool) : UInt8 :=
  if watchdog then desc.maxWatchdogRestarts else desc.maxRestarts

/-- The number of restart calls made for entity `id` under reports of a class. -/
def State.restartsOf (s : State B) (id : EntityId) (watchdog : Bool) : ℕ :=
  s.restarts.countP fun call ↦ decide (call.1 = id ∧ call.2.1.isWatchdog = watchdog)

theorem counter_bumpRestart (slot : EntitySlot) (reason : Reason) (watchdog : Bool) :
    (bumpRestart slot reason).counter watchdog =
      if reason.isWatchdog = watchdog ∧ slot.counter watchdog < 255 then
        slot.counter watchdog + 1
      else slot.counter watchdog := by
  unfold bumpRestart
  by_cases hreason : reason = .watchdog
  · have hclass : reason.isWatchdog = true := by simp [Reason.isWatchdog, hreason]
    rw [if_pos hreason, hclass]
    cases watchdog <;> split <;> simp_all [EntitySlot.counter]
  · have hclass : reason.isWatchdog = false := by simp [Reason.isWatchdog, hreason]
    rw [if_neg hreason, hclass]
    cases watchdog <;> split <;> simp_all [EntitySlot.counter]

theorem toNat_counter_bumpRestart (slot : EntitySlot) (reason : Reason) :
    ((bumpRestart slot reason).counter reason.isWatchdog).toNat =
      min 255 ((slot.counter reason.isWatchdog).toNat + 1) := by
  have hbound := (slot.counter reason.isWatchdog).toNat_lt
  rw [counter_bumpRestart]
  by_cases hlt : slot.counter reason.isWatchdog < 255
  · have hnat : (slot.counter reason.isWatchdog).toNat < 255 := UInt8.lt_iff_toNat_lt.mp hlt
    rw [if_pos ⟨rfl, hlt⟩, UInt8.toNat_add, UInt8.toNat_one]
    omega
  · have hnat : 255 ≤ (slot.counter reason.isWatchdog).toNat :=
      UInt8.le_iff_toNat_le.mp (UInt8.not_lt.mp hlt)
    rw [if_neg fun h ↦ hlt h.2]
    omega

theorem defaultDecide_eq_restart_iff {slot : EntitySlot} (report : FailureReport)
    (hexhausted : slot.desc.onExhausted ≠ .restart) :
    defaultDecide slot report = .restart ↔
      slot.desc.budget report.reason.isWatchdog = restartUnlimited ∨
        slot.counter report.reason.isWatchdog < slot.desc.budget report.reason.isWatchdog := by
  by_cases hreason : report.reason = .watchdog
  · simp only [defaultDecide, EntityDesc.budget, EntitySlot.counter, Reason.isWatchdog, hreason,
      decide_true, if_true]
    split
    next h => simp [h]
    next h => simp [h, hexhausted]
  · simp only [defaultDecide, EntityDesc.budget, EntitySlot.counter, Reason.isWatchdog, hreason,
      decide_false, Bool.false_eq_true, if_false]
    split
    next h => simp [h]
    next h => simp [h, hexhausted]

/-! ## The handling of a report -/

theorem Record.settle_slot (r : Record) (ans : Answers) (action : Action) (reason : Reason) :
    (r.settle ans action reason).1.slot =
      if action = .restart ∧ r.slot.desc.restart.isSome then bumpRestart r.slot reason
      else r.slot := by
  by_cases haction : action = .restart
  · by_cases hrestart : r.slot.desc.restart.isSome
    · by_cases hanswer : ans.restart = 0
      · simp [Record.settle, Record.restore, Record.bump, haction, hrestart, hanswer]
      · simp [Record.settle, Record.bump, haction, hrestart, hanswer]
    · simp [Record.settle, haction, hrestart]
  · simp [Record.settle, haction]

/-- The report for which the handling of `report` calls restart. -/
def Lib.restarts (l : Lib B) (ans : Answers) (report : FailureReport) : Prop :=
  l.raises report ∧ report.entity < l.entityCount ∧ l.attempts ans report

instance (l : Lib B) (ans : Answers) (report : FailureReport) :
    Decidable (l.restarts ans report) := inferInstanceAs (Decidable (_ ∧ _ ∧ _))

/-- A handled report bumps the counter of its entity exactly when it calls
restart. -/
theorem Lib.handle_entities {l : Lib B} (hs : l.Sound) (ans : Answers) (report : FailureReport)
    (id : EntityId) :
    (l.handle ans report).entities id =
      if l.restarts ans report ∧ id = report.entity then
        bumpRestart (l.entities id) report.reason
      else l.entities id := by
  by_cases hself : id = report.entity
  · subst hself
    by_cases hraises : l.raises report
    · by_cases hid : report.entity < l.entityCount
      · have hrecord := Lib.record_handle_self l ans report hraises (hs.known hid)
        have hslot : (l.handle ans report).entities report.entity =
            (l.verdict ans report).1.slot := congrArg Record.slot hrecord
        rw [hslot, Lib.verdict, Record.settle_slot]
        simp only [Lib.restarts, hraises, hid, Lib.attempts, true_and, and_true]
        rfl
      · have hunknown : l.entityCount ≤ report.entity := UInt8.not_lt.mp hid
        have hlatched : ¬ l.health.faultIsLatchedUnsafe report.entity report.reason = true := by
          rw [hraises]
          exact Bool.false_ne_true
        rw [Lib.handle, if_neg hlatched, if_pos (Or.inl hunknown), if_neg fun h ↦ hid h.1.2.1]
        rfl
    · have hlatched : l.health.faultIsLatchedUnsafe report.entity report.reason = true := by
        simpa [Lib.raises] using hraises
      rw [Lib.handle, if_pos hlatched, if_neg fun h ↦ hraises h.1.1]
  · rw [if_neg fun h ↦ hself h.2]
    exact congrArg Record.slot (Lib.record_handle_of_ne l ans report hself)

theorem restartCalls_eq (l : Lib B) (ans : Answers) (report : FailureReport) :
    l.restartCalls ans report =
      if l.restarts ans report then [(report.entity, report.reason, ans.restart)] else [] := rfl

theorem restartsOf_handleFailureLocked {s : State B} (hs : s.lib.Sound)
    (report : FailureReport) (id : EntityId) (watchdog : Bool) :
    (handleFailureLocked s report).restartsOf id watchdog =
      s.restartsOf id watchdog +
        if s.lib.restarts (answers (raisedState s report) report) report ∧
            report.entity = id ∧ report.reason.isWatchdog = watchdog then 1 else 0 := by
  rw [State.restartsOf, (handleFailureLocked_world hs report).2.1, List.countP_append,
    restartCalls_eq]
  by_cases hrestarts : s.lib.restarts (answers (raisedState s report) report) report
  · rw [if_pos hrestarts, List.countP_singleton]
    simp [hrestarts, State.restartsOf]
  · simp [hrestarts, State.restartsOf]

/-! ## The invariant -/

/-- The counters count, nothing is restarted before it is registered, and the
calls of a class exceed its budget only after a callback answered RESTART. -/
structure State.Counted (s : State B) : Prop where
  counter : ∀ id < s.lib.entityCount, ∀ watchdog,
    ((s.lib.entities id).counter watchdog).toNat = min 255 (s.restartsOf id watchdog)
  fresh : ∀ id, s.lib.entityCount ≤ id → ∀ watchdog, s.restartsOf id watchdog = 0
  bounded : ∀ id < s.lib.entityCount, ∀ watchdog,
    (s.lib.entities id).desc.budget watchdog ≠ restartUnlimited → s.overridden id ∨
      s.restartsOf id watchdog ≤ ((s.lib.entities id).desc.budget watchdog).toNat

/-- A budget leaves room exactly when fewer calls than it were made. -/
theorem State.Counted.within_iff {s : State B} (h : s.Counted) {id : EntityId}
    (hid : id < s.lib.entityCount) (watchdog : Bool) :
    ((s.lib.entities id).desc.budget watchdog = restartUnlimited ∨
        (s.lib.entities id).counter watchdog < (s.lib.entities id).desc.budget watchdog) ↔
      ((s.lib.entities id).desc.budget watchdog = restartUnlimited ∨
        s.restartsOf id watchdog < ((s.lib.entities id).desc.budget watchdog).toNat) := by
  have hcounter := h.counter id hid watchdog
  have hbound := ((s.lib.entities id).desc.budget watchdog).toNat_lt
  by_cases hunlimited : (s.lib.entities id).desc.budget watchdog = restartUnlimited
  · simp [hunlimited]
  · have hne : ((s.lib.entities id).desc.budget watchdog).toNat ≠ 255 :=
      fun heq ↦ hunlimited (UInt8.toNat_inj.mp heq)
    simp only [hunlimited, false_or]
    rw [UInt8.lt_iff_toNat_lt, hcounter]
    omega

namespace State.Counted

variable {s s' : State B}

theorem silent (h : s.Counted) (hworld : Evolves Obs.silent s s')
    (hcount : s'.lib.entityCount = s.lib.entityCount)
    (hentities : s'.lib.entities = s.lib.entities) : s'.Counted := by
  have hrestarts : ∀ id watchdog, s'.restartsOf id watchdog = s.restartsOf id watchdog := by
    intro id watchdog
    rw [State.restartsOf, hworld.restarts_eq, State.restartsOf]
  constructor
  · intro id hid watchdog
    rw [hcount] at hid
    rw [hentities, hrestarts]
    exact h.counter id hid watchdog
  · intro id hid watchdog
    rw [hcount] at hid
    rw [hrestarts]
    exact h.fresh id hid watchdog
  · intro id hid watchdog hbudget
    rw [hcount] at hid
    rw [hentities] at hbudget ⊢
    rw [hrestarts]
    exact (h.bounded id hid watchdog hbudget).imp_left hworld.overridden

theorem enroll (h : s.Counted) (hworld : Evolves Obs.silent s s')
    {desc : EntityDesc} {now : UInt32} (hlib : s'.lib = s.lib.enroll desc now)
    (hroom : s.lib.entityCount.toNat < B.entityCap) : s'.Counted := by
  have hrestarts : ∀ id watchdog, s'.restartsOf id watchdog = s.restartsOf id watchdog := by
    intro id watchdog
    rw [State.restartsOf, hworld.restarts_eq, State.restartsOf]
  have hlt : ∀ id : EntityId, id < s'.lib.entityCount ↔
      id = s.lib.entityCount ∨ id < s.lib.entityCount := by
    intro id
    rw [hlib]
    exact Lib.lt_enroll_entityCount hroom id
  have hnew : s'.lib.entities s.lib.entityCount = registeredSlot B desc := by
    rw [hlib]
    simp [Lib.enroll]
  have hold : ∀ id < s.lib.entityCount, s'.lib.entities id = s.lib.entities id := by
    intro id hid
    rw [hlib]
    exact Function.update_of_ne (fun heq ↦ UInt8.lt_irrefl _ (heq ▸ hid)) _ _
  constructor
  · intro id hid watchdog
    rw [hrestarts]
    rcases (hlt id).mp hid with rfl | hlt
    · rw [hnew, h.fresh _ (UInt8.le_refl _)]
      cases watchdog <;> rfl
    · rw [hold id hlt]
      exact h.counter id hlt watchdog
  · intro id hid watchdog
    rw [hrestarts]
    refine h.fresh id (UInt8.not_lt.mp fun hlow ↦ ?_) watchdog
    exact UInt8.not_le.mpr ((hlt id).mpr (Or.inr hlow)) hid
  · intro id hid watchdog hbudget
    rw [hrestarts]
    rcases (hlt id).mp hid with rfl | hlt
    · rw [h.fresh _ (UInt8.le_refl _)]
      exact Or.inr (Nat.zero_le _)
    · rw [hold id hlt] at hbudget ⊢
      exact (h.bounded id hlt watchdog hbudget).imp_left hworld.overridden

theorem handled (h : s.Counted) (hs : s.lib.Sound) (report : FailureReport) :
    (handleFailureLocked s report).Counted := by
  have hlib := handleFailureLocked_lib hs.limit_eq report
  have hworld := (handleFailureLocked_world hs report).1
  have hcount : (handleFailureLocked s report).lib.entityCount = s.lib.entityCount := by
    rw [hlib, Lib.handle_entityCount]
  have hslot := Lib.handle_entities hs (answers (raisedState s report) report) report
  rw [← hlib] at hslot
  have hcalls := restartsOf_handleFailureLocked hs report
  have hdesc : ∀ id, ((handleFailureLocked s report).lib.entities id).desc =
      (s.lib.entities id).desc := by
    intro id
    rw [hslot]
    split
    · exact bumpRestart_desc _ _
    · rfl
  constructor
  · intro id hid watchdog
    rw [hcount] at hid
    have hcounter := h.counter id hid watchdog
    rw [hslot, hcalls]
    by_cases hbump : s.lib.restarts (answers (raisedState s report) report) report ∧
        id = report.entity
    · obtain ⟨hrestarts, rfl⟩ := hbump
      by_cases hclass : report.reason.isWatchdog = watchdog
      · subst hclass
        simp only [hrestarts, and_self, if_true]
        rw [toNat_counter_bumpRestart, hcounter]
        omega
      · simp only [hrestarts, true_and, if_true, hclass, if_false, counter_bumpRestart,
          false_and, hcounter, Nat.add_zero]
    · rw [if_neg hbump, if_neg fun hcond ↦ hbump ⟨hcond.1, hcond.2.1.symm⟩]
      exact hcounter
  · intro id hid watchdog
    rw [hcount] at hid
    rw [hcalls, h.fresh id hid, if_neg]
    rintro ⟨hrestarts, rfl, -⟩
    exact UInt8.not_le.mpr hrestarts.2.1 hid
  · intro id hid watchdog hbudget
    rw [hcount] at hid
    rw [hdesc] at hbudget ⊢
    rw [hcalls]
    by_cases hcall : s.lib.restarts (answers (raisedState s report) report) report ∧
        report.entity = id ∧ report.reason.isWatchdog = watchdog
    · obtain ⟨hrestarts, rfl, rfl⟩ := hcall
      rcases overridden_handleFailureLocked hs hrestarts.1 hid hrestarts.2.2 with
        hdefault | hoverridden
      · rw [defaultDecide_eq_restart_iff report (hs.exhausted_ne _), h.within_iff hid]
          at hdefault
        have hroom := hdefault.resolve_left hbudget
        rw [if_pos ⟨hrestarts, rfl, rfl⟩]
        exact Or.inr hroom
      · exact Or.inl hoverridden
    · rw [if_neg hcall, Nat.add_zero]
      exact (h.bounded id hid watchdog hbudget).imp_left hworld.overridden

theorem move (h : s.Counted) (hs : s.lib.Sound) (hmove : Move s s') : s'.Counted := by
  cases hmove with
  | idle hworld hlib =>
      obtain ⟨queue, hqueue⟩ := hlib
      exact h.silent hworld (by rw [hqueue]) (by rw [hqueue])
  | handled report => exact h.handled hs report

theorem call {c : Call} (h : s.Counted) (hc : ¬ c.handles)
    (heffect : Effect c s.lib (after s c).lib) (hworld : Evolves Obs.silent s (after s c)) :
    (after s c).Counted := by
  generalize hlib : (after s c).lib = l at heffect
  cases heffect with
  | enroll desc now _ hroom => exact h.enroll hworld hlib hroom
  | handle ans report hcall =>
      subst hcall
      exact absurd trivial hc
  | watch ans id now maxAge hcall =>
      rcases hcall with rfl | rfl
      · exact absurd trivial hc
      · exact absurd trivial hc
  | dequeue ans report hcall =>
      subst hcall
      exact absurd trivial hc
  | _ =>
      exact h.silent hworld ((congrArg Lib.entityCount hlib).trans rfl)
        ((congrArg Lib.entities hlib).trans rfl)

theorem started (clock : ℕ) (pace : List Obs → ℕ) (config : Option Config)
    (lock unlock : Bool) : (Fdir.started clock pace config lock unlock : State B).Counted where
  counter := fun _ hid ↦ absurd hid UInt8.not_lt_zero
  fresh := fun _ _ _ ↦ rfl
  bounded := fun _ hid ↦ absurd hid UInt8.not_lt_zero

end State.Counted

/-- Between any two critical sections of a run the counts hold. -/
theorem run_counted {clock : ℕ} {pace : List Obs → ℕ} {config : Option Config}
    {lock unlock : Bool} {calls : List Call} {s : State B}
    (hs : Moves (Run.run after (started clock pace config lock unlock) calls) s) :
    s.lib.Sound ∧ s.Counted := by
  obtain ⟨hsound, hcounted⟩ := run_keeps State.Counted (fun _ _ hs h hmove ↦ h.move hs hmove)
    (fun _ _ _ h hc heffect hworld ↦ h.call hc heffect hworld)
    (started_sound clock pace config lock unlock) (.started clock pace config lock unlock) calls
  exact hs.invariant State.Counted (fun _ _ hs h hmove ↦ h.move hs hmove) hsound hcounted

theorem restarts_handleFailure {s : State B} (hs : s.lib.Sound) (report : FailureReport) :
    ∃ calls, (handleFailure s (some report)).restarts = s.restarts ++ calls ∧
      calls.length ≤ 1 := by
  have henabled := silent_supervisionEnabled s
  have hs' : (supervisionEnabled s).2.lib.Sound := by rwa [supervisionEnabled_lib]
  simp only [handleFailure]
  split
  · exact ⟨[], by rw [henabled.restarts_eq, List.append_nil], Nat.zero_le _⟩
  · refine ⟨_, by rw [(handleFailureLocked_world hs' report).2.1, henabled.restarts_eq], ?_⟩
    rw [restartCalls_eq]
    split
    · exact Nat.le_refl 1
    · exact Nat.zero_le 1

/-- In every state of every run, also between the critical sections of a call, the
counters of a registered entity are the numbers of restart calls made for it,
saturated at 255; a handled report makes at most one; the default policy chooses
RESTART exactly while the budget leaves room; and unless a callback answered
RESTART for the entity, the calls of a class never exceed its budget. -/
theorem restart_budgets_exact (clock : ℕ) (pace : List Obs → ℕ) (config : Option Config)
    (lock unlock : Bool) (calls : List Call) (s : State B)
    (hs : Moves (Run.run after (started clock pace config lock unlock) calls) s) :
    (∀ id < s.lib.entityCount,
      (s.lib.entities id).restartCount.toNat = min 255 (s.restartsOf id false) ∧
        (s.lib.entities id).watchdogRestartCount.toNat = min 255 (s.restartsOf id true)) ∧
      (∀ report, ∃ new, (handleFailure s (some report)).restarts = s.restarts ++ new ∧
        new.length ≤ 1) ∧
      (∀ report, report.entity < s.lib.entityCount →
        (defaultDecide (s.lib.entities report.entity) report = .restart ↔
          (s.lib.entities report.entity).desc.budget report.reason.isWatchdog =
              restartUnlimited ∨
            s.restartsOf report.entity report.reason.isWatchdog <
              ((s.lib.entities report.entity).desc.budget report.reason.isWatchdog).toNat)) ∧
      (∀ id < s.lib.entityCount, ¬ s.overridden id → ∀ watchdog,
        (s.lib.entities id).desc.budget watchdog ≠ restartUnlimited →
          s.restartsOf id watchdog ≤ ((s.lib.entities id).desc.budget watchdog).toNat) := by
  obtain ⟨hsound, hcounted⟩ := run_counted hs
  refine ⟨?_, fun report ↦ restarts_handleFailure hsound report, ?_, ?_⟩
  · intro id hid
    exact ⟨hcounted.counter id hid false, hcounted.counter id hid true⟩
  · intro report hid
    rw [defaultDecide_eq_restart_iff report (hsound.exhausted_ne _), hcounted.within_iff hid]
  · intro id hid hoverridden watchdog hbudget
    exact (hcounted.bounded id hid watchdog hbudget).resolve_left hoverridden

/-- The rule on a run with one failed restart under a budget of one, which is then spent. -/
theorem restart_budgets_exact_failing :
    let desc : EntityDesc := { EntityDesc.zero with
      maxRestarts := 1
      restart := some fun _ _ _ ↦ 1 }
    let calls : List Call := [.entityRegister (some desc) true, .reportFault 0 .timeout 7 none,
      .supervisorTick]
    let s : State .default := Run.run after (started 0 (fun _ ↦ 1) none true true) calls
    let report : FailureReport := ⟨0, .ioError, 7, [], 0, 0⟩
    s.restartsOf 0 false = 1 ∧
      (s.lib.entities 0).restartCount.toNat = min 255 (s.restartsOf 0 false) ∧
      (∃ new, (handleFailure s (some report)).restarts = s.restarts ++ new ∧ new.length ≤ 1) ∧
      defaultDecide (s.lib.entities report.entity) report ≠ .restart ∧
      s.restartsOf 0 false ≤ ((s.lib.entities 0).desc.budget false).toNat := by
  intro desc calls s report
  obtain ⟨hcounted, hsingle, hdefault, hbounded⟩ := restart_budgets_exact 0 (fun _ ↦ 1) none true
    true calls s (B := .default) .refl
  refine ⟨by decide, (hcounted (0 : EntityId) (by decide)).1, hsingle report, ?_, ?_⟩
  · exact fun hrestart ↦ absurd ((hdefault report (by decide)).mp hrestart) (by decide)
  · exact hbounded (0 : EntityId) (by decide) (by decide) false (by decide)

end Fdir
