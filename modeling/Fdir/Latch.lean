import Fdir.Foundation.Alternate
import Fdir.Machine
import Fdir.Verdict

/-!
# Raised and cleared anomalies

The latch has one slot per entity, and a fault of a second reason takes the slot
of the first.  As long as no report finds the slot taken by another reason, the
anomalies of every entity and reason alternate and the latch tells the last one.
-/

namespace Fdir

open Foundation

variable {B : Build}

/-! ## The anomalies of one entity and reason -/

/-- The phase of an anomaly of entity `id` and reason `reason`. -/
def phaseOf (id : EntityId) (reason : Reason) : EntityId × Reason × Phase → Option Phase
  | (entity, cause, phase) => if entity = id ∧ cause = reason then some phase else none

/-- The phases of the anomalies emitted for `id` and `reason`, in order. -/
def State.phases (s : State B) (id : EntityId) (reason : Reason) : List Phase :=
  s.anomalies.filterMap (phaseOf id reason)

/-- The anomalies of every registered entity and reason alternate, beginning with
RAISED, and the latch tells whether the last was RAISED. -/
def State.Faithful (s : State B) : Prop :=
  ∀ id < s.lib.entityCount, ∀ reason,
    Alternates .raised .cleared (s.phases id reason) ∧
      (s.lib.health.faultIsLatchedUnsafe id reason = true ↔
        (s.phases id reason).getLast? = some .raised)

/-- Nothing was ever cleared for an id that was not issued. -/
def State.Unissued (s : State B) : Prop :=
  ∀ id, s.lib.entityCount ≤ id → ∀ reason, ∀ phase ∈ s.phases id reason, phase = .raised

theorem State.phases_congr {s s' : State B} (h : s'.anomalies = s.anomalies) (id : EntityId)
    (reason : Reason) : s'.phases id reason = s.phases id reason := by
  rw [State.phases, h, State.phases]

/-! ## What handling a report adds -/

/-- The phases the handling of a report adds for `id` and `reason`. -/
def Lib.phasesOf (l : Lib B) (ans : Answers) (report : FailureReport) (id : EntityId)
    (reason : Reason) : List Phase :=
  (l.phases ans report).filterMap (phaseOf id reason)

theorem Lib.phasesOf_of_ne (l : Lib B) (ans : Answers) {report : FailureReport} {id : EntityId}
    {reason : Reason} (hne : ¬ (report.entity = id ∧ report.reason = reason)) :
    l.phasesOf ans report id reason = [] := by
  simp only [Lib.phasesOf, Lib.phases]
  split_ifs <;> simp [phaseOf, hne]

theorem Lib.phasesOf_of_latched {l : Lib B} (ans : Answers) {report : FailureReport}
    (hraises : ¬ l.raises report) (id : EntityId) (reason : Reason) :
    l.phasesOf ans report id reason = [] := by
  simp [Lib.phasesOf, Lib.phases, hraises]

theorem Lib.phasesOf_self {l : Lib B} {ans : Answers} {report : FailureReport}
    (hraises : l.raises report) :
    l.phasesOf ans report report.entity report.reason =
      if report.entity < l.entityCount ∧ l.restores ans report then [.raised, .cleared]
      else [.raised] := by
  by_cases hcleared : report.entity < l.entityCount ∧ l.restores ans report
  · rw [if_pos hcleared]
    simp [Lib.phasesOf, Lib.phases, hraises, phaseOf, hcleared.1, hcleared.2.1, hcleared.2.2]
  · have hkept : ¬ (report.entity < l.entityCount ∧ l.attempts ans report ∧ ans.restart = 0) :=
      hcleared
    rw [if_neg hcleared]
    simp only [Lib.phasesOf, Lib.phases, if_pos hraises, if_neg hkept]
    simp [phaseOf]

theorem State.phases_handleFailureLocked {s : State B} (hs : s.lib.Sound)
    (report : FailureReport) (id : EntityId) (reason : Reason) :
    (handleFailureLocked s report).phases id reason = s.phases id reason ++
      s.lib.phasesOf (answers (raisedState s report) report) report id reason := by
  rw [State.phases, (handleFailureLocked_world hs report).2.2, List.filterMap_append]
  rfl

theorem Lib.latched_handle {l : Lib B} (hs : l.Sound) {report : FailureReport}
    (hraises : l.raises report) (hid : report.entity < l.entityCount) (ans : Answers)
    (reason : Reason) :
    (l.handle ans report).health.faultIsLatchedUnsafe report.entity reason = true ↔
      ¬ l.restores ans report ∧ report.reason = reason := by
  rw [(Lib.sound_handle hs ans report).faultIsLatched_iff]
  by_cases hrestores : l.restores ans report
  · have hrecord := Lib.record_handle_of_restores hs hraises hid hrestores
    have hlatched : (l.handle ans report).health.faultLatched report.entity = false :=
      congrArg Record.faultLatched hrecord
    simp [hlatched, hrestores]
  · obtain ⟨-, hreason, hlatched⟩ := Lib.record_handle_of_not_restores hs hraises hid hrestores
    simp [hlatched, hreason, hrestores]

theorem Lib.latched_handle_of_ne {l : Lib B} (ans : Answers) {report : FailureReport}
    {id : EntityId} (hne : id ≠ report.entity) (reason : Reason) :
    (l.handle ans report).health.faultIsLatchedUnsafe id reason =
      l.health.faultIsLatchedUnsafe id reason := by
  have hrecord := Lib.record_handle_of_ne l ans report hne
  have hreason : (l.handle ans report).health.latchedReason id = l.health.latchedReason id :=
    congrArg Record.latchedReason hrecord
  have hlatched : (l.handle ans report).health.faultLatched id = l.health.faultLatched id :=
    congrArg Record.faultLatched hrecord
  simp only [HealthTable.faultIsLatchedUnsafe, Lib.handle_entityLimit, hreason, hlatched]

/-- Handling a report is faithful exactly if it does not find the latch of its entity
taken by another reason. -/
theorem faithful_handleFailureLocked_iff {s : State B} (hs : s.lib.Sound) (h : s.Faithful)
    (report : FailureReport) :
    (handleFailureLocked s report).Faithful ↔
      (s.lib.raises report → report.entity < s.lib.entityCount →
        s.lib.health.faultLatched report.entity = false) := by
  let ans := answers (raisedState s report) report
  have hlib : (handleFailureLocked s report).lib = s.lib.handle ans report :=
    handleFailureLocked_lib hs.limit_eq report
  have hphases := State.phases_handleFailureLocked hs report
  constructor
  · intro hfaithful hraises hid
    by_contra hlatched
    rw [Bool.not_eq_false] at hlatched
    have hother : report.reason ≠ s.lib.health.latchedReason report.entity := by
      intro hsame
      have := (hs.faultIsLatched_iff report.entity report.reason).mpr ⟨hlatched, hsame.symm⟩
      rw [hraises] at this
      cases this
    have hbefore := (h report.entity hid (s.lib.health.latchedReason report.entity)).2.mp
      ((hs.faultIsLatched_iff _ _).mpr ⟨hlatched, rfl⟩)
    have hcount : report.entity < (handleFailureLocked s report).lib.entityCount := by
      rwa [hlib, Lib.handle_entityCount]
    have hafter := (hfaithful report.entity hcount (s.lib.health.latchedReason report.entity)).2
    rw [hphases, Lib.phasesOf_of_ne _ _ fun hsame ↦ hother hsame.2, List.append_nil, hlib,
      Lib.latched_handle hs hraises hid] at hafter
    exact hother (hafter.mpr hbefore).2
  · intro hfree id hid reason
    rw [hlib, Lib.handle_entityCount] at hid
    rw [hphases, hlib]
    obtain ⟨halternates, hlast⟩ := h id hid reason
    by_cases hraises : s.lib.raises report
    · by_cases hself : id = report.entity
      · subst hself
        have hfree' : s.lib.health.faultIsLatchedUnsafe report.entity reason = false := by
          rw [← Bool.not_eq_true, hs.faultIsLatched_iff, hfree hraises hid]
          simp
        rw [hfree', Bool.false_eq_true, false_iff] at hlast
        have hdistinct : Phase.raised ≠ .cleared := by decide
        have hraised := halternates.concat_first hdistinct hlast
        rw [Lib.latched_handle hs hraises hid]
        by_cases hreason : report.reason = reason
        · subst hreason
          rw [Lib.phasesOf_self hraises]
          by_cases hrestores : s.lib.restores ans report
          · have hcleared := hraised.concat_second hdistinct (by simp)
            rw [List.append_assoc] at hcleared
            rw [if_pos ⟨hid, hrestores⟩]
            refine ⟨hcleared, ?_⟩
            simp [hrestores]
          · rw [if_neg fun hboth ↦ hrestores hboth.2]
            refine ⟨hraised, ?_⟩
            simp [hrestores]
        · rw [Lib.phasesOf_of_ne _ _ fun hsame ↦ hreason hsame.2, List.append_nil]
          simp [hreason, halternates, hlast]
      · rw [Lib.phasesOf_of_ne _ _ fun hsame ↦ hself hsame.1.symm, List.append_nil,
          Lib.latched_handle_of_ne ans hself]
        exact ⟨halternates, hlast⟩
    · rw [Lib.phasesOf_of_latched _ hraises, List.append_nil]
      have hsame : s.lib.handle ans report = s.lib := by
        have hlatched : s.lib.health.faultIsLatchedUnsafe report.entity report.reason = true := by
          simpa [Lib.raises] using hraises
        rw [Lib.handle, if_pos hlatched]
      rw [hsame]
      exact ⟨halternates, hlast⟩

theorem State.Unissued.handled {s : State B} (hs : s.lib.Sound) (h : s.Unissued)
    (report : FailureReport) : (handleFailureLocked s report).Unissued := by
  intro id hid reason phase hphase
  rw [handleFailureLocked_lib hs.limit_eq, Lib.handle_entityCount] at hid
  rw [State.phases_handleFailureLocked hs, List.mem_append] at hphase
  rcases hphase with hold | hnew
  · exact h id hid reason phase hold
  · by_cases hsame : report.entity = id ∧ report.reason = reason
    · obtain ⟨rfl, rfl⟩ := hsame
      by_cases hraises : s.lib.raises report
      · rw [Lib.phasesOf_self hraises, if_neg fun hboth ↦ UInt8.not_lt.mpr hid hboth.1] at hnew
        exact List.mem_singleton.mp hnew
      · rw [Lib.phasesOf_of_latched _ hraises] at hnew
        cases hnew
    · rw [Lib.phasesOf_of_ne _ _ hsame] at hnew
      cases hnew

/-! ## All other calls -/

/-- The static variables agree on the number of entities and on the latches. -/
structure Lib.SameLatch (l l' : Lib B) : Prop where
  count : l'.entityCount = l.entityCount
  latched : ∀ id reason,
    l'.health.faultIsLatchedUnsafe id reason = l.health.faultIsLatchedUnsafe id reason

theorem Does.sameLatch {pc : Pc} {l l' : Lib B} (hpc : ∀ report ret, pc ≠ .handleLocked report ret)
    (hdoes : Does l pc l') : l.SameLatch l' := by
  cases hdoes with
  | same | put | get => exact ⟨rfl, fun _ _ ↦ rfl⟩
  | handle ans report ret => exact absurd rfl (hpc report ret)
  | beat id now =>
      refine ⟨rfl, fun other reason ↦ ?_⟩
      simp only [HealthTable.heartbeat]
      split <;> rfl

theorem Effect.sameLatch {c : Call} {l l' : Lib B} (hentry : c.entry = none)
    (hregisters : ¬ l.Registers c) (he : Effect c l l') : l.SameLatch l' := by
  cases he with
  | enroll desc now hcall hroom hexhausted =>
      exact absurd ⟨desc, hcall, hroom, hexhausted⟩ hregisters
  | handle ans report hcall =>
      subst hcall
      cases hentry
  | watch ans id now maxAge hcall =>
      rcases hcall with rfl | rfl <;> cases hentry
  | dequeue ans report hcall =>
      subst hcall
      cases hentry
  | accept report detail =>
      refine ⟨rfl, fun id reason ↦ ?_⟩
      simp only [Lib.accept, HealthTable.setUnsafe]
      split <;> rfl
  | heartbeat id now =>
      refine ⟨rfl, fun other reason ↦ ?_⟩
      simp only [HealthTable.heartbeat]
      split <;> rfl
  | healthSet id health errorCode detail =>
      refine ⟨rfl, fun other reason ↦ ?_⟩
      simp only [HealthTable.setUnsafe]
      split <;> rfl
  | healthReset id now =>
      refine ⟨rfl, fun other reason ↦ ?_⟩
      simp only [HealthTable.resetUnsafe]
      split <;> rfl
  | _ => exact ⟨rfl, fun _ _ ↦ rfl⟩

theorem State.Faithful.congr {s s' : State B} (h : s.Faithful)
    (hanomalies : s'.anomalies = s.anomalies) (hlatch : s.lib.SameLatch s'.lib) : s'.Faithful := by
  intro id hid reason
  rw [hlatch.count] at hid
  rw [State.phases_congr hanomalies, hlatch.latched]
  exact h id hid reason

theorem State.Unissued.congr {s s' : State B} (h : s.Unissued)
    (hanomalies : s'.anomalies = s.anomalies)
    (hcount : ∀ id, s'.lib.entityCount ≤ id → s.lib.entityCount ≤ id) : s'.Unissued := by
  intro id hid reason phase hphase
  rw [State.phases_congr hanomalies] at hphase
  exact h id (hcount id hid) reason phase hphase

/-- A registration is faithful exactly if nothing was raised before for the id it
issues. -/
theorem faithful_register_iff {s s' : State B} (hs : s.lib.Sound) (h : s.Faithful)
    (hunissued : s.Unissued) (hanomalies : s'.anomalies = s.anomalies)
    (hroom : s.lib.entityCount.toNat < B.entityCap) {desc : EntityDesc}
    (hexhausted : desc.onExhausted ≠ .restart) {now : UInt32}
    (hlib : s'.lib = s.lib.enroll desc now) :
    s'.Faithful ↔ ∀ reason, s.phases s.lib.entityCount reason = [] := by
  have hsound : s'.lib.Sound := hlib ▸ Lib.sound_enroll hs hroom hexhausted
  have hlatched : ∀ id reason, s'.lib.health.faultIsLatchedUnsafe id reason =
      s.lib.health.faultIsLatchedUnsafe id reason := by
    intro id reason
    rw [Bool.eq_iff_iff, hsound.faultIsLatched_iff, hs.faultIsLatched_iff, hlib]
    rfl
  have hnew : ∀ reason, s.lib.health.faultIsLatchedUnsafe s.lib.entityCount reason = false := by
    intro reason
    rw [← Bool.not_eq_true, hs.faultIsLatched_iff, hs.unlatched _ (UInt8.le_refl _)]
    simp
  have hcount : ∀ id, id < s'.lib.entityCount ↔
      id = s.lib.entityCount ∨ id < s.lib.entityCount := by
    rw [hlib]
    exact Lib.lt_enroll_entityCount hroom
  constructor
  · intro hfaithful reason
    have hlast := (hfaithful _ ((hcount _).mpr (Or.inl rfl)) reason).2
    rw [hlatched, hnew, State.phases_congr hanomalies, Bool.false_eq_true, false_iff] at hlast
    rw [← List.getLast?_eq_none_iff]
    cases hphase : (s.phases s.lib.entityCount reason).getLast? with
    | none => rfl
    | some phase =>
        have hraised := hunissued _ (UInt8.le_refl _) reason phase (List.mem_of_getLast? hphase)
        rw [hphase, hraised] at hlast
        exact absurd rfl hlast
  · intro hempty id hid reason
    rw [hlatched, State.phases_congr hanomalies]
    rcases (hcount id).mp hid with rfl | hold
    · rw [hempty reason, hnew]
      simp [Alternates]
    · exact h id hold reason

/-- A call of one critical section that starts from idle raises no anomaly. -/
theorem anomalies_after {s : State B} (hready : s.lib.portReady = true) {c : Call}
    (hentry : c.entry = none) : (after s c).anomalies = s.anomalies := by
  by_cases hc : c.handles
  · rw [Call.not_handles_of_entry hentry hc]
    rfl
  · exact (silent_after hready hc).anomalies_eq

namespace Machine

/-- The anomalies alternate, and the latch tells the last one, after the turn. -/
def Faithful (m : Machine B) (turn : Turn) : Prop := (m.step turn).state.Faithful

/-- A report that is handled does not find the latch of its entity taken by another
reason, and no id is issued for which an anomaly was raised before. -/
structure Unmixed (m : Machine B) (turn : Turn) : Prop where
  handled : ∀ thread report ret, turn = .advance thread →
    m.pcs thread = .handleLocked report ret → m.state.lib.raises report →
      report.entity < m.state.lib.entityCount →
        m.state.lib.health.faultLatched report.entity = false
  issued : ∀ thread c, turn = .call thread c → m.pcs thread = .idle →
    m.state.lib.Registers c → ∀ reason, m.state.phases m.state.lib.entityCount reason = []

structure Tracked (m : Machine B) : Prop where
  sound : m.state.lib.Sound
  faithful : m.state.Faithful
  unissued : m.state.Unissued

/-- What a turn is to the latches: the handling of a report, a registration, or
nothing. -/
theorem turn_cases {m : Machine B} (hs : m.state.lib.Sound) (turn : Turn) :
    (∃ thread report ret, turn = .advance thread ∧ m.pcs thread = .handleLocked report ret ∧
        (m.step turn).state = handleFailureLocked m.state report) ∨
      (m.step turn).state.anomalies = m.state.anomalies ∧
        ((∃ thread desc now, turn = .call thread (.entityRegister (some desc) true) ∧
            m.pcs thread = .idle ∧ m.state.lib.entityCount.toNat < B.entityCap ∧
            desc.onExhausted ≠ .restart ∧
            (m.step turn).state.lib = m.state.lib.enroll desc now) ∨
          (m.state.lib.SameLatch (m.step turn).state.lib ∧
            (∀ thread report ret, turn = .advance thread →
              m.pcs thread ≠ .handleLocked report ret) ∧
            ∀ thread c, turn = .call thread c → m.pcs thread = .idle →
              ¬ m.state.lib.Registers c)) := by
  have hsame : m.state.lib.SameLatch m.state.lib := ⟨rfl, fun _ _ ↦ rfl⟩
  cases turn with
  | elapse ms =>
      refine Or.inr ⟨rfl, Or.inr ⟨hsame, ?_, ?_⟩⟩
      · rintro _ _ _ ⟨⟩
      · rintro _ _ ⟨⟩
  | advance thread =>
      by_cases hpc : ∃ report ret, m.pcs thread = .handleLocked report ret
      · obtain ⟨report, ret, hpc⟩ := hpc
        exact Or.inl ⟨thread, report, ret, rfl, hpc, step_of_handling hpc⟩
      · have hpc' : ∀ report ret, m.pcs thread ≠ .handleLocked report ret :=
          fun report ret h ↦ hpc ⟨report, ret, h⟩
        refine Or.inr ⟨(Pc.silent hs.ready hpc').anomalies_eq,
          Or.inr ⟨(Pc.does hs.limit_eq _).sameLatch hpc', ?_, ?_⟩⟩
        · rintro _ report ret ⟨⟩
          exact hpc' report ret
        · rintro _ _ ⟨⟩
  | call thread c =>
      have hadvance : ∀ thread' report ret, Turn.call thread c = .advance thread' →
          m.pcs thread' ≠ .handleLocked report ret := by
        rintro _ _ _ ⟨⟩
      right
      by_cases hidle : m.pcs thread = .idle
      · cases hentry : c.entry with
        | some pc =>
            rw [step_of_entry hidle hentry]
            refine ⟨rfl, Or.inr ⟨hsame, hadvance, ?_⟩⟩
            rintro _ _ ⟨⟩ - ⟨desc, rfl, -⟩
            cases hentry
        | none =>
            rw [step_of_single hidle hentry]
            refine ⟨anomalies_after hs.ready hentry, ?_⟩
            by_cases hregisters : m.state.lib.Registers c
            · obtain ⟨desc, rfl, hroom, hexhausted⟩ := hregisters
              obtain ⟨now, hlib⟩ := entityRegister_lib m.state hroom hexhausted
              exact Or.inl ⟨thread, desc, now, rfl, hidle, hroom, hexhausted, hlib⟩
            · right
              refine ⟨?_, hadvance, ?_⟩
              · refine (after_effect hs.limit_eq ?_ ?_).sameLatch hentry hregisters
                · rintro rfl
                  cases hentry
                · rintro rfl
                  cases hentry
              · rintro _ _ ⟨⟩ -
                exact hregisters
      · rw [step_of_busy hidle]
        refine ⟨rfl, Or.inr ⟨hsame, hadvance, ?_⟩⟩
        rintro _ _ ⟨⟩ hidle'
        exact absurd hidle' hidle

theorem Tracked.step {m : Machine B} (h : m.Tracked) {turn : Turn} (hfaithful : m.Faithful turn) :
    (m.step turn).Tracked := by
  refine ⟨(m.stride turn).sound h.sound, hfaithful, ?_⟩
  rcases turn_cases h.sound turn with ⟨thread, report, ret, -, -, hstate⟩ | ⟨hanomalies, hcase⟩
  · rw [hstate]
    exact h.unissued.handled h.sound report
  · rcases hcase with ⟨thread, desc, now, -, -, hroom, -, hlib⟩ | ⟨hlatch, -, -⟩
    · refine h.unissued.congr hanomalies fun id hid ↦ UInt8.not_lt.mp fun hlt ↦ ?_
      rw [hlib] at hid
      exact UInt8.not_le.mpr ((Lib.lt_enroll_entityCount hroom id).mpr (Or.inr hlt)) hid
    · exact h.unissued.congr hanomalies fun id hid ↦ hlatch.count ▸ hid

theorem Tracked.faithful_iff {m : Machine B} (h : m.Tracked) (turn : Turn) :
    m.Faithful turn ↔ m.Unmixed turn := by
  rcases turn_cases h.sound turn with ⟨thread, report, ret, hturn, hpc, hstate⟩ |
    ⟨hanomalies, hcase⟩
  · rw [Faithful, hstate, faithful_handleFailureLocked_iff h.sound h.faithful]
    constructor
    · intro hfree
      refine ⟨?_, fun _ _ hcall ↦ ?_⟩
      · intro thread' report' ret' hturn' hpc'
        rw [hturn] at hturn'
        cases hturn'
        rw [hpc] at hpc'
        cases hpc'
        exact hfree
      · rw [hturn] at hcall
        cases hcall
    · exact fun hunmixed ↦ hunmixed.handled thread report ret hturn hpc
  · rcases hcase with ⟨thread, desc, now, hturn, hidle, hroom, hexhausted, hlib⟩ |
      ⟨hlatch, hhandles, hregisters⟩
    · rw [Faithful, faithful_register_iff h.sound h.faithful h.unissued hanomalies hroom
        hexhausted hlib]
      constructor
      · intro hempty
        refine ⟨fun _ _ _ hadvance ↦ ?_, fun _ _ _ _ _ ↦ hempty⟩
        rw [hturn] at hadvance
        cases hadvance
      · exact fun hunmixed ↦
          hunmixed.issued thread _ hturn hidle ⟨desc, rfl, hroom, hexhausted⟩
    · constructor
      · intro
        refine ⟨fun thread report ret hadvance hpc ↦ ?_, fun thread c hcall hidle hc ↦ ?_⟩
        · exact absurd hpc (hhandles thread report ret hadvance)
        · exact absurd hc (hregisters thread c hcall hidle)
      · exact fun _ ↦ h.faithful.congr hanomalies hlatch

theorem tracked_started (clock : ℕ) (pace : List Obs → ℕ) (config : Option Config)
    (lock unlock : Bool) : (started clock pace config lock unlock : Machine B).Tracked where
  sound := Fdir.started_sound clock pace config lock unlock
  faithful := fun _ hid ↦ absurd hid UInt8.not_lt_zero
  unissued := by
    intro id _ reason phase hphase
    cases hphase

/-- For any callers of the library: after every turn the anomalies of each registered
entity and reason alternate and the latch tells the last one, exactly as long as no
handled report finds the latch of its entity taken by another reason and no id is
issued that was reported before. -/
theorem anomalies_alternate_iff (clock : ℕ) (pace : List Obs → ℕ) (config : Option Config)
    (lock unlock : Bool) (turns : List Turn) :
    Run.Along step Faithful (started clock pace config lock unlock : Machine B) turns ↔
      Run.Along step Unmixed (started clock pace config lock unlock : Machine B) turns :=
  Run.along_congr Tracked (fun _ _ h ↦ h.step) (fun _ turn h ↦ h.faithful_iff turn)
    (tracked_started clock pace config lock unlock)

/-- A fault of a second reason takes the latch, and the first fault is raised again
though it was never cleared. -/
theorem raised_twice :
    ¬ Run.Along step Faithful (started 0 (fun _ ↦ 1) none true true : Machine .default)
      [.call 0 (.entityRegister (some .zero) true),
        .call 0 (.handleFailure (some { FailureReport.zero with reason := .timeout })),
        .advance 0, .advance 0,
        .call 0 (.handleFailure (some { FailureReport.zero with reason := .ioError })),
        .advance 0, .advance 0,
        .call 0 (.handleFailure (some { FailureReport.zero with reason := .timeout })),
        .advance 0, .advance 0] := by
  intro h
  have hlast := (Run.along_iff.mp h)
    [.call 0 (.entityRegister (some .zero) true),
      .call 0 (.handleFailure (some { FailureReport.zero with reason := .timeout })),
      .advance 0, .advance 0,
      .call 0 (.handleFailure (some { FailureReport.zero with reason := .ioError })),
      .advance 0, .advance 0,
      .call 0 (.handleFailure (some { FailureReport.zero with reason := .timeout })),
      .advance 0] (.advance 0) [] rfl
  have hphases := (hlast 0 (by decide) .timeout).1
  exact absurd hphases.2.1 (by decide)

end Machine

end Fdir
