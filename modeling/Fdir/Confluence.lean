import Fdir.Effects
import Fdir.Marks

/-!
# Reports of different entities commute

When the application answers by its arguments and the restart counters alone,
and the clock stands still, the outcome of a report is a function of the static
variables.  It consists of a new record of the entity named and of marks and a
mode that can only be raised, so that the outcomes of reports of different
entities may be exchanged.
-/

namespace Fdir

variable {B : Build}

/-! ## Answers without a memory -/

/-- A callback that does not look at what has passed before. -/
def Blind {γ : Type*} (callback : Context → γ) : Prop :=
  ∀ context history, callback { context with history := history } = callback context

/-- The callbacks answer by their arguments and the restart counters of the
entity alone. -/
structure Lib.Regular (l : Lib B) : Prop where
  restart : ∀ id callback, (l.entities id).desc.restart = some callback → Blind callback
  decide : ∀ id callback, (l.entities id).desc.decide = some callback → Blind callback
  exhausted : ∀ sub callback, l.subsystems.handler sub = some callback → Blind callback

/-- The counters a callback about entity `id` sees. -/
def Lib.context (l : Lib B) (id : EntityId) : Context :=
  if id < l.entityCount then
    ⟨(l.entities id).restartCount, (l.entities id).watchdogRestartCount, []⟩
  else ⟨0, 0, []⟩

/-- What the application answers to a report when it has no memory and the clock
shows `now`. -/
def Lib.oracle (l : Lib B) (now : UInt32) (report : FailureReport) : Answers where
  decide :=
    let slot := l.entities report.entity
    match slot.desc.decide with
    | none => .none
    | some decide => decide (l.context report.entity) report.entity report slot.restartCount
        slot.watchdogRestartCount slot.desc.user
  exhausted :=
    let slot := l.entities report.entity
    match l.subsystems.policy slot.desc.linkedSubsystem with
    | none => .none
    | some desc =>
        match desc.onEntityExhausted with
        | none => .none
        | some handler => handler (l.context report.entity) slot.desc.linkedSubsystem report.entity
            (some report) desc.user
  restart :=
    let slot := l.entities report.entity
    match slot.desc.restart with
    | none => 0
    | some restart =>
        restart ((l.setSlot report.entity (bumpRestart slot report.reason)).context report.entity)
          report.entity slot.desc.user
  now := now

/-- The outcome of a report when the application has no memory. -/
def Lib.absorb (now : UInt32) (l : Lib B) (report : FailureReport) : Lib B :=
  l.handle (l.oracle now report) report

/-! ## The outcome of a report, taken apart -/

/-- What a report comes to: nothing, the degraded mode for an unknown entity, or a
new record and an action. -/
inductive Response where
  | ignored
  | unknown
  | recovered (record : Record) (sub : SubsystemId) (action : Action)

def Lib.respond (now : UInt32) (l : Lib B) (report : FailureReport) : Response :=
  if l.health.faultIsLatchedUnsafe report.entity report.reason then .ignored
  else if l.entityCount ≤ report.entity ∨ (l.entities report.entity).used = false then .unknown
  else
    let verdict := l.verdict (l.oracle now report) report
    .recovered verdict.1 (l.entities report.entity).desc.linkedSubsystem verdict.2

/-- The static variables after a response that concerns entity `id`. -/
def Response.apply (l : Lib B) (id : EntityId) : Response → Lib B
  | .ignored => l
  | .unknown => l.raise .degraded
  | .recovered record sub action => ((l.setRecord id record).strike sub action).review

theorem Lib.absorb_eq (now : UInt32) (l : Lib B) (report : FailureReport) :
    l.absorb now report = (l.respond now report).apply l report.entity := by
  simp only [Lib.absorb, Lib.handle, Lib.respond]
  split_ifs <;> rfl

/-! ## What a response depends on -/

/-- The static variables agree on all that decides the response to a report of
entity `id`. -/
structure Lib.AgreeOn (id : EntityId) (l l' : Lib B) : Prop where
  record : l'.record id = l.record id
  count : l'.entityCount = l.entityCount
  limit : l'.health.entityLimit = l.health.entityLimit
  policy : l'.subsystems.policy = l.subsystems.policy

namespace Lib.AgreeOn

variable {l l' : Lib B} {now : UInt32} {report : FailureReport}

theorem slot {id : EntityId} (h : l.AgreeOn id l') : l'.entities id = l.entities id :=
  congrArg Record.slot h.record

theorem latched (h : l.AgreeOn report.entity l') :
    l'.health.faultIsLatchedUnsafe report.entity report.reason =
      l.health.faultIsLatchedUnsafe report.entity report.reason := by
  have hreason : l'.health.latchedReason report.entity = l.health.latchedReason report.entity :=
    congrArg Record.latchedReason h.record
  have hlatched : l'.health.faultLatched report.entity = l.health.faultLatched report.entity :=
    congrArg Record.faultLatched h.record
  simp only [HealthTable.faultIsLatchedUnsafe, h.limit, hreason, hlatched]

theorem oracle_eq (h : l.AgreeOn report.entity l') :
    l'.oracle now report = l.oracle now report := by
  simp only [Lib.oracle, Lib.context, Lib.setSlot, Function.update_self, h.slot, h.policy, h.count]

theorem verdict_eq (h : l.AgreeOn report.entity l') (ans : Answers) :
    l'.verdict ans report = l.verdict ans report := by
  simp only [Lib.verdict, Lib.action, Lib.resolve, SubsystemTable.handler_eq, h.record, h.slot,
    h.policy]

theorem respond_eq (h : l.AgreeOn report.entity l') (now : UInt32) :
    l'.respond now report = l.respond now report := by
  simp only [Lib.respond, h.latched, h.count, h.slot, h.oracle_eq, h.verdict_eq]

end Lib.AgreeOn

theorem Response.agreeOn (l : Lib B) {id other : EntityId} (hne : other ≠ id)
    (response : Response) : l.AgreeOn other (response.apply l id) := by
  cases response with
  | ignored => exact ⟨rfl, rfl, rfl, rfl⟩
  | unknown => exact ⟨rfl, rfl, rfl, rfl⟩
  | recovered record sub action =>
      refine ⟨Lib.record_setRecord_of_ne l hne record, rfl, rfl, ?_⟩
      simp only [Response.apply, Lib.review, Lib.strike, Lib.setRecord]
      split
      · rfl
      · exact action.policy_mark _ _

/-! ## Raising commutes -/

/-- The mode the dual-path rule asks for. -/
def Lib.dualFloor (l : Lib B) : Mode :=
  if l.config.safeModeCriticalFailureThreshold ≤ l.subsystems.criticalUnavailableCount then .safe
  else .nominal

theorem Lib.review_eq (l : Lib B) : l.review = l.raise l.dualFloor := by
  simp only [Lib.review, Lib.raise, Lib.dualFloor]
  split
  · rfl
  · rw [max_eq_left (Mode.nominal_le l.mode)]

theorem Lib.raise_comm (l : Lib B) (mode mode' : Mode) :
    (l.raise mode).raise mode' = (l.raise mode').raise mode := by
  simp only [Lib.raise, max_right_comm]

theorem Lib.raise_raise_of_le (l : Lib B) {mode mode' : Mode} (hle : mode ≤ mode') :
    (l.raise mode).raise mode' = l.raise mode' := by
  simp only [Lib.raise, max_assoc, max_eq_right hle]

theorem Lib.strike_raise (l : Lib B) (sub : SubsystemId) (action : Action) (mode : Mode) :
    (l.raise mode).strike sub action = (l.strike sub action).raise mode := by
  simp only [Lib.raise, Lib.strike, max_right_comm]

theorem Lib.dualFloor_le_strike (l : Lib B) (sub : SubsystemId) (action : Action) :
    l.dualFloor ≤ (l.strike sub action).dualFloor := by
  have hcount : l.subsystems.criticalUnavailableCount ≤
      (l.strike sub action).subsystems.criticalUnavailableCount := by
    simp only [Lib.strike]
    split
    · exact UInt8.le_refl _
    · exact action.le_count_mark _ _
  unfold Lib.dualFloor
  split
  · next hreached =>
    have hreached' : (l.strike sub action).config.safeModeCriticalFailureThreshold ≤
        (l.strike sub action).subsystems.criticalUnavailableCount :=
      UInt8.le_trans hreached hcount
    rw [if_pos hreached']
  · exact Mode.nominal_le _

theorem Lib.strike_comm (l : Lib B) (sub sub' : SubsystemId) (action action' : Action) :
    (l.strike sub action).strike sub' action' = (l.strike sub' action').strike sub action := by
  simp only [Lib.strike, max_right_comm]
  congr 1
  split_ifs
  · rfl
  · rfl
  · rfl
  · exact action.mark_comm action' _ _ _

/-- A dual-path check in between makes no difference. -/
theorem Lib.review_strike_review (l : Lib B) (sub sub' : SubsystemId) (action action' : Action) :
    ((l.strike sub action).review.strike sub' action').review =
      ((l.strike sub action).strike sub' action').review := by
  simp only [Lib.review_eq, Lib.strike_raise]
  change (((l.strike sub action).strike sub' action').raise _).raise
    ((l.strike sub action).strike sub' action').dualFloor = _
  exact Lib.raise_raise_of_le _ (Lib.dualFloor_le_strike _ _ _)

theorem Response.apply_comm (l : Lib B) {id other : EntityId} (hne : id ≠ other)
    (response response' : Response) :
    response'.apply (response.apply l id) other = response.apply (response'.apply l other) id := by
  cases response with
  | ignored => rfl
  | unknown =>
      cases response' with
      | ignored => rfl
      | unknown => rfl
      | recovered record sub action =>
          simp only [Response.apply, Lib.review_eq]
          change (((l.setRecord other record).raise _).strike sub action).raise
            ((l.setRecord other record).strike sub action).dualFloor = _
          rw [Lib.strike_raise, Lib.raise_comm]
  | recovered record sub action =>
      cases response' with
      | ignored => rfl
      | unknown =>
          simp only [Response.apply, Lib.review_eq]
          change _ = (((l.setRecord id record).raise _).strike sub action).raise
            ((l.setRecord id record).strike sub action).dualFloor
          rw [Lib.strike_raise, Lib.raise_comm]
      | recovered record' sub' action' =>
          simp only [Response.apply]
          change ((((l.setRecord id record).setRecord other record').strike sub
              action).review.strike sub' action').review =
            ((((l.setRecord other record').setRecord id record).strike sub' action').review.strike
              sub action).review
          rw [Lib.review_strike_review, Lib.review_strike_review, Lib.setRecord_comm l hne,
            Lib.strike_comm]

/-- Reports of different entities commute. -/
theorem Lib.absorb_comm (now : UInt32) (l : Lib B) {report report' : FailureReport}
    (hne : report.entity ≠ report'.entity) :
    (l.absorb now report).absorb now report' = (l.absorb now report').absorb now report := by
  have hfirst : ((l.respond now report).apply l report.entity).respond now report' =
      l.respond now report' := ((l.respond now report).agreeOn l hne.symm).respond_eq now
  have hsecond : ((l.respond now report').apply l report'.entity).respond now report =
      l.respond now report := ((l.respond now report').agreeOn l hne).respond_eq now
  rw [Lib.absorb_eq now (l.absorb now report), Lib.absorb_eq now (l.absorb now report'),
    Lib.absorb_eq now l report, Lib.absorb_eq now l report', hfirst, hsecond]
  exact Response.apply_comm l hne _ _

end Fdir
