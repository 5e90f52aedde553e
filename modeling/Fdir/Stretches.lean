import Fdir.Gates
import Fdir.Hooks

/-!
# Calls that reach no hook

Such a call is a list of stretches under the lock, each with at most one write of
static variables, which do not depend on whether the port is ready; nor does its
reply.
-/

namespace Fdir

variable {B : Build}

/-! ## Stretches under the lock -/

/-- The port as a failing `fdir_init` leaves it. -/
def Lib.unbind (l : Lib B) : Lib B := { l with portReady := false }

def State.unbind (s : State B) : State B := { s with lib := s.lib.unbind }

@[simp] theorem unbind_lib (s : State B) : s.unbind.lib = s.lib.unbind := rfl

section Unbind

variable (l : Lib B)

@[simp] theorem unbind_entities : l.unbind.entities = l.entities := rfl

@[simp] theorem unbind_entityCount : l.unbind.entityCount = l.entityCount := rfl

@[simp] theorem unbind_mode : l.unbind.mode = l.mode := rfl

@[simp] theorem unbind_supervisionEnabled :
    l.unbind.supervisionEnabled = l.supervisionEnabled := rfl

@[simp] theorem unbind_health : l.unbind.health = l.health := rfl

@[simp] theorem unbind_subsystems : l.unbind.subsystems = l.subsystems := rfl

@[simp] theorem unbind_queue : l.unbind.queue = l.queue := rfl

@[simp] theorem unbind_config : l.unbind.config = l.config := rfl

@[simp] theorem unbind_portReady : l.unbind.portReady = false := rfl

end Unbind

/-- A write that does not depend on the ready flag and leaves the port alone. -/
structure Write (B : Build) where
  apply : Lib B → Lib B
  unbind : ∀ l, apply l.unbind = (apply l).unbind
  port : ∀ l, (apply l).port = l.port
  ready : ∀ l, (apply l).portReady = l.portReady

/-- One stretch under the lock, with at most one write. -/
def State.locked (s : State B) : Option (Write B) → State B
  | none => syncExit (syncEnter s)
  | some write => syncExit ((syncEnter s).write write.apply)

def State.stretches (s : State B) (writes : List (Option (Write B))) : State B :=
  writes.foldl State.locked s

/-- What one stretch under the lock adds to the record. -/
def Lib.lockTrace (l : Lib B) : List Obs :=
  (if l.portReady && l.port.lock then [.lock] else []) ++
    (if l.portReady && l.port.unlock then [.unlock] else [])

theorem syncEnter_trace (s : State B) : (syncEnter s).world.trace =
    s.world.trace ++ if s.lib.portReady && s.lib.port.lock then [.lock] else [] := by
  unfold syncEnter
  split <;> simp

theorem syncExit_trace (s : State B) : (syncExit s).world.trace =
    s.world.trace ++ if s.lib.portReady && s.lib.port.unlock then [.unlock] else [] := by
  unfold syncExit
  split <;> simp

section Stretches

variable (s : State B) (write : Option (Write B)) (writes : List (Option (Write B)))

theorem locked_aborted : (s.locked write).world.aborted = s.world.aborted := by
  cases write with
  | none => simp [State.locked]
  | some write =>
      rw [State.locked, syncExit_aborted]
      exact syncEnter_aborted s

theorem stretches_aborted : (s.stretches writes).world.aborted = s.world.aborted := by
  induction writes generalizing s with
  | nil => rfl
  | cons write writes ih => exact (ih _).trans (locked_aborted s write)

theorem locked_lockTrace : (s.locked write).lib.lockTrace = s.lib.lockTrace := by
  cases write with
  | none => simp [State.locked]
  | some write => simp [State.locked, Lib.lockTrace, write.port, write.ready]

theorem locked_trace : (s.locked write).world.trace = s.world.trace ++ s.lib.lockTrace := by
  cases write with
  | none => simp [State.locked, syncExit_trace, syncEnter_trace, Lib.lockTrace]
  | some write =>
      simp [State.locked, syncExit_trace, syncEnter_trace, Lib.lockTrace, write.port, write.ready]

theorem stretches_trace : (s.stretches writes).world.trace =
    s.world.trace ++ (List.replicate writes.length s.lib.lockTrace).flatten := by
  induction writes generalizing s with
  | nil => simp [State.stretches]
  | cons write writes ih =>
      have hrest := ih (s.locked write)
      rw [locked_trace, locked_lockTrace] at hrest
      rw [List.length_cons, List.replicate_succ, List.flatten_cons, ← List.append_assoc]
      exact hrest

end Stretches

section Free

variable {s : State B} (hfree : s.lib.lockTrace = [])
include hfree

theorem syncEnter_of_free : syncEnter s = s := by
  have hnone : (s.lib.portReady && s.lib.port.lock) = false := by
    simpa using (List.append_eq_nil_iff.mp hfree).1
  rw [syncEnter, hnone]
  rfl

theorem syncExit_of_free : syncExit s = s := by
  have hnone : (s.lib.portReady && s.lib.port.unlock) = false := by
    simpa using (List.append_eq_nil_iff.mp hfree).2
  rw [syncExit, hnone]
  rfl

/-- Without lock hooks a stretch is its write. -/
theorem locked_unbind (write : Option (Write B)) :
    s.unbind.locked write = (s.locked write).unbind := by
  have hunbound : s.unbind.lib.lockTrace = [] := rfl
  cases write with
  | none =>
      simp only [State.locked, syncEnter_of_free hfree, syncExit_of_free hfree,
        syncEnter_of_free hunbound, syncExit_of_free hunbound]
  | some write =>
      have hwritten : (s.write write.apply).lib.lockTrace = [] := by
        simpa [Lib.lockTrace, write.port, write.ready] using hfree
      have hunwritten : s.unbind.write write.apply = (s.write write.apply).unbind := by
        simp [State.write, State.unbind, write.unbind]
      simp only [State.locked, syncEnter_of_free hfree, syncExit_of_free hwritten,
        syncEnter_of_free hunbound, hunwritten]
      exact syncExit_of_free rfl

theorem stretches_unbind (writes : List (Option (Write B))) :
    s.unbind.stretches writes = (s.stretches writes).unbind := by
  induction writes generalizing s with
  | nil => rfl
  | cons write writes ih =>
      have hrest := ih (s := s.locked write) (by rwa [locked_lockTrace])
      rw [← locked_unbind hfree write] at hrest
      exact hrest

end Free

/-! ## The stretches of a call -/

def Write.enrollSubsystem (desc : SubsystemDesc) : Write B where
  apply := fun l ↦ l.enrollSubsystem desc
  unbind := fun _ ↦ rfl
  port := fun _ ↦ rfl
  ready := fun _ ↦ rfl

def Write.put (report : FailureReport) : Write B where
  apply := fun l ↦ { l with queue := (l.queue.putUnsafe report).2 }
  unbind := fun _ ↦ rfl
  port := fun _ ↦ rfl
  ready := fun _ ↦ rfl

def Write.healthSet (id : EntityId) (health : Health) (errorCode : UInt16)
    (detail : Option CStr) : Write B where
  apply := fun l ↦ { l with
    health := l.health.setUnsafe id health errorCode (copyDetail B.detailSize detail) }
  unbind := fun _ ↦ rfl
  port := fun _ ↦ rfl
  ready := fun _ ↦ rfl

/-- The stretches of a call that reaches no hook. -/
def Call.stretches (l : Lib B) : Call → List (Option (Write B))
  | .query q => if q.locks l then [none] else []
  | .subsystemRegister (some desc) true =>
      if B.subsystemCap ≤ l.subsystems.subCount.toNat then [none]
      else [some (.enrollSubsystem desc)]
  | .handleFailure none | .submitFailure none | .subsystemOnEntityExhausted _ _ _ => []
  | .handleFailure (some _) => if l.supervisionEnabled = 0 then [none] else [none, none]
  | .submitFailure (some report) =>
      if l.supervisionEnabled = 0 then [none] else [none, some (.put report)]
  | .healthSet id health errorCode detail =>
      if l.health.entityLimit ≤ id then [none] else [some (.healthSet id health errorCode detail)]
  | .workerMayRun _ => [none, none]
  | _ => [none]

theorem locks_iff (l : Lib B) (c : Call) : c.locks l = true ↔ c.stretches l ≠ [] := by
  cases c with
  | query q => simp [Call.locks, Call.stretches]
  | subsystemRegister desc outId =>
      apply iff_of_true rfl
      cases desc with
      | none => exact List.cons_ne_nil _ _
      | some desc =>
          cases outId with
          | false => exact List.cons_ne_nil _ _
          | true =>
              simp only [Call.stretches]
              split <;> exact List.cons_ne_nil _ _
  | handleFailure report | submitFailure report =>
      cases report with
      | none => simp [Call.locks, Call.stretches]
      | some report =>
          apply iff_of_true rfl
          simp only [Call.stretches]
          split <;> exact List.cons_ne_nil _ _
  | healthSet =>
      apply iff_of_true rfl
      simp only [Call.stretches]
      split <;> exact List.cons_ne_nil _ _
  | _ => simp [Call.locks, Call.stretches]

theorem stretches_unbind_lib (l : Lib B) (c : Call) : c.stretches l.unbind = c.stretches l := by
  cases c with
  | query q => cases q <;> rfl
  | subsystemRegister desc outId =>
      cases desc with
      | none => rfl
      | some desc => cases outId <;> rfl
  | handleFailure report | submitFailure report => cases report <;> rfl
  | _ => rfl

section Calls

variable {s : State B}

theorem query_stretches (q : Query) :
    (q.exec s).2 = s.stretches (Call.stretches s.lib (.query q)) := by
  cases q with
  | entityMayRun id => exact entityMayRun_snd s id
  | healthSnapshotCopy id out =>
      cases out with
      | false => rfl
      | true =>
          by_cases hid : s.lib.health.entityLimit ≤ id
          · simp [Query.exec, snapshotCopy, Call.stretches, Query.locks, hid, UInt8.not_lt.mpr hid]
            rfl
          · simp [Query.exec, snapshotCopy, Call.stretches, Query.locks, hid, UInt8.not_le.mp hid]
            rfl
  | _ => rfl

theorem subsystemRegister_stretches (desc : Option SubsystemDesc) (outId : Bool) :
    (subsystemRegister s desc outId).2.2 =
      s.stretches (Call.stretches s.lib (.subsystemRegister desc outId)) := by
  by_cases haccepted : s.lib.Enrolls desc outId
  · obtain ⟨hsome, rfl, hroom⟩ := haccepted
    obtain ⟨desc, rfl⟩ := Option.isSome_iff_exists.mp hsome
    rw [subsystemRegister_of_room hroom, Call.stretches, if_neg (Nat.not_le.mpr hroom)]
    rfl
  · have hplain : Call.stretches s.lib (.subsystemRegister desc outId) = [none] := by
      cases desc with
      | none => rfl
      | some desc =>
          cases outId with
          | false => rfl
          | true => exact if_pos (Nat.not_lt.mp fun hroom ↦ haccepted ⟨rfl, rfl, hroom⟩)
    rw [subsystemRegister_of_refused haccepted, hplain]
    rfl

theorem setMode_same {mode : Mode} (hmode : s.lib.mode = mode) (entity : EntityId)
    (detail : Option CStr) (report : Option FailureReport) :
    setMode s mode entity detail report = s := if_pos hmode

theorem enterSafeModeUnsafe_of_safe (hmode : ¬ s.lib.mode < .safe) :
    enterSafeModeUnsafe s = s := by
  unfold enterSafeModeUnsafe
  split
  · next hpending =>
    apply setMode_same
    revert hmode hpending
    cases s.lib.mode <;> decide
  · rfl

theorem setSystemMode_of_quiet {code : ℕ}
    (hc : ¬ Call.reaches s.lib (.setSystemMode code)) :
    (setSystemMode s code).2 = syncExit (syncEnter s) := by
  cases hcode : Mode.ofCode? code with
  | none => simp [setSystemMode, hcode]
  | some mode =>
      by_cases hpending : mode = .rebootPending
      · simp [setSystemMode, hcode, hpending]
      · have hsame : (syncEnter s).lib.mode = mode := by
          rw [syncEnter_lib]
          by_contra hne
          exact hc ⟨mode, hcode, hpending, hne⟩
        simp [setSystemMode, hcode, setMode_same hsame]

theorem handleFailure_stretches {report : Option FailureReport}
    (hc : ¬ Call.reaches s.lib (.handleFailure report)) :
    handleFailure s report = s.stretches (Call.stretches s.lib (.handleFailure report)) := by
  cases report with
  | none => rfl
  | some report =>
      by_cases henabled : s.lib.supervisionEnabled = 0
      · simp only [handleFailure, supervisionEnabled_fst, Call.stretches, if_pos henabled]
        rfl
      · have hlatched : (supervisionEnabled s).2.lib.health.faultIsLatchedUnsafe report.entity
            report.reason = true := by
          rw [supervisionEnabled_lib]
          by_contra hraises
          rw [Bool.not_eq_true] at hraises
          exact hc ⟨report, rfl, henabled, hraises⟩
        simp only [handleFailure, supervisionEnabled_fst, Call.stretches, if_neg henabled]
        rw [handleFailureLocked_of_latched hlatched]
        rfl

theorem submitFailure_stretches (report : Option FailureReport) :
    (submitFailure s report).2 =
      s.stretches (Call.stretches s.lib (.submitFailure report)) := by
  cases report with
  | none => rfl
  | some report =>
      by_cases henabled : s.lib.supervisionEnabled = 0
      · simp only [submitFailure, supervisionEnabled_fst, Call.stretches, if_pos henabled]
        rfl
      · have hput : (submitFailure s (some report)).2 =
            (failureQueuePut (supervisionEnabled s).2 report).2 := by
          simp only [submitFailure, supervisionEnabled_fst, if_neg henabled]
          split <;> rfl
        rw [hput]
        simp only [Call.stretches, if_neg henabled]
        rfl

theorem reportFaultImpl_of_quiet {entity : EntityId} {reason : Reason}
    (hc : ¬ (s.lib.supervisionEnabled ≠ 0 ∧
      s.lib.health.faultIsLatchedUnsafe entity reason = false ∧
        s.lib.health.snapshotFailed entity = false)) (errorCode : UInt16)
    (detail : Option CStr) (flags : UInt8) :
    reportFaultImpl s entity reason errorCode detail flags = (.ok, syncExit (syncEnter s)) := by
  simp only [reportFaultImpl, syncEnter_lib]
  split_ifs with hdisabled hlatched hfailed
  · rfl
  · rfl
  · rfl
  · exact absurd ⟨hdisabled, Bool.not_eq_true _ ▸ hlatched, Bool.not_eq_true _ ▸ hfailed⟩ hc
  · exact absurd ⟨hdisabled, Bool.not_eq_true _ ▸ hlatched, Bool.not_eq_true _ ▸ hfailed⟩ hc

theorem heartbeatNotify_of_quiet {id : EntityId} (hid : ¬ id < s.lib.health.entityLimit) :
    heartbeatNotify s id = syncExit (syncEnter s) := by
  simp [heartbeatNotify, UInt8.not_lt.mp hid]

theorem markSubsystem_of_quiet {id : SubsystemId} (hid : ¬ (s.lib.subsystems.slotOf id).isSome)
    (mark : SubsystemTable → SubsystemId → SubsystemTable) (phase : Phase) (detail : CStr) :
    markSubsystem mark phase detail s id = syncExit (syncEnter s) := by
  simp [markSubsystem, hid]

theorem workerMayRun_of_quiet {id : EntityId}
    (hc : ¬ (.safe ≤ s.lib.mode ∧ id < s.lib.health.entityLimit)) :
    (workerMayRun s id).2 = syncExit (syncEnter (syncExit (syncEnter s))) := by
  simp only [workerMayRun, systemMode_fst]
  split
  · next hmode =>
    apply heartbeatNotify_of_quiet
    rw [systemMode_lib]
    exact fun hid ↦ hc ⟨hmode, hid⟩
  · exact entityMayRun_snd _ id

end Calls

theorem reaches_unbind (l : Lib B) (c : Call) : c.reaches l.unbind = c.reaches l := by
  cases c <;> rfl

theorem locks_unbind (l : Lib B) (c : Call) : c.locks l.unbind = c.locks l := by
  cases c with
  | query q => cases q <;> rfl
  | _ => rfl

/-- What a call does that reaches no hook. -/
theorem after_of_quiet {s : State B} {c : Call} (hc : ¬ c.reaches s.lib)
    (hconsult : ∀ sub id report, c ≠ .subsystemOnEntityExhausted sub id report) :
    after s c = s.stretches (c.stretches s.lib) := by
  cases c with
  | query q => exact query_stretches q
  | entityRegister desc outId =>
      change (entityRegister s desc outId).2.2 = syncExit (syncEnter s)
      rw [entityRegister_of_refused hc]
  | subsystemRegister desc outId => exact subsystemRegister_stretches desc outId
  | setSupervisionEnabled enabled =>
      have hsame : s.lib.supervisionEnabled = enabled := not_not.mp hc
      change (setSupervisionEnabled s enabled).2 = syncExit (syncEnter s)
      simp [setSupervisionEnabled, hsame]
  | setSystemMode code => exact setSystemMode_of_quiet hc
  | deescalateSystemMode =>
      change (deescalateSystemMode s).2 = syncExit (syncEnter s)
      simp [deescalateSystemMode, not_or.mp hc]
  | enterDegradedMode =>
      have hmode : s.lib.mode ≠ .nominal := hc
      change syncExit (enterDegradedModeUnsafe (syncEnter s)) = syncExit (syncEnter s)
      simp [enterDegradedModeUnsafe, hmode]
  | enterSafeMode =>
      change syncExit (enterSafeModeUnsafe (syncEnter s)) = syncExit (syncEnter s)
      rw [enterSafeModeUnsafe_of_safe]
      rwa [syncEnter_lib]
  | reassessSystemMode =>
      change syncExit (evaluateDualPath (syncEnter s)) = syncExit (syncEnter s)
      rw [evaluateDualPath, syncEnter_lib]
      split
      · next hreached =>
        rw [enterSafeModeUnsafe_of_safe]
        rw [syncEnter_lib]
        exact not_and.mp hc hreached
      · rfl
  | supervisorTick =>
      have hdisabled : s.lib.supervisionEnabled = 0 := not_not.mp hc
      change supervisorTick s = syncExit (syncEnter s)
      simp only [supervisorTick, supervisionEnabled_fst, if_pos hdisabled]
      rfl
  | handleFailure report => exact handleFailure_stretches hc
  | submitFailure report => exact submitFailure_stretches report
  | reportFault | reportFaultEx => exact congrArg Prod.snd (reportFaultImpl_of_quiet hc _ _ _)
  | heartbeatNotify id => exact heartbeatNotify_of_quiet hc
  | healthSet id health errorCode detail =>
      by_cases hid : s.lib.health.entityLimit ≤ id
      · simp only [after, Call.exec, healthSet, syncEnter_lib, Call.stretches, if_pos hid]
        rfl
      · simp only [after, Call.exec, healthSet, syncEnter_lib, Call.stretches, if_neg hid]
        rfl
  | healthReset id =>
      change healthReset s id = syncExit (syncEnter s)
      simp [healthReset, UInt8.not_lt.mp hc]
  | subsystemMarkAvailable | subsystemMarkUnavailable | subsystemMarkDegraded =>
      exact markSubsystem_of_quiet hc _ _ _
  | subsystemOnEntityExhausted sub id report => exact absurd rfl (hconsult sub id report)
  | workerMayRun id => exact workerMayRun_of_quiet hc
  | _ => exact absurd trivial hc

/-! ## The reply -/

section Reply

variable {s : State B}

theorem query_reply_unbind (q : Query) : (q.exec s.unbind).1 = (q.exec s).1 := by
  cases q with
  | entityMayRun id =>
      have hgate : (entityMayRun s.unbind id).1 = (entityMayRun s id).1 := by
        rw [Bool.eq_iff_iff, entityMayRun_fst, entityMayRun_fst]
        rfl
      exact congrArg Reply.bool hgate
  | healthSnapshotCopy id out =>
      simp only [Query.exec, snapshotCopy, unbind_lib, unbind_health, syncEnter_lib,
        apply_ite Prod.fst]
      rfl
  | entityName id => rfl
  | _ => simp [Query.exec, faultIsLatched, failureQueueFullLatched]

theorem subsystemRegister_reply_unbind (desc : Option SubsystemDesc) (outId : Bool) :
    (subsystemRegister s.unbind desc outId).1 = (subsystemRegister s desc outId).1 ∧
      (subsystemRegister s.unbind desc outId).2.1 = (subsystemRegister s desc outId).2.1 := by
  by_cases haccepted : s.lib.Enrolls desc outId
  · obtain ⟨hsome, rfl, hroom⟩ := haccepted
    obtain ⟨desc, rfl⟩ := Option.isSome_iff_exists.mp hsome
    rw [subsystemRegister_of_room hroom, subsystemRegister_of_room (s := s.unbind) hroom]
    exact ⟨rfl, rfl⟩
  · rw [subsystemRegister_of_refused haccepted,
      subsystemRegister_of_refused (s := s.unbind) haccepted]
    exact ⟨rfl, rfl⟩

theorem setSupervisionEnabled_fst (enabled : UInt8) :
    (setSupervisionEnabled s enabled).1 = s.lib.supervisionEnabled := by
  simp only [setSupervisionEnabled, syncEnter_lib]
  split_ifs <;> rfl

theorem setSystemMode_reply_unbind (code : ℕ) :
    (setSystemMode s.unbind code).1 = (setSystemMode s code).1 := by
  simp only [setSystemMode]
  split <;> rfl

theorem deescalateSystemMode_reply_unbind :
    (deescalateSystemMode s.unbind).1 = (deescalateSystemMode s).1 := by
  simp only [deescalateSystemMode, syncEnter_lib, unbind_lib, unbind_mode]
  split_ifs <;> rfl

theorem submitFailure_reply_unbind (report : Option FailureReport) :
    (submitFailure s.unbind report).1 = (submitFailure s report).1 := by
  cases report with
  | none => rfl
  | some report =>
      simp only [submitFailure, supervisionEnabled_fst, unbind_lib, unbind_supervisionEnabled,
        failureQueuePut, syncEnter_lib, supervisionEnabled_lib, unbind_queue]
      split_ifs <;> rfl

theorem subsystemOnEntityExhausted_unbind (sub : SubsystemId) (id : EntityId)
    (report : Option FailureReport) :
    subsystemOnEntityExhausted s.unbind sub id report =
      ((subsystemOnEntityExhausted s sub id report).1,
        (subsystemOnEntityExhausted s sub id report).2.unbind) := by
  simp only [subsystemOnEntityExhausted, unbind_lib, unbind_subsystems]
  split
  · rfl
  · split <;> rfl

theorem workerMayRun_reply_unbind (id : EntityId) :
    (workerMayRun s.unbind id).1 = (workerMayRun s id).1 := by
  rw [Bool.eq_iff_iff, workerMayRun_fst, workerMayRun_fst]
  rfl

/-- The reply of a call that reaches no hook does not depend on the ready flag. -/
theorem reply_unbind {c : Call} (hc : ¬ c.reaches s.lib) :
    (c.exec s.unbind).1 = (c.exec s).1 := by
  cases c with
  | query q => exact query_reply_unbind q
  | entityRegister desc outId =>
      simp only [Call.exec, entityRegister_of_refused hc,
        entityRegister_of_refused (s := s.unbind) hc]
      rfl
  | subsystemRegister desc outId =>
      obtain ⟨hstatus, hissued⟩ := subsystemRegister_reply_unbind (s := s) desc outId
      simp only [Call.exec, hstatus, hissued]
  | setSupervisionEnabled enabled => simp only [Call.exec, setSupervisionEnabled_fst, unbind_lib,
        unbind_supervisionEnabled]
  | setSystemMode code => simp only [Call.exec, setSystemMode_reply_unbind]
  | deescalateSystemMode => simp only [Call.exec, deescalateSystemMode_reply_unbind]
  | submitFailure report => simp only [Call.exec, submitFailure_reply_unbind]
  | reportFault | reportFaultEx =>
      simp only [Call.exec, reportFault, reportFaultEx, reportFaultImpl_of_quiet hc,
        reportFaultImpl_of_quiet (s := s.unbind) hc]
  | subsystemOnEntityExhausted sub id report =>
      simp only [Call.exec, subsystemOnEntityExhausted_unbind]
  | workerMayRun id => simp only [Call.exec, workerMayRun_reply_unbind]
  | _ => rfl

theorem unbind_lockTrace (s : State B) : s.unbind.lib.lockTrace = [] := rfl

/-- A call that reaches no hook, nor the lock hooks, does not notice whether the port
is ready. -/
theorem exec_unbind {c : Call} (hc : ¬ c.reaches s.lib)
    (hlock : c.locks s.lib = true → s.lib.lockTrace = []) :
    c.exec s.unbind = ((c.exec s).1, (c.exec s).2.unbind) := by
  refine Prod.ext (reply_unbind hc) ?_
  by_cases hconsult : ∃ sub id report, c = .subsystemOnEntityExhausted sub id report
  · obtain ⟨sub, id, report, rfl⟩ := hconsult
    change (subsystemOnEntityExhausted s.unbind sub id report).2 = _
    rw [subsystemOnEntityExhausted_unbind]
    rfl
  · have hplain (sub id report) : c ≠ .subsystemOnEntityExhausted sub id report :=
      fun h ↦ hconsult ⟨sub, id, report, h⟩
    have hunbound : after s.unbind c = s.unbind.stretches (c.stretches s.lib) := by
      rw [after_of_quiet (s := s.unbind) hc hplain, unbind_lib, stretches_unbind_lib]
    change after s.unbind c = (after s c).unbind
    rw [hunbound, after_of_quiet hc hplain]
    by_cases hlocks : c.locks s.lib = true
    · exact stretches_unbind (hlock hlocks) _
    · rw [locks_iff, not_not] at hlocks
      rw [hlocks]
      rfl

/-- A call that reaches no hook but takes a bound lock leaves no trace of it while the
port is not ready. -/
theorem trace_unbind_ne {c : Call} (hc : ¬ c.reaches s.lib) (hlocks : c.locks s.lib = true)
    (hbound : s.lib.lockTrace ≠ []) :
    (after s.unbind c).world.trace ≠ (after s c).world.trace := by
  have hplain (sub id report) : c ≠ .subsystemOnEntityExhausted sub id report := by
    rintro rfl
    exact absurd hlocks Bool.false_ne_true
  rw [after_of_quiet hc hplain, after_of_quiet (s := s.unbind) hc hplain, stretches_trace,
    stretches_trace, unbind_lockTrace, unbind_lib, stretches_unbind_lib]
  rw [locks_iff] at hlocks
  obtain ⟨write, writes, hstretches⟩ := List.exists_cons_of_ne_nil hlocks
  rw [hstretches]
  intro h
  change s.world.trace ++ _ = _ at h
  have hnil := List.append_cancel_left h
  rw [List.flatten_replicate_nil, List.length_cons, List.replicate_succ, List.flatten_cons,
    eq_comm, List.append_eq_nil_iff] at hnil
  exact hbound hnil.1

theorem after_aborted_of_quiet {c : Call} (hc : ¬ c.reaches s.lib) :
    (after s c).world.aborted = s.world.aborted := by
  by_cases hconsult : ∃ sub id report, c = .subsystemOnEntityExhausted sub id report
  · obtain ⟨sub, id, report, rfl⟩ := hconsult
    simp only [after, Call.exec, subsystemOnEntityExhausted]
    split
    · rfl
    · split <;> rfl
  · rw [after_of_quiet hc fun sub id report h ↦ hconsult ⟨sub, id, report, h⟩]
    exact stretches_aborted _ _

end Reply

end Fdir
