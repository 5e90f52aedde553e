import Fdir.Arrays
import Fdir.InStep

/-!
# No access out of range

As long as neither bound exceeds the capacity, every function with checked arrays has the
result that the function without checks has.
-/

namespace Fdir

open Foundation

variable {B : Build}

/-- Neither module tests its ids against more than the arrays hold. -/
structure Lib.Bounded (l : Lib B) : Prop where
  count : l.entityCount.toNat ≤ B.entityCap
  limit : l.health.entityLimit.toNat ≤ B.entityCap

theorem Lib.InStep.bounded {l : Lib B} (h : l.InStep) : l.Bounded :=
  ⟨h.count_le, h.aligned.symm ▸ h.count_le⟩

theorem Build.within_of_lt {bound id : EntityId} (hbound : bound.toNat ≤ B.entityCap)
    (hid : id < bound) : B.Within id :=
  Nat.lt_of_lt_of_le (UInt8.lt_iff_toNat_lt.mp hid) hbound

theorem Lib.Bounded.within_of_not_le {l : Lib B} (h : l.Bounded) {id : EntityId}
    (hid : ¬ l.entityCount ≤ id) : B.Within id :=
  Build.within_of_lt h.count (UInt8.not_le.mp hid)

theorem Lib.Bounded.within_of_limit {l : Lib B} (h : l.Bounded) (id : EntityId)
    (hid : ¬ l.health.entityLimit ≤ id) : B.Within id :=
  Build.within_of_lt h.limit (UInt8.not_le.mp hid)

/-! ## The health table -/

section Health

variable {t : HealthTable} {id : EntityId} (hid : ¬ t.entityLimit ≤ id → B.Within id)
include hid

theorem checked_sameFault (hlimit : ¬ t.entityLimit ≤ id) (reason : Reason) :
    Checked.sameFault B t id reason =
      some (t.faultLatched id && decide (t.latchedReason id = reason)) := by
  simp only [Checked.sameFault, fetch_of_within (hid hlimit), Option.bind_eq_bind,
    Option.bind_some, Option.pure_def]
  cases t.faultLatched id <;> simp

theorem checked_faultIsLatchedUnsafe (reason : Reason) :
    Checked.faultIsLatchedUnsafe B t id reason = some (t.faultIsLatchedUnsafe id reason) := by
  unfold Checked.faultIsLatchedUnsafe HealthTable.faultIsLatchedUnsafe
  split
  · rfl
  · next hlimit => exact checked_sameFault hid hlimit reason

theorem checked_latchFaultUnsafe (reason : Reason) :
    Checked.latchFaultUnsafe B t id reason = some (t.latchFaultUnsafe id reason) := by
  unfold Checked.latchFaultUnsafe HealthTable.latchFaultUnsafe
  split
  · rfl
  · next hlimit =>
    simp only [checked_sameFault hid hlimit, store_of_within (hid hlimit), Option.bind_eq_bind,
      Option.bind_some, Option.pure_def]
    split <;> rfl

theorem checked_clearLatchUnsafe :
    Checked.clearLatchUnsafe B t id = some (t.clearLatchUnsafe id) := by
  unfold Checked.clearLatchUnsafe HealthTable.clearLatchUnsafe
  split
  · rfl
  · next hlimit =>
    simp only [fetch_of_within (hid hlimit), store_of_within (hid hlimit), Option.map_some,
      Option.bind_eq_bind, Option.bind_some, Option.pure_def]
    cases t.faultLatched id <;> rfl

theorem checked_snapshot : Checked.snapshot B t id = some (t.snapshot id) := by
  unfold Checked.snapshot HealthTable.snapshot
  split
  · rfl
  · next hlimit => rw [fetch_of_within (hid hlimit), Option.map_some]

theorem checked_snapshotFailed : Checked.snapshotFailed B t id = some (t.snapshotFailed id) := by
  simp only [Checked.snapshotFailed, HealthTable.snapshotFailed, checked_snapshot hid,
    Option.bind_eq_bind, Option.bind_some]
  cases t.snapshot id <;> rfl

theorem checked_isStale (nowMs maxAgeMs : UInt32) :
    Checked.isStale B t id nowMs maxAgeMs = some (t.isStale id nowMs maxAgeMs) := by
  simp only [Checked.isStale, HealthTable.isStale, checked_snapshot hid, Option.bind_eq_bind,
    Option.bind_some]
  cases t.snapshot id with
  | none => rfl
  | some snapshot =>
      dsimp only
      split <;> rfl

theorem checked_setUnsafe (health : Health) (errorCode : UInt16) (detail : CStr) :
    Checked.setUnsafe B t id health errorCode detail =
      some (t.setUnsafe id health errorCode detail) := by
  unfold Checked.setUnsafe HealthTable.setUnsafe
  split
  · rfl
  · next hlimit =>
    simp only [fetch_of_within (hid hlimit), store_of_within (hid hlimit), Option.bind_eq_bind,
      Option.bind_some, Option.pure_def]

theorem checked_resetUnsafe (nowMs : UInt32) :
    Checked.resetUnsafe B t id nowMs = some (t.resetUnsafe id nowMs) := by
  unfold Checked.resetUnsafe HealthTable.resetUnsafe
  split
  · rfl
  · next hlimit =>
    simp only [store_of_within (hid hlimit), Option.bind_eq_bind, Option.bind_some,
      Option.pure_def]

theorem checked_heartbeat (nowMs : UInt32) :
    Checked.heartbeat B t id nowMs = some (t.heartbeat id nowMs) := by
  unfold Checked.heartbeat HealthTable.heartbeat
  split
  · rfl
  · next hlimit =>
    simp only [fetch_of_within (hid hlimit), store_of_within (hid hlimit), Option.bind_eq_bind,
      Option.bind_some, Option.pure_def, Function.update_self, Function.update_idem]
    split
    · next hfailed => rw [← hfailed]
    · rfl

end Health

section Sections

variable {s : State B} {id : EntityId}

theorem checked_healthSetUnsafe (hid : ¬ s.lib.health.entityLimit ≤ id → B.Within id)
    (health : Health) (errorCode : UInt16) (detail : Option CStr) :
    Checked.healthSetUnsafe s id health errorCode detail =
      some (healthSetUnsafe s id health errorCode detail) := by
  rw [Checked.healthSetUnsafe, checked_setUnsafe hid]
  rfl

theorem checked_healthResetUnsafe (hid : ¬ s.lib.health.entityLimit ≤ id → B.Within id) :
    Checked.healthResetUnsafe s id = some (healthResetUnsafe s id) := by
  unfold Checked.healthResetUnsafe healthResetUnsafe
  split
  · rfl
  · have hnow : ¬ (getNowMs s).2.lib.health.entityLimit ≤ id → B.Within id := by
      rwa [getNowMs_lib]
    simp only [checked_resetUnsafe hnow, Option.bind_eq_bind, Option.bind_some, Option.pure_def]
    refine congrArg some ?_
    simp only [State.write, stamp_lib]

theorem checked_faultIsLatched (hid : ¬ s.lib.health.entityLimit ≤ id → B.Within id)
    (reason : Reason) :
    Checked.faultIsLatched s id reason = some (faultIsLatched s id reason) := by
  rw [Checked.faultIsLatched, checked_faultIsLatchedUnsafe (by rwa [syncEnter_lib])]
  rfl

theorem checked_heartbeatNotify (hid : ¬ s.lib.health.entityLimit ≤ id → B.Within id) :
    Checked.heartbeatNotify s id = some (heartbeatNotify s id) := by
  unfold Checked.heartbeatNotify heartbeatNotify
  dsimp only
  split
  · rfl
  · have hnow : ¬ (getNowMs (syncEnter s)).2.lib.health.entityLimit ≤ id → B.Within id := by
      rwa [getNowMs_lib, syncEnter_lib]
    simp only [checked_heartbeat hnow, Option.bind_eq_bind, Option.bind_some, Option.pure_def]
    refine congrArg (fun s ↦ some (syncExit s)) ?_
    simp only [State.write, stamp_lib]

theorem checked_healthSet (hid : ¬ s.lib.health.entityLimit ≤ id → B.Within id)
    (health : Health) (errorCode : UInt16) (detail : Option CStr) :
    Checked.healthSet s id health errorCode detail =
      some (healthSet s id health errorCode detail) := by
  unfold Checked.healthSet healthSet
  dsimp only
  split
  · rfl
  · rw [checked_healthSetUnsafe (by rwa [syncEnter_lib]), Option.map_some]

theorem checked_healthReset (hid : ¬ s.lib.health.entityLimit ≤ id → B.Within id) :
    Checked.healthReset s id = some (healthReset s id) := by
  unfold Checked.healthReset healthReset
  dsimp only
  split
  · rfl
  · rw [checked_healthResetUnsafe (by rwa [syncEnter_lib]), Option.map_some]

theorem checked_snapshotCopy (hid : ¬ s.lib.health.entityLimit ≤ id → B.Within id) (out : Bool) :
    Checked.snapshotCopy s id out = some (snapshotCopy s id out) := by
  unfold Checked.snapshotCopy snapshotCopy
  split
  · rfl
  · next hout =>
    have hwithin : B.Within id := hid fun hlimit ↦ hout (by simp [hlimit])
    simp only [fetch_of_within hwithin, Option.bind_eq_bind, Option.bind_some, Option.pure_def]

end Sections

/-! ## The recovery of an entity -/

section Recovery

variable {s : State B} {id : EntityId} {report : FailureReport}

theorem checked_tryRestart (hid : B.Within id) (reason : Reason) :
    Checked.tryRestart s id reason = some (tryRestart s id reason) := by
  simp only [Checked.tryRestart, tryRestart, fetch_of_within hid, store_of_within hid,
    Option.bind_eq_bind, Option.bind_some, Option.pure_def]
  cases (s.lib.entities id).desc.restart with
  | none => rfl
  | some restart =>
      have hbumped : (s.write fun l ↦ { l with
          entities := Function.update s.lib.entities id
            (bumpRestart (s.lib.entities id) reason) }) =
          s.write fun l ↦ l.setSlot id (bumpRestart (s.lib.entities id) reason) := rfl
      simp only [hbumped, checked_clearLatchUnsafe fun _ ↦ hid,
        checked_healthResetUnsafe fun _ ↦ hid, Option.bind_some]
      split <;> rfl

theorem checked_resolveExhaustedAction (hid : B.Within id) (action : Action) :
    Checked.resolveExhaustedAction s id action report =
      some (resolveExhaustedAction s id action report) := by
  unfold Checked.resolveExhaustedAction resolveExhaustedAction
  dsimp only
  split
  · rfl
  · simp only [fetch_of_within hid, Option.bind_eq_bind, Option.bind_some, Option.pure_def]
    split
    · rfl
    · split <;> rfl

theorem checked_applyFinalAction (hid : B.Within id) (action : Action) :
    Checked.applyFinalAction s id action report =
      some (applyFinalAction s id action report) := by
  rw [Checked.applyFinalAction, fetch_of_within hid]
  cases action <;> rfl

theorem checked_applyAction (hid : B.Within id) (action : Action) :
    Checked.applyAction s id action report = some (applyAction s id action report) := by
  simp only [Checked.applyAction, applyAction, fetch_of_within hid, checked_tryRestart hid,
    checked_applyFinalAction hid, Option.bind_eq_bind, Option.bind_some, Option.pure_def]
  split
  · split <;> rfl
  · rfl

theorem checked_chooseAction (hid : B.Within report.entity) :
    Checked.chooseAction s report = some (chooseAction s report) := by
  simp only [Checked.chooseAction, chooseAction, fetch_of_within hid, Option.bind_eq_bind,
    Option.bind_some, Option.pure_def]
  cases (s.lib.entities report.entity).desc.decide <;> rfl

theorem checked_recoverEntity (hid : B.Within report.entity) :
    Checked.recoverEntity s report = some (recoverEntity s report) := by
  simp only [Checked.recoverEntity, recoverEntity, checked_latchFaultUnsafe fun _ ↦ hid,
    checked_healthSetUnsafe fun _ ↦ hid, checked_chooseAction hid,
    checked_resolveExhaustedAction hid, checked_applyAction hid, Option.bind_eq_bind,
    Option.bind_some, Option.pure_def]
  rfl

theorem checked_handleFailureLocked (hs : s.lib.Bounded) :
    Checked.handleFailureLocked s report = some (handleFailureLocked s report) := by
  have hentered : (syncEnter s).lib.Bounded := by rwa [syncEnter_lib]
  have hlatch := checked_faultIsLatchedUnsafe (hentered.within_of_limit report.entity)
    report.reason
  simp only [Checked.handleFailureLocked, handleFailureLocked, hlatch, Option.bind_eq_bind,
    Option.bind_some, Option.pure_def]
  split
  · rfl
  · by_cases hcount : s.lib.entityCount ≤ report.entity
    · simp [hcount]
    · have hid := hs.within_of_not_le hcount
      simp only [emitEventFull_lib, syncEnter_lib, hcount, false_or, if_false,
        fetch_of_within hid, Option.bind_some, checked_recoverEntity hid]
      split <;> rfl

theorem checked_handleFailure (hs : s.lib.Bounded) (report : Option FailureReport) :
    Checked.handleFailure s report = some (handleFailure s report) := by
  cases report with
  | none => rfl
  | some report =>
      have henabled : (supervisionEnabled s).2.lib.Bounded := by rwa [supervisionEnabled_lib]
      simp only [Checked.handleFailure, handleFailure, checked_handleFailureLocked henabled]
      split <;> rfl

end Recovery

/-! ## The scan and the tick -/

section Loops

variable {s : State B}

theorem checked_watchdogDue {l : Lib B} (hs : l.Bounded) (nowMs maxAge : UInt32) {id : EntityId}
    (hid : id < l.entityCount) :
    Checked.watchdogDue l nowMs maxAge id = some (watchdogDue l nowMs maxAge id) := by
  have hwithin := Build.within_of_lt hs.count hid
  simp only [Checked.watchdogDue, watchdogDue, fetch_of_within hwithin,
    checked_faultIsLatchedUnsafe fun _ ↦ hwithin, checked_snapshot fun _ ↦ hwithin,
    checked_isStale fun _ ↦ hwithin, HealthTable.snapshotFailed, Option.bind_eq_bind,
    Option.bind_some, Option.pure_def]
  cases (l.entities id).used with
  | false => rfl
  | true =>
      cases l.health.faultIsLatchedUnsafe id .watchdog with
      | true => rfl
      | false =>
          cases l.health.snapshot id with
          | none => rfl
          | some snapshot =>
              by_cases hfailed : snapshot.health = .failed
              · simp [hfailed]
              · simp [hfailed]

/-- The ids the scan looks at were issued. -/
theorem ofNat_lt_count {l : Lib B} {i : ℕ} (hi : i < l.entityCount.toNat) :
    UInt8.ofNat i < l.entityCount := by
  have hcount := l.entityCount.toNat_lt
  rw [UInt8.lt_iff_toNat_lt, UInt8.toNat_ofNat']
  omega

theorem checked_scanLoop (nowMs maxAge : UInt32) (rounds i : ℕ) (hs : s.lib.InStep) :
    Checked.scanLoop nowMs maxAge rounds i s = some (scanLoop nowMs maxAge rounds i s) := by
  induction rounds generalizing i s with
  | zero => rfl
  | succ rounds ih =>
      by_cases hi : i < s.lib.entityCount.toNat
      · have hfree : (syncExit s).lib.InStep := by rwa [syncExit_lib]
        have hhandled : (handleFailure (syncExit s)
            (some (watchdogReport B (UInt8.ofNat i) nowMs))).lib.InStep :=
          after_inStep hfree (.handleFailure _)
        simp only [Checked.scanLoop, scanLoop, hi, if_true,
          checked_watchdogDue hs.bounded nowMs maxAge (ofNat_lt_count hi),
          checked_handleFailure hfree.bounded, Option.bind_eq_bind, Option.bind_some]
        split
        · exact ih (i + 1) (by rwa [syncEnter_lib])
        · exact ih (i + 1) hs
      · simp only [Checked.scanLoop, scanLoop, hi, if_false]

theorem checked_checkWatchdogs (hs : s.lib.InStep) :
    Checked.checkWatchdogs s = some (checkWatchdogs s) := by
  have hscanned : (syncEnter (supervisionEnabled (getNowMs s).2).2).lib.InStep := by
    rwa [syncEnter_lib, supervisionEnabled_lib, getNowMs_lib]
  simp only [Checked.checkWatchdogs, checkWatchdogs, checked_scanLoop _ _ _ _ hscanned,
    Option.map_some]
  split <;> rfl

theorem failureQueueGet_inStep (hs : s.lib.InStep) : (failureQueueGet s).2.lib.InStep := by
  cases hget : s.lib.queue.getUnsafe.1 with
  | none => rwa [failureQueueGet_of_none hget, syncExit_lib, syncEnter_lib]
  | some report =>
      rw [(failureQueueGet_of_some hget).2]
      exact hs.congr rfl rfl (fun _ ↦ rfl) fun _ _ ↦ rfl

theorem checked_drainQueue (rounds : ℕ) (hs : s.lib.InStep) :
    Checked.drainQueue rounds s = some (drainQueue rounds s) ∧
      (drainQueue rounds s).lib.InStep := by
  induction rounds generalizing s with
  | zero => exact ⟨rfl, hs⟩
  | succ rounds ih =>
      have hgot := failureQueueGet_inStep hs
      simp only [Checked.drainQueue, drainQueue]
      cases (failureQueueGet s).1 with
      | none => exact ⟨rfl, hgot⟩
      | some report =>
          simp only [checked_handleFailure hgot.bounded, Option.bind_some]
          exact ih (after_inStep hgot (.handleFailure (some report)))

theorem checked_supervisorTick (hs : s.lib.InStep) :
    Checked.supervisorTick s = some (supervisorTick s) := by
  have henabled : (supervisionEnabled s).2.lib.InStep := by rwa [supervisionEnabled_lib]
  obtain ⟨hdrained, hend⟩ := checked_drainQueue 256 henabled
  simp only [Checked.supervisorTick, supervisorTick, hdrained, Option.bind_some,
    checked_checkWatchdogs hend]
  split <;> rfl

end Loops

/-! ## The whole interface -/

section Calls

variable {s : State B} {id : EntityId}

theorem checked_entityRegister (desc : Option EntityDesc) (outId : Bool) :
    Checked.entityRegister s desc outId = some (entityRegister s desc outId) := by
  cases desc with
  | none => rfl
  | some desc =>
    cases outId with
    | false => rfl
    | true =>
      by_cases hfull : B.entityCap ≤ (syncEnter s).lib.entityCount.toNat
      · simp only [Checked.entityRegister, entityRegister, if_pos hfull]
      by_cases haction : desc.onExhausted = .restart
      · simp only [Checked.entityRegister, entityRegister, if_neg hfull, if_pos haction]
      have hid : B.Within (syncEnter s).lib.entityCount := Nat.not_le.mp hfull
      simp only [Checked.entityRegister, entityRegister, if_neg hfull, if_neg haction,
        store_of_within hid, checked_healthResetUnsafe fun _ ↦ hid, Option.bind_eq_bind,
        Option.bind_some, Option.pure_def]
      rfl

theorem checked_entityName (hs : s.lib.Bounded) (id : EntityId) :
    Checked.entityName s.lib id = some (entityName s.lib id) := by
  unfold Checked.entityName entityName
  by_cases hcount : s.lib.entityCount ≤ id
  · simp [hcount]
  · simp only [hcount, false_or, if_false, fetch_of_within (hs.within_of_not_le hcount),
      Option.bind_eq_bind, Option.bind_some, Option.pure_def]
    split <;> rfl

theorem checked_entityMayRun (hid : ¬ s.lib.health.entityLimit ≤ id → B.Within id) :
    Checked.entityMayRun s id = some (entityMayRun s id) := by
  have hsnapshot := checked_snapshot (t := (syncEnter s).lib.health) (by rwa [syncEnter_lib])
  unfold Checked.entityMayRun entityMayRun
  simp only [hsnapshot, Option.bind_eq_bind, Option.bind_some, Option.pure_def]
  split
  · rfl
  split
  · rfl
  cases (syncEnter s).lib.health.snapshot id with
  | none => rfl
  | some snapshot =>
      dsimp only
      split <;> rfl

theorem enqueueFailureUnsafe_health (report : FailureReport) :
    (enqueueFailureUnsafe s report).2.lib.health = s.lib.health := by
  unfold enqueueFailureUnsafe
  dsimp only
  split <;> rfl

theorem checked_reportFaultImpl (hid : ¬ s.lib.health.entityLimit ≤ id → B.Within id)
    (reason : Reason) (errorCode : UInt16) (detail : Option CStr) (flags : UInt8) :
    Checked.reportFaultImpl s id reason errorCode detail flags =
      some (reportFaultImpl s id reason errorCode detail flags) := by
  have hentered : ¬ (syncEnter s).lib.health.entityLimit ≤ id → B.Within id := by
    rwa [syncEnter_lib]
  unfold Checked.reportFaultImpl reportFaultImpl
  simp only [checked_faultIsLatchedUnsafe hentered, checked_snapshotFailed hentered,
    Option.bind_eq_bind, Option.bind_some, Option.pure_def]
  split
  · rfl
  split
  · rfl
  split
  · rfl
  rw [checked_healthSetUnsafe (by rwa [enqueueFailureUnsafe_health, getNowMs_lib])]
  split <;> rfl

theorem checked_workerMayRun (hid : ¬ s.lib.health.entityLimit ≤ id → B.Within id) :
    Checked.workerMayRun s id = some (workerMayRun s id) := by
  have hmode : ¬ (systemMode s).2.lib.health.entityLimit ≤ id → B.Within id := by
    rwa [systemMode_lib]
  simp only [Checked.workerMayRun, workerMayRun, checked_heartbeatNotify hmode,
    checked_entityMayRun hmode, Option.map_some]
  split <;> rfl

theorem checked_query (hs : s.lib.Bounded) (q : Query) :
    Checked.query s q = some (q.exec s) := by
  have hid := hs.within_of_limit
  cases q with
  | entityName id => rw [Checked.query, checked_entityName hs]; rfl
  | entityMayRun id => rw [Checked.query, checked_entityMayRun (hid id)]; rfl
  | healthSnapshot id => rw [Checked.query, checked_snapshot (hid id)]; rfl
  | healthSnapshotCopy id out => rw [Checked.query, checked_snapshotCopy (hid id)]; rfl
  | healthIsStale id nowMs maxAgeMs => rw [Checked.query, checked_isStale (hid id)]; rfl
  | healthFaultIsLatched id reason => rw [Checked.query, checked_faultIsLatched (hid id)]; rfl
  | _ => rfl

/-- No call strays beyond the arrays. -/
theorem checked_exec (hs : s.lib.InStep) (c : Call) : Checked.exec s c = some (c.exec s) := by
  have hbounded := hs.bounded
  have hid := hbounded.within_of_limit
  cases c with
  | query q => exact checked_query hbounded q
  | entityRegister desc outId => rw [Checked.exec, checked_entityRegister]; rfl
  | supervisorTick => rw [Checked.exec, checked_supervisorTick hs]; rfl
  | handleFailure report => rw [Checked.exec, checked_handleFailure hbounded]; rfl
  | checkWatchdogs => rw [Checked.exec, checked_checkWatchdogs hs]; rfl
  | reportFault entity reason errorCode detail =>
      rw [Checked.exec, checked_reportFaultImpl (hid entity)]; rfl
  | reportFaultEx entity reason errorCode detail flags =>
      rw [Checked.exec, checked_reportFaultImpl (hid entity)]; rfl
  | heartbeatNotify id => rw [Checked.exec, checked_heartbeatNotify (hid id)]; rfl
  | healthSet id health errorCode detail => rw [Checked.exec, checked_healthSet (hid id)]; rfl
  | healthReset id => rw [Checked.exec, checked_healthReset (hid id)]; rfl
  | workerMayRun id => rw [Checked.exec, checked_workerMayRun (hid id)]; rfl
  | _ => rfl

theorem checked_op (hs : s.lib.InStep) (op : Op) : Checked.op s op = some (op.exec s) := by
  cases op with
  | call c => exact checked_exec hs c
  | _ => rfl

end Calls

/-! ## Turns -/

theorem checked_firstDue {l : Lib B} (hs : l.Bounded) (nowMs maxAge : UInt32) (next : ℕ) :
    Checked.firstDue l nowMs maxAge next = some (firstDue l nowMs maxAge next) := by
  refine findM?_eq_find? fun i hi ↦ ?_
  obtain ⟨hle, hlt⟩ := List.mem_range'_1.mp hi
  exact checked_watchdogDue hs nowMs maxAge (ofNat_lt_count (by omega))

theorem checked_advance {s : State B} (hs : s.lib.InStep) (pc : Pc) :
    Checked.advance s pc = some (pc.advance s) := by
  have hbounded := hs.bounded
  have hid := hbounded.within_of_limit
  cases pc with
  | handleLocked report ret => rw [Checked.advance, checked_handleFailureLocked hbounded]; rfl
  | watchScan readAt nowMs maxAge next =>
      have hdue := checked_firstDue (l := (syncEnter s).lib) (by rwa [syncEnter_lib]) nowMs maxAge
        next
      simp only [Checked.advance, hdue, Option.map_some, Pc.advance]
      cases firstDue (syncEnter s).lib nowMs maxAge next <;> rfl
  | gateHeartbeat id => rw [Checked.advance, checked_heartbeatNotify (hid id)]; rfl
  | gateRun id => rw [Checked.advance, checked_entityMayRun (hid id)]; rfl
  | _ => rfl

/-- No turn of any thread strays beyond the arrays. -/
theorem Machine.checked_step {m : Machine B} (hs : m.state.lib.InStep) (turn : Turn) :
    Checked.step m turn = some (m.step turn) := by
  cases turn with
  | elapse ms => rfl
  | advance thread => rw [Checked.step, checked_advance hs]; rfl
  | call thread c =>
      simp only [Checked.step, Machine.step, checked_exec hs, Option.map_some]
      split
      · cases c.entry <;> rfl
      · rfl

/-- From power-on, through any turns of any threads and any operations: both modules know
the same entities, no more than the arrays hold, and all else is pristine; no operation and
no turn makes an access out of range; a registration that fails changes nothing, and one that
succeeds enters the next id afresh and touches no other. -/
theorem tables_in_step (clock : ℕ) (pace : List Obs → ℕ) (happenings : List Happening) :
    let m : Machine B := Run.run Machine.happen (.powerOn clock pace) happenings
    let l := m.state.lib
    l.InStep ∧
      (∀ op : Op, Checked.op m.state op = some (op.exec m.state)) ∧
      (∀ turn : Turn, Checked.step m turn = some (m.step turn)) ∧
      ∀ (desc : Option EntityDesc) (outId : Bool),
        let r := entityRegister m.state desc outId
        (r.1 ≠ .ok → r.2.1 = none ∧ r.2.2 = syncExit (syncEnter m.state) ∧ r.2.2.lib = l) ∧
          (r.1 = .ok → r.2.1 = some l.entityCount ∧ (l.entities l.entityCount).used = false ∧
            r.2.2.lib.entityCount = l.entityCount + 1 ∧ (r.2.2.lib.record l.entityCount).Fresh ∧
              ∀ id ≠ l.entityCount, r.2.2.lib.record id = l.record id) := by
  intro m l
  have hs : l.InStep := Machine.inStep_run clock pace happenings
  refine ⟨hs, checked_op hs, Machine.checked_step hs, ?_⟩
  intro desc outId r
  rcases entityRegister_cases m.state desc outId with
    ⟨status, hstatus, hrun⟩ | ⟨desc', now, hok, hissued, -, hlib⟩
  · refine ⟨fun _ ↦ ?_, fun hok ↦ ?_⟩
    · simp only [r, hrun, syncExit_lib, syncEnter_lib]
      exact ⟨trivial, trivial, rfl⟩
    · simp only [r, hrun] at hok
      exact absurd hok hstatus
  · refine ⟨fun hfailed ↦ absurd hok hfailed, fun _ ↦ ⟨hissued, ?_, ?_⟩⟩
    · rw [← Bool.not_eq_true, hs.used_iff]
      exact UInt8.lt_irrefl _
    · have hrecord : r.2.2.lib.record = (l.enroll desc' now).record := congrArg Lib.record hlib
      rw [hrecord]
      exact ⟨congrArg Lib.entityCount hlib, hs.fresh_enroll desc' now,
        fun id hid ↦ l.record_enroll_of_ne hid desc' now⟩

end Fdir
