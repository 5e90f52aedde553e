import Fdir.Accounts
import Fdir.Acts
import Fdir.Deferral
import Fdir.Sweep

/-!
# What entities share

Handling a report about one entity, and every call about one entity, about subsystems or about
the mode, leaves the records of the other entities and what all entities share alone.  A tick
or a scan does to an entity what the reports about it do.
-/

namespace Fdir

variable {B : Build} {id : EntityId} {now : UInt32}

/-! ## Agreement on an entity -/

/-- The static variables agree on what all entities share, apart from the mode, the flags of
the subsystems and the queue. -/
structure Lib.Common (l l' : Lib B) : Prop where
  count : l'.entityCount = l.entityCount
  limit : l'.health.entityLimit = l.health.entityLimit
  desc : ∀ id, (l'.entities id).desc = (l.entities id).desc
  policy : l'.subsystems.policy = l.subsystems.policy
  subCount : l'.subsystems.subCount = l.subsystems.subCount
  enabled : l'.supervisionEnabled = l.supervisionEnabled
  config : l'.config = l.config

namespace Lib.Common

variable {l l' l'' : Lib B}

theorem symm (h : l.Common l') : l'.Common l :=
  ⟨h.count.symm, h.limit.symm, fun id ↦ (h.desc id).symm, h.policy.symm, h.subCount.symm,
    h.enabled.symm, h.config.symm⟩

theorem trans (h : l.Common l') (h' : l'.Common l'') : l.Common l'' :=
  ⟨h'.count.trans h.count, h'.limit.trans h.limit, fun id ↦ (h'.desc id).trans (h.desc id),
    h'.policy.trans h.policy, h'.subCount.trans h.subCount, h'.enabled.trans h.enabled,
    h'.config.trans h.config⟩

theorem of_subsystems_eq (hcount : l'.entityCount = l.entityCount)
    (hlimit : l'.health.entityLimit = l.health.entityLimit) (hentities : l'.entities = l.entities)
    (hsubs : l'.subsystems = l.subsystems)
    (henabled : l'.supervisionEnabled = l.supervisionEnabled) (hconfig : l'.config = l.config) :
    l.Common l' :=
  ⟨hcount, hlimit, fun id ↦ by rw [hentities], by rw [hsubs], by rw [hsubs], henabled, hconfig⟩

theorem refl (l : Lib B) : l.Common l := .of_subsystems_eq rfl rfl rfl rfl rfl rfl

theorem handle (l : Lib B) (ans : Answers) (report : FailureReport) :
    l.Common (l.handle ans report) where
  count := Lib.handle_entityCount l ans report
  limit := Lib.handle_entityLimit l ans report
  desc := Lib.desc_handle l ans report
  policy := Lib.policy_handle l ans report
  subCount := by
    unfold Lib.handle
    split_ifs
    · rfl
    · rfl
    · simp only [Lib.recover, Lib.review, Lib.strike, Lib.setRecord, Action.mark_eq]
      split_ifs <;> simp
  enabled := Lib.handle_supervisionEnabled l ans report
  config := Lib.handle_config l ans report

theorem regular (h : l.Common l') (hregular : l.Regular) : l'.Regular :=
  hregular.congr h.desc h.policy

end Lib.Common

/-- The reports about entity `id`. -/
def reportsOf (id : EntityId) (reports : List FailureReport) : List FailureReport :=
  reports.filter fun report ↦ report.entity = id

/-- The static variables agree on entity `id`, the reports about it, and what all entities
share. -/
structure Lib.Shares (id : EntityId) (l l' : Lib B) : Prop extends Lib.Common l l' where
  record : l'.record id = l.record id
  pending : reportsOf id l'.queue.pending = reportsOf id l.queue.pending

namespace Lib.Shares

variable {l l' l'' : Lib B} {report : FailureReport} {reports reports' : List FailureReport}

theorem refl (l : Lib B) : l.Shares id l := ⟨.refl l, rfl, rfl⟩

theorem of_eq (h : l' = l) : l.Shares id l' := by
  rw [h]
  exact refl l

theorem symm (h : l.Shares id l') : l'.Shares id l :=
  ⟨h.toCommon.symm, h.record.symm, h.pending.symm⟩

theorem trans (h : l.Shares id l') (h' : l'.Shares id l'') : l.Shares id l'' :=
  ⟨h.toCommon.trans h'.toCommon, h'.record.trans h.record, h'.pending.trans h.pending⟩

theorem agreeOn (h : l.Shares id l') : l.AgreeOn id l' :=
  ⟨h.record, h.count, h.limit, h.policy⟩

/-- Handling a report about another entity. -/
theorem handle (hne : report.entity ≠ id) (l : Lib B) (ans : Answers) :
    l.Shares id (l.handle ans report) :=
  ⟨.handle l ans report, Lib.record_handle_of_ne l ans report hne.symm, by rw [Lib.handle_queue]⟩

/-- A report about the entity is answered alike. -/
theorem absorb (h : l.Shares report.entity l') (now : UInt32) :
    (l.absorb now report).Shares report.entity (l'.absorb now report) := by
  refine ⟨?_, ?_, ?_⟩
  · exact ((Common.handle l _ report).symm.trans h.toCommon).trans (.handle l' _ report)
  · rw [Lib.absorb_eq, Lib.absorb_eq, h.agreeOn.respond_eq now]
    cases l.respond now report with
    | ignored | unknown => exact h.record
    | recovered record sub action =>
        exact (Lib.record_setRecord_self l' _ _).trans (Lib.record_setRecord_self l _ _).symm
  · rw [Lib.absorb, Lib.absorb, Lib.handle_queue, Lib.handle_queue, h.pending]

/-- Only the reports about the entity matter to it. -/
theorem foldl_reportsOf (l : Lib B) (reports : List FailureReport) :
    (reports.foldl (Lib.absorb now) l).Shares id
      ((reportsOf id reports).foldl (Lib.absorb now) l) := by
  suffices hfold : ∀ l l' : Lib B, l.Shares id l' → (reports.foldl (Lib.absorb now) l).Shares id
      ((reportsOf id reports).foldl (Lib.absorb now) l') from hfold l l (refl l)
  induction reports with
  | nil => exact fun l l' h ↦ h
  | cons report reports ih =>
      intro l l' h
      by_cases hentity : report.entity = id
      · subst hentity
        rw [reportsOf, List.filter_cons_of_pos (by simp), List.foldl_cons, List.foldl_cons]
        exact ih _ _ (h.absorb now)
      · rw [reportsOf, List.filter_cons_of_neg (by simpa using hentity), List.foldl_cons]
        exact ih _ _ ((handle hentity l _).symm.trans h)

theorem foldl_absorb (h : l.Shares id l')
    (hreports : reportsOf id reports' = reportsOf id reports) :
    (reports.foldl (Lib.absorb now) l).Shares id (reports'.foldl (Lib.absorb now) l') := by
  have hself : ∀ own : List FailureReport, (∀ report ∈ own, report.entity = id) →
      (own.foldl (Lib.absorb now) l).Shares id (own.foldl (Lib.absorb now) l') := by
    intro own hown
    induction own generalizing l l' with
    | nil => exact h
    | cons report own ih =>
        obtain rfl := hown report List.mem_cons_self
        exact ih (h.absorb now) fun report' hreport' ↦
          hown report' (List.mem_cons_of_mem _ hreport')
  refine (foldl_reportsOf l reports).trans (.trans ?_ (foldl_reportsOf l' reports').symm)
  rw [hreports]
  exact hself _ fun report hreport ↦ by simpa using (List.mem_filter.mp hreport).2

theorem unqueued (h : l.Shares id l') : l.unqueued.Shares id l'.unqueued :=
  ⟨⟨h.count, h.limit, h.desc, h.policy, h.subCount, h.enabled, h.config⟩, h.record, rfl⟩

theorem of_unqueued (h : l.unqueued.Shares id l'.unqueued)
    (hpending : reportsOf id l'.queue.pending = reportsOf id l.queue.pending) : l.Shares id l' :=
  ⟨⟨h.count, h.limit, h.desc, h.policy, h.subCount, h.enabled, h.config⟩, h.record, hpending⟩

end Lib.Shares

/-! ## Ticks and scans -/

/-- The reports of a watchdog scan. -/
def Lib.overdue (l : Lib B) (now : UInt32) : List FailureReport :=
  (l.dueFrom now (heartbeatMaxAgeMs l.config) 0).map fun id ↦ watchdogReport B id now

theorem Lib.Shares.overdue {l l' : Lib B} (h : l.Shares id l') (now : UInt32) :
    reportsOf id (l'.overdue now) = reportsOf id (l.overdue now) := by
  have hreports : ∀ l : Lib B, reportsOf id (l.overdue now) =
      (List.replicate (if id ∈ l.dueFrom now (heartbeatMaxAgeMs l.config) 0 then 1 else 0) id).map
        fun id ↦ watchdogReport B id now := by
    intro l
    have hnodup : (l.dueFrom now (heartbeatMaxAgeMs l.config) 0).Nodup :=
      Lib.pairwise_dueFrom.nodup
    rw [← hnodup.count, ← List.filter_eq, reportsOf, Lib.overdue, List.filter_map]
    rfl
  have hdue : id ∈ l'.dueFrom now (heartbeatMaxAgeMs l'.config) 0 ↔
      id ∈ l.dueFrom now (heartbeatMaxAgeMs l.config) 0 := by
    rw [Lib.mem_dueFrom, Lib.mem_dueFrom, h.count, h.config, watchdogDue_congr h.limit h.record]
  rw [hreports, hreports, if_congr hdue rfl rfl]

theorem Twins.foldl_scanned {s s' : State B} (h : Twins s s') (now : UInt32)
    (ids : List EntityId) :
    Twins (Fdir.handleAll s (ids.map fun id ↦ watchdogReport B id now))
      (ids.foldl (scanned now) s') := by
  induction ids generalizing s s' with
  | nil => exact h
  | cons id ids ih =>
      have hleft : Twins s' (Fdir.syncExit s') :=
        .of_idle h.right (silent_syncExit s') (by rw [syncExit_lib])
      have hhandled := (h.trans hleft).handleFailure (watchdogReport B id now)
      have hscanned : Twins _ (scanned now s' id) := .of_idle hhandled.right (silent_syncEnter _)
        (by rw [scanned, syncEnter_lib])
      exact ih (hhandled.trans hscanned)

namespace Steady

variable {s : State B}

/-- A scan handles the reports of what is due when it starts. -/
theorem checkWatchdogs_eq (h : Steady s) :
    Steady (checkWatchdogs s) ∧ (checkWatchdogs s).world.clock = s.world.clock ∧
      (checkWatchdogs s).lib.unqueued = (s.lib.overdue (UInt32.ofNat s.world.clock)).foldl
        (Lib.absorb (UInt32.ofNat s.world.clock)) s.lib.unqueued := by
  have hnow := getNowMs_fst_of_stopped h.sound.ready h.stopped
  have hentered : Twins s (syncEnter (supervisionEnabled (getNowMs s).2).2) :=
    .of_idle h ((silent_getNowMs s).trans ((silent_supervisionEnabled _).trans
      (silent_syncEnter _))) (by rw [syncEnter_lib, supervisionEnabled_lib, getNowMs_lib])
  have hscanned := hentered.foldl_scanned (getNowMs s).1
    (s.lib.dueFrom (getNowMs s).1 (heartbeatMaxAgeMs s.lib.config) 0)
  have hdone : Twins (Fdir.handleAll s ((s.lib.dueFrom (getNowMs s).1
      (heartbeatMaxAgeMs s.lib.config) 0).map fun id ↦ watchdogReport B id (getNowMs s).1))
      (Fdir.checkWatchdogs s) := by
    rw [(checkWatchdogs_swept h.sound h.enabled).1]
    exact hscanned.trans (.of_idle hscanned.right (silent_syncExit _) (by rw [syncExit_lib]))
  obtain ⟨-, hclock, hlib⟩ := h.handleAll
    ((s.lib.dueFrom (getNowMs s).1 (heartbeatMaxAgeMs s.lib.config) 0).map fun id ↦
      watchdogReport B id (getNowMs s).1)
  refine ⟨hdone.right, hdone.clock.trans hclock, hdone.lib.trans ?_⟩
  rw [hlib, hnow]
  rfl

/-- A tick handles what is pending and then what is due. -/
theorem supervisorTick_eq (h : Steady s) (hq : s.lib.queue.Valid) :
    let now := UInt32.ofNat s.world.clock
    let drained := s.lib.queue.pending.foldl (Lib.absorb now) s.lib.unqueued
    Steady (supervisorTick s) ∧ (supervisorTick s).world.clock = s.world.clock ∧
      (supervisorTick s).lib.unqueued = (drained.overdue now).foldl (Lib.absorb now) drained := by
  intro now drained
  obtain ⟨s', hdrains, htick, -⟩ := supervisorTick_drains h.sound h.enabled hq
  have hasked : Twins s (supervisionEnabled s).2 :=
    .of_idle h (silent_supervisionEnabled s) (by rw [supervisionEnabled_lib])
  have hdrained := (hasked.handleAll s.lib.queue.pending).trans (hdrains.twins hasked.right)
  obtain ⟨-, hclock, hlib⟩ := h.handleAll s.lib.queue.pending
  have hclock' : s'.world.clock = s.world.clock := hdrained.clock.trans hclock
  have hlib' : s'.lib.unqueued = drained := hdrained.lib.trans hlib
  obtain ⟨hsteady, hclock'', hlib''⟩ := hdrained.right.checkWatchdogs_eq
  rw [htick]
  refine ⟨hsteady, hclock''.trans hclock', hlib''.trans ?_⟩
  have hoverdue : s'.lib.overdue (UInt32.ofNat s'.world.clock) = drained.overdue now := by
    rw [hclock', ← hlib']
    rfl
  rw [hoverdue, hclock', hlib']

end Steady

/-! ## Calls about others -/

/-- The calls that act on all entities or on a new one. -/
def Call.shared : Call → Bool
  | .entityRegister _ _ | .subsystemRegister _ _ | .setSupervisionEnabled _ | .supervisorTick
  | .checkWatchdogs => true
  | _ => false

/-- The entity a call is about. -/
def Call.subject? : Call → Option EntityId
  | .handleFailure report | .submitFailure report => report.map FailureReport.entity
  | .reportFault entity _ _ _ | .reportFaultEx entity _ _ _ _ | .heartbeatNotify entity
  | .healthSet entity _ _ _ | .healthReset entity | .workerMayRun entity => some entity
  | _ => none

section Others

variable {s : State B} {other : EntityId}

theorem Lib.Shares.of_queue {l : Lib B} {queue : FailureQueue B.failureQueueCap}
    (hpending : reportsOf id queue.pending = reportsOf id l.queue.pending) :
    l.Shares id { l with queue := queue } :=
  ⟨.of_subsystems_eq rfl rfl rfl rfl rfl rfl, rfl, hpending⟩

theorem reportsOf_put {cap : ℕ} {q : FailureQueue cap} (hq : q.Valid) (hcap : cap ≤ 255)
    {report : FailureReport} (hne : report.entity ≠ id) :
    reportsOf id (q.putUnsafe report).2.pending = reportsOf id q.pending := by
  rw [Deferred.pending_putUnsafe hq hcap]
  split
  · simp [reportsOf, List.filter_append, hne]
  · rfl

/-- A write to the health of another entity. -/
theorem Lib.Shares.of_health {l : Lib B} {health : HealthTable}
    (hlimit : health.entityLimit = l.health.entityLimit)
    (hsnapshot : health.health id = l.health.health id)
    (hreason : health.latchedReason id = l.health.latchedReason id)
    (hlatched : health.faultLatched id = l.health.faultLatched id) :
    l.Shares id { l with health := health } := by
  refine ⟨.of_subsystems_eq rfl hlimit rfl rfl rfl rfl, ?_, rfl⟩
  simp only [Lib.record, hsnapshot, hreason, hlatched]

theorem heartbeatNotify_shares (hne : other ≠ id) :
    s.lib.Shares id (heartbeatNotify s other).lib := by
  simp only [heartbeatNotify, syncEnter_lib]
  split
  · exact .of_eq (by simp)
  · simp only [syncExit_lib, State.write_lib, stamp_lib, getNowMs_lib, syncEnter_lib,
      HealthTable.heartbeat]
    split
    · exact .refl _
    · exact .of_health rfl (Function.update_of_ne hne.symm _ _) rfl rfl

theorem setUnsafe_shares (hne : other ≠ id) (l : Lib B) (health : Health) (errorCode : UInt16)
    (detail : CStr) :
    l.Shares id { l with health := l.health.setUnsafe other health errorCode detail } := by
  simp only [HealthTable.setUnsafe]
  split
  · exact .refl l
  · exact .of_health rfl (Function.update_of_ne hne.symm _ _) rfl rfl

theorem reportFaultImpl_shares (hq : s.lib.queue.Valid) (hcap : B.failureQueueCap ≤ 255)
    (hne : other ≠ id) (reason : Reason) (errorCode : UInt16) (detail : Option CStr)
    (flags : UInt8) :
    s.lib.Shares id (reportFaultImpl s other reason errorCode detail flags).2.lib := by
  have hreported := reportFaultImpl_reported s other reason errorCode detail flags
  generalize (reportFaultImpl s other reason errorCode detail flags).1 = status at hreported
  generalize (reportFaultImpl s other reason errorCode detail flags).2.lib = l at hreported ⊢
  cases hreported with
  | suppressed => exact .refl _
  | rejected report _ hput =>
      refine .of_queue ?_
      rw [Deferred.pending_putUnsafe hq hcap, if_neg hput]
  | accepted report detail hentity =>
      subst hentity
      exact (Lib.Shares.of_queue (reportsOf_put hq hcap hne)).trans (setUnsafe_shares hne _ _ _ _)

theorem handleFailure_shares (hs : s.lib.Aligned) {report : FailureReport}
    (hne : report.entity ≠ id) : s.lib.Shares id (handleFailure s (some report)).lib := by
  by_cases henabled : s.lib.supervisionEnabled = 0
  · exact .of_eq (handleFailure_of_disabled henabled _)
  · rw [handleFailure_lib s hs henabled]
    exact .handle hne s.lib _

theorem submitFailure_lib (s : State B) (report : FailureReport) :
    (submitFailure s (some report)).2.lib = if s.lib.supervisionEnabled = 0 then s.lib
      else { s.lib with queue := (s.lib.queue.putUnsafe report).2 } := by
  by_cases henabled : s.lib.supervisionEnabled = 0
  · simp [submitFailure, henabled]
  · simp only [submitFailure, supervisionEnabled_fst, if_neg henabled]
    split <;> simp [failureQueuePut_lib]

theorem Mark.apply_shares (mark : Mark) (l : Lib B) (sub : SubsystemId) :
    l.Shares id { l with subsystems := mark.apply l.subsystems sub } := by
  have hflags : ∃ f, SubsystemTable.Flags f ∧ ∀ t sub, mark.apply t sub = t.updateSlot sub f := by
    cases mark with
    | available =>
        exact ⟨fun slot ↦ { slot with available := true, degraded := false },
          ⟨fun _ ↦ rfl, fun _ ↦ rfl⟩, fun _ _ ↦ rfl⟩
    | unavailable =>
        exact ⟨fun slot ↦ { slot with available := false, degraded := true },
          ⟨fun _ ↦ rfl, fun _ ↦ rfl⟩, fun _ _ ↦ rfl⟩
    | degraded =>
        exact ⟨fun slot ↦ { slot with degraded := true }, ⟨fun _ ↦ rfl, fun _ ↦ rfl⟩,
          fun _ _ ↦ rfl⟩
  obtain ⟨f, hf, hmark⟩ := hflags
  rw [hmark]
  exact ⟨⟨rfl, rfl, fun _ ↦ rfl, SubsystemTable.policy_updateSlot _ hf sub,
    SubsystemTable.updateSlot_subCount _ _, rfl, rfl⟩, rfl, rfl⟩

theorem markSubsystem_shares (mark : Mark) (phase : Phase) (detail : CStr) (sub : SubsystemId) :
    s.lib.Shares id (markSubsystem mark.apply phase detail s sub).lib := by
  simp only [markSubsystem, syncEnter_lib]
  split
  · simp only [syncExit_lib, emitSubsystemState_lib, State.write_lib, syncEnter_lib]
    exact mark.apply_shares s.lib sub
  · exact .of_eq (by simp)

theorem Lib.Shares.of_mode (l : Lib B) (mode : Mode) : l.Shares id { l with mode := mode } :=
  ⟨.of_subsystems_eq rfl rfl rfl rfl rfl rfl, rfl, rfl⟩

/-- A call about another entity, about subsystems or about the mode. -/
theorem after_shares (hs : s.lib.Sound) (hq : s.lib.queue.Valid) (hcap : B.failureQueueCap ≤ 255)
    {c : Call} (hshared : c.shared = false) (hsubject : c.subject? ≠ some id) :
    s.lib.Shares id (after s c).lib := by
  have hne : ∀ other, some other ≠ some id → other ≠ id := fun other h heq ↦ h (by rw [heq])
  cases c with
  | query q => exact .of_eq (query_lib s q)
  | entityRegister | subsystemRegister | setSupervisionEnabled | supervisorTick | checkWatchdogs =>
      cases hshared
  | setSystemMode mode =>
      simp only [after, Call.exec, setSystemMode]
      split
      · exact .of_eq (by simp)
      · exact .of_eq (by simp)
      · simp only [syncExit_lib, setMode_lib, syncEnter_lib]
        exact .of_mode _ _
  | deescalateSystemMode =>
      simp only [after, Call.exec, deescalateSystemMode, syncEnter_lib]
      split
      · simp only [syncExit_lib, setMode_lib, syncEnter_lib]
        exact .of_mode _ _
      split
      · simp only [syncExit_lib, setMode_lib, syncEnter_lib]
        exact .of_mode _ _
      · exact .of_eq (by simp)
  | enterDegradedMode =>
      simp only [after, Call.exec, enterDegradedMode, syncExit_lib, enterDegradedModeUnsafe_lib,
        syncEnter_lib]
      exact .of_mode _ _
  | enterSafeMode =>
      simp only [after, Call.exec, enterSafeMode, syncExit_lib, enterSafeModeUnsafe_lib,
        syncEnter_lib]
      exact .of_mode _ _
  | reassessSystemMode =>
      simp only [after, Call.exec, reassessSystemMode, syncExit_lib, evaluateDualPath_lib,
        syncEnter_lib, Lib.review_eq]
      exact .of_mode _ _
  | tryReboot reason =>
      simp only [after, Call.exec, tryReboot, syncExit_lib, tryRebootUnsafe_lib, syncEnter_lib]
      exact .of_mode _ _
  | logNote note => exact .of_eq (by simp [after, Call.exec, logNote])
  | logQueueOverflow => exact .of_eq (by simp [after, Call.exec, logQueueOverflow])
  | handleFailure report =>
      cases report with
      | none => exact .refl _
      | some report => exact handleFailure_shares hs.limit_eq (hne _ hsubject)
  | submitFailure report =>
      cases report with
      | none => exact .refl _
      | some report =>
          simp only [after, Call.exec, submitFailure_lib]
          split
          · exact .refl _
          · exact .of_queue (reportsOf_put hq hcap (hne _ hsubject))
  | reportFault entity reason errorCode detail =>
      exact reportFaultImpl_shares hq hcap (hne _ hsubject) reason errorCode detail _
  | reportFaultEx entity reason errorCode detail flags =>
      exact reportFaultImpl_shares hq hcap (hne _ hsubject) reason errorCode detail flags
  | heartbeatNotify other => exact heartbeatNotify_shares (hne _ hsubject)
  | healthSet other health errorCode detail =>
      simp only [after, Call.exec, healthSet, syncEnter_lib]
      split
      · exact .of_eq (by simp)
      · simp only [syncExit_lib, healthSetUnsafe, State.write_lib, syncEnter_lib]
        exact setUnsafe_shares (hne _ hsubject) _ _ _ _
  | healthReset other =>
      simp only [after, Call.exec, healthReset, syncEnter_lib]
      split
      · exact .of_eq (by simp)
      · next hknown =>
        rw [syncExit_lib, healthResetUnsafe_lib (by simpa using UInt8.not_le.mp hknown),
          syncEnter_lib]
        simp only [HealthTable.resetUnsafe]
        split
        · exact .refl _
        · exact .of_health rfl (Function.update_of_ne (hne _ hsubject).symm _ _) rfl rfl
  | subsystemMarkAvailable sub =>
      simp only [after, Call.exec, subsystemMarkAvailable]
      exact markSubsystem_shares .available _ _ sub
  | subsystemMarkUnavailable sub =>
      simp only [after, Call.exec, subsystemMarkUnavailable]
      exact markSubsystem_shares .unavailable _ _ sub
  | subsystemMarkDegraded sub =>
      simp only [after, Call.exec, subsystemMarkDegraded]
      exact markSubsystem_shares .degraded _ _ sub
  | subsystemOnEntityExhausted => exact .of_eq (by simp [after, Call.exec])
  | workerMayRun other =>
      simp only [after, Call.exec, workerMayRun, systemMode_fst]
      split
      · have hbeat := heartbeatNotify_shares (s := (systemMode s).2) (hne _ hsubject)
        rwa [systemMode_lib] at hbeat
      · exact .of_eq (by rw [entityMayRun_snd]; simp)

end Others

end Fdir
