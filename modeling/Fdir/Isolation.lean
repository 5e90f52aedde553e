import Fdir.Foundation.Run
import Fdir.Shares

/-!
# An entity's fate is its own

When the callbacks have no memory and time passes between the calls alone, taking all calls
about other entities, subsystems and the mode out of a run leaves the record of an entity as it
is, as long as the queue had room for the reports about it.
-/

namespace Fdir

open Foundation

variable {B : Build} {id : EntityId}

/-! ## Calls about the entity -/

/-- Between two calls: the library is bound, the callbacks have no memory and readings take no
time. -/
structure Predictable (s : State B) : Prop where
  sound : s.lib.Sound
  valid : s.lib.queue.Valid
  regular : s.lib.Regular
  stopped : s.ClockStopped

theorem Predictable.steady {s : State B} (h : Predictable s)
    (henabled : s.lib.supervisionEnabled ≠ 0) : Steady s :=
  ⟨h.sound, henabled, h.regular, h.stopped⟩

/-- `t` is `s` without all that was about other entities, as far as entity `id` is
concerned. -/
structure Apart (id : EntityId) (s t : State B) : Prop where
  left : Predictable s
  right : Predictable t
  clock : t.world.clock = s.world.clock
  shares : s.lib.Shares id t.lib
  own : ∀ other, other ≠ id → reportsOf other t.lib.queue.pending = []

namespace Lib.Shares

variable {l l' : Lib B}

theorem snapshot (h : l.Shares id l') : l'.health.health id = l.health.health id :=
  congrArg Record.snapshot h.record

theorem slot (h : l.Shares id l') : l'.entities id = l.entities id := congrArg Record.slot h.record

theorem latchedReason (h : l.Shares id l') :
    l'.health.latchedReason id = l.health.latchedReason id := congrArg Record.latchedReason h.record

theorem faultLatched (h : l.Shares id l') :
    l'.health.faultLatched id = l.health.faultLatched id := congrArg Record.faultLatched h.record

/-- The same write to the health of the entity. -/
theorem write (h : l.Shares id l') {health health' : HealthTable}
    (hlimit : health.entityLimit = l.health.entityLimit)
    (hlimit' : health'.entityLimit = l'.health.entityLimit)
    (hsnapshot : health'.health id = health.health id)
    (hreason : health.latchedReason = l.health.latchedReason)
    (hreason' : health'.latchedReason = l'.health.latchedReason)
    (hlatched : health.faultLatched = l.health.faultLatched)
    (hlatched' : health'.faultLatched = l'.health.faultLatched) :
    Lib.Shares id { l with health := health } { l' with health := health' } := by
  refine ⟨⟨h.count, hlimit'.trans (h.limit.trans hlimit.symm), h.desc, h.policy, h.subCount,
    h.enabled, h.config⟩, ?_, h.pending⟩
  simp only [Lib.record, h.slot, hsnapshot, hreason, hreason', hlatched, hlatched',
    h.latchedReason, h.faultLatched]

theorem heartbeat (h : l.Shares id l') (now : UInt32) :
    Lib.Shares id { l with health := l.health.heartbeat id now }
      { l' with health := l'.health.heartbeat id now } := by
  simp only [HealthTable.heartbeat, h.limit]
  split
  · exact h
  · refine h.write rfl h.limit.symm ?_ rfl rfl rfl rfl
    simp only [Function.update_self, h.snapshot]

theorem setUnsafe (h : l.Shares id l') (health : Health) (errorCode : UInt16) (detail : CStr) :
    Lib.Shares id { l with health := l.health.setUnsafe id health errorCode detail }
      { l' with health := l'.health.setUnsafe id health errorCode detail } := by
  simp only [HealthTable.setUnsafe, h.limit]
  split
  · exact h
  · refine h.write rfl h.limit.symm ?_ rfl rfl rfl rfl
    simp only [Function.update_self, h.snapshot]

theorem resetUnsafe (h : l.Shares id l') (now : UInt32) :
    Lib.Shares id { l with health := l.health.resetUnsafe id now }
      { l' with health := l'.health.resetUnsafe id now } := by
  simp only [HealthTable.resetUnsafe, h.limit]
  split
  · exact h
  · refine h.write rfl h.limit.symm ?_ rfl rfl rfl rfl
    simp only [Function.update_self]

/-- A report about the entity finds room in both queues. -/
theorem put (h : l.Shares id l') (hq : l.queue.Valid) (hq' : l'.queue.Valid)
    (hcap : B.failureQueueCap ≤ 255) (hroom : l.queue.pending.length < B.failureQueueCap)
    (hroom' : l'.queue.pending.length < B.failureQueueCap) (report : FailureReport) :
    Lib.Shares id { l with queue := (l.queue.putUnsafe report).2 }
      { l' with queue := (l'.queue.putUnsafe report).2 } := by
  refine ⟨⟨h.count, h.limit, h.desc, h.policy, h.subCount, h.enabled, h.config⟩, h.record, ?_⟩
  rw [(FailureQueue.putUnsafe_of_room hq hroom (hroom.trans_le hcap) report).2,
    (FailureQueue.putUnsafe_of_room hq' hroom' (hroom'.trans_le hcap) report).2, reportsOf,
    reportsOf, List.filter_append, List.filter_append]
  exact congrArg (· ++ _) h.pending

end Lib.Shares

theorem reportFaultImpl_lib (s : State B) (entity : EntityId) (reason : Reason)
    (errorCode : UInt16) (detail : Option CStr) (flags : UInt8)
    (hroom : s.lib.queue.pending.length < B.failureQueueCap) :
    (reportFaultImpl s entity reason errorCode detail flags).2.lib =
      if s.lib.passes entity reason then s.lib.accept
        (faultReport s entity reason errorCode detail flags) (copyDetail B.detailSize detail)
      else s.lib := by
  simp only [reportFaultImpl, syncEnter_lib]
  by_cases henabled : s.lib.supervisionEnabled = 0
  · simp [henabled, Lib.passes]
  by_cases hlatch : s.lib.health.faultIsLatchedUnsafe entity reason = true
  · simp [henabled, hlatch, Lib.passes]
  by_cases hfailed : s.lib.health.snapshotFailed entity = true
  · simp [henabled, hlatch, hfailed, Lib.passes]
  rw [if_neg henabled, if_neg hlatch, if_neg hfailed]
  rw [Bool.not_eq_true] at hlatch hfailed
  have hput := fun report ↦ (FailureQueue.putUnsafe_fst_eq_zero_iff s.lib.queue report).mpr hroom
  simp only [enqueueFailureUnsafe, getNowMs_lib, syncEnter_lib, hput, ne_eq, not_true_eq_false,
    if_false, syncExit_lib, healthSetUnsafe, State.write_lib]
  rw [if_pos ⟨henabled, hlatch, hfailed⟩]
  rfl

theorem healthSet_lib (s : State B) (id : EntityId) (health : Health) (errorCode : UInt16)
    (detail : Option CStr) : (healthSet s id health errorCode detail).lib =
      { s.lib with
        health :=
          s.lib.health.setUnsafe id health errorCode (copyDetail B.detailSize detail) } := by
  simp only [healthSet, syncEnter_lib]
  split
  · next hunknown => simp [HealthTable.setUnsafe, hunknown]
  · simp only [syncExit_lib, healthSetUnsafe, State.write_lib, syncEnter_lib]

namespace Predictable

variable {s s' : State B}

theorem reading (h : Predictable s) {P : Obs → Prop} (hworld : Evolves P s s') :
    (getNowMs s').1 = UInt32.ofNat s.world.clock := by
  rw [getNowMs_fst_of_stopped (hworld.ready.trans h.sound.ready) (hworld.clockStopped h.stopped),
    hworld.clock_const h.stopped]

theorem heartbeatNotify_lib (h : Predictable s) (id : EntityId) : (heartbeatNotify s id).lib =
    { s.lib with health := s.lib.health.heartbeat id (UInt32.ofNat s.world.clock) } := by
  simp only [heartbeatNotify, syncEnter_lib]
  split
  · next hunknown => simp [HealthTable.heartbeat, hunknown]
  · simp only [syncExit_lib, State.write_lib, stamp_lib, getNowMs_lib, syncEnter_lib,
      h.reading (silent_syncEnter s)]

theorem healthReset_lib (h : Predictable s) (id : EntityId) : (healthReset s id).lib =
    { s.lib with health := s.lib.health.resetUnsafe id (UInt32.ofNat s.world.clock) } := by
  simp only [healthReset, syncEnter_lib]
  split
  · next hunknown => simp [HealthTable.resetUnsafe, hunknown]
  · next hknown =>
    rw [syncExit_lib, healthResetUnsafe_lib (by simpa using UInt8.not_le.mp hknown),
      syncEnter_lib, h.reading (silent_syncEnter s)]

theorem faultReport_eq (h : Predictable s) (entity : EntityId) (reason : Reason)
    (errorCode : UInt16) (detail : Option CStr) (flags : UInt8) :
    faultReport s entity reason errorCode detail flags =
      ⟨entity, reason, errorCode, copyDetail B.detailSize detail, UInt32.ofNat s.world.clock,
        flags⟩ := by
  rw [faultReport, h.reading (silent_syncEnter s)]

end Predictable

namespace Apart

variable {s t : State B}

theorem passes_iff (h : Apart id s t) (reason : Reason) :
    t.lib.passes id reason ↔ s.lib.passes id reason := by
  have hshares := h.shares
  simp only [Lib.passes, hshares.enabled, HealthTable.faultIsLatchedUnsafe,
    HealthTable.snapshotFailed, HealthTable.snapshot, hshares.limit, hshares.snapshot,
    hshares.latchedReason, hshares.faultLatched]

/-- The queue of the smaller run has room if that of the larger one has. -/
theorem room (h : Apart id s t) (hroom : s.lib.queue.pending.length < B.failureQueueCap) :
    t.lib.queue.pending.length < B.failureQueueCap := by
  have hown : reportsOf id t.lib.queue.pending = t.lib.queue.pending := by
    refine List.filter_eq_self.mpr fun report hreport ↦ decide_eq_true ?_
    by_contra hne
    have hmem : report ∈ reportsOf report.entity t.lib.queue.pending :=
      List.mem_filter.mpr ⟨hreport, decide_eq_true rfl⟩
    rw [h.own report.entity hne] at hmem
    cases hmem
  rw [← hown, h.shares.pending]
  exact (List.length_filter_le _ _).trans_lt hroom

theorem reportFaultImpl (h : Apart id s t) (hcap : B.failureQueueCap ≤ 255)
    (hroom : s.lib.queue.pending.length < B.failureQueueCap) (reason : Reason)
    (errorCode : UInt16) (detail : Option CStr) (flags : UInt8) :
    Lib.Shares id (reportFaultImpl s id reason errorCode detail flags).2.lib
      (reportFaultImpl t id reason errorCode detail flags).2.lib := by
  rw [reportFaultImpl_lib s _ _ _ _ _ hroom, reportFaultImpl_lib t _ _ _ _ _ (h.room hroom),
    h.left.faultReport_eq, h.right.faultReport_eq, h.clock, if_congr (h.passes_iff reason) rfl rfl]
  split
  · exact (h.shares.put h.left.valid h.right.valid hcap hroom (h.room hroom) _).setUnsafe _ _ _
  · exact h.shares

theorem handleFailure (h : Apart id s t) {report : FailureReport} (hentity : report.entity = id) :
    Lib.Shares id (handleFailure s (some report)).lib (handleFailure t (some report)).lib := by
  subst hentity
  have hlimit := h.left.sound.limit_eq
  have hlimit' := h.right.sound.limit_eq
  by_cases henabled : s.lib.supervisionEnabled = 0
  · rw [handleFailure_of_disabled henabled,
      handleFailure_of_disabled (h.shares.enabled.trans henabled)]
    exact h.shares
  · have henabled' : t.lib.supervisionEnabled ≠ 0 := by rwa [h.shares.enabled]
    obtain ⟨-, -, hlib⟩ := (h.left.steady henabled).handleFailure report
    obtain ⟨-, -, hlib'⟩ := (h.right.steady henabled').handleFailure report
    refine .of_unqueued ?_ ?_
    · rw [hlib, hlib', h.clock]
      exact h.shares.unqueued.absorb _
    · rw [handleFailure_lib s hlimit henabled, handleFailure_lib t hlimit' henabled',
        Lib.handle_queue, Lib.handle_queue, h.shares.pending]

/-- A call about the entity does the same in both runs. -/
theorem after_self (h : Apart id s t) (hcap : B.failureQueueCap ≤ 255) {c : Call}
    (hshared : c.shared = false) (hsubject : c.subject? = some id) (hrun : c ≠ .workerMayRun id)
    (hroom : c.defers → s.lib.queue.pending.length < B.failureQueueCap) :
    (after s c).lib.Shares id (after t c).lib := by
  cases c with
  | handleFailure report =>
      cases report with
      | none => cases hsubject
      | some report => exact h.handleFailure (Option.some.inj hsubject)
  | submitFailure report =>
      cases report with
      | none => cases hsubject
      | some report =>
          simp only [after, Call.exec, submitFailure_lib]
          by_cases henabled : s.lib.supervisionEnabled = 0
          · rw [if_pos henabled, if_pos (h.shares.enabled.trans henabled)]
            exact h.shares
          · rw [if_neg henabled, if_neg (by rwa [h.shares.enabled])]
            exact h.shares.put h.left.valid h.right.valid hcap (hroom trivial)
              (h.room (hroom trivial)) report
  | reportFault entity reason errorCode detail =>
      obtain rfl := Option.some.inj hsubject
      exact h.reportFaultImpl hcap (hroom trivial) reason errorCode detail _
  | reportFaultEx entity reason errorCode detail flags =>
      obtain rfl := Option.some.inj hsubject
      exact h.reportFaultImpl hcap (hroom trivial) reason errorCode detail flags
  | heartbeatNotify entity =>
      obtain rfl := Option.some.inj hsubject
      simp only [after, Call.exec, h.left.heartbeatNotify_lib, h.right.heartbeatNotify_lib, h.clock]
      exact h.shares.heartbeat _
  | healthSet entity health errorCode detail =>
      obtain rfl := Option.some.inj hsubject
      simp only [after, Call.exec, healthSet_lib]
      exact h.shares.setUnsafe _ _ _
  | healthReset entity =>
      obtain rfl := Option.some.inj hsubject
      simp only [after, Call.exec, h.left.healthReset_lib, h.right.healthReset_lib, h.clock]
      exact h.shares.resetUnsafe _
  | workerMayRun entity =>
      obtain rfl := Option.some.inj hsubject
      exact absurd rfl hrun
  | _ => cases hsubject

end Apart

/-! ## Calls about all entities -/

section Shared

variable {s t : State B}

theorem Predictable.entityRegister_lib (h : Predictable s) {desc : EntityDesc}
    (hroom : s.lib.entityCount.toNat < B.entityCap) (hexhausted : desc.onExhausted ≠ .restart) :
    (entityRegister s (some desc) true).2.2.lib =
      s.lib.enroll desc (UInt32.ofNat s.world.clock) := by
  let enrolled := (syncEnter s).write fun l ↦
    { l.setSlot s.lib.entityCount (registeredSlot B desc) with
      entityCount := l.entityCount + 1
      health := l.health.setEntityLimit (l.entityCount + 1) }
  have hcap := B.entityCap_le
  have hnext : s.lib.entityCount < s.lib.entityCount + 1 := by
    rw [UInt8.lt_iff_toNat_lt, UInt8.toNat_add, UInt8.toNat_one]
    omega
  have hid : s.lib.entityCount < enrolled.lib.health.entityLimit := by
    simpa [enrolled, HealthTable.setEntityLimit] using hnext
  have hworld : Evolves Obs.silent s enrolled :=
    (silent_syncEnter s).trans (.of_write _ _ rfl fun _ ↦ rfl)
  have hrun : (entityRegister s (some desc) true).2.2.lib =
      (healthResetUnsafe enrolled s.lib.entityCount).lib := by
    simp only [entityRegister, syncEnter_lib, if_neg (Nat.not_le.mpr hroom), if_neg hexhausted,
      syncExit_lib]
    rfl
  rw [hrun, healthResetUnsafe_lib hid, h.reading hworld]
  simp [enrolled, Lib.enroll, Lib.setSlot, HealthTable.setEntityLimit, HealthTable.resetUnsafe,
    UInt8.not_le.mpr hnext]

theorem Lib.Shares.enroll {l l' : Lib B} (h : l.Shares id l') (desc : EntityDesc) (now : UInt32) :
    (l.enroll desc now).Shares id (l'.enroll desc now) := by
  refine ⟨⟨?_, ?_, fun other ↦ ?_, h.policy, h.subCount, h.enabled, h.config⟩, ?_, h.pending⟩
  · simp only [Lib.enroll, h.count]
  · simp only [Lib.enroll, h.count]
  · simp only [Lib.enroll, h.count, Function.update_apply]
    split
    · rfl
    · exact h.desc other
  · simp only [Lib.record, Lib.enroll, h.count, Function.update_apply, h.slot, h.snapshot,
      h.latchedReason, h.faultLatched]

theorem policy_enrollSubsystem (l : Lib B) (desc : SubsystemDesc) (sub : SubsystemId) :
    (l.enrollSubsystem desc).subsystems.policy sub =
      if l.subsystems.subCount + 1 ≤ sub then none
      else if sub = l.subsystems.subCount then some (registeredSubsystem B desc).desc
      else l.subsystems.policy sub := by
  simp only [SubsystemTable.policy, SubsystemTable.slotOf, Lib.enrollSubsystem]
  by_cases hbeyond : l.subsystems.subCount + 1 ≤ sub
  · simp [hbeyond]
  by_cases hnew : sub = l.subsystems.subCount
  · subst hnew
    simp [hbeyond, registeredSubsystem]
  · have hold : ¬ l.subsystems.subCount ≤ sub := by
      intro hle
      refine hbeyond ?_
      have hne : sub.toNat ≠ l.subsystems.subCount.toNat := fun heq ↦
        hnew (UInt8.toNat_inj.mp heq)
      rw [UInt8.le_iff_toNat_le] at hle ⊢
      rw [UInt8.toNat_add, UInt8.toNat_one]
      omega
    simp [hbeyond, hnew, hold]

theorem Lib.Shares.enrollSubsystem {l l' : Lib B} (h : l.Shares id l') (desc : SubsystemDesc) :
    (l.enrollSubsystem desc).Shares id (l'.enrollSubsystem desc) := by
  refine ⟨⟨h.count, h.limit, h.desc, ?_, ?_, h.enabled, h.config⟩, h.record, h.pending⟩
  · funext sub
    rw [policy_enrollSubsystem, policy_enrollSubsystem, h.subCount, h.policy]
  · simp only [Lib.enrollSubsystem, h.subCount]

theorem Lib.Shares.supervise {l l' : Lib B} (h : l.Shares id l') (enabled : UInt8) :
    (l.supervise enabled).Shares id (l'.supervise enabled) := by
  refine ⟨⟨h.count, h.limit, h.desc, h.policy, h.subCount, rfl, h.config⟩, h.record, ?_⟩
  simp only [Lib.supervise]
  split
  · rfl
  · exact h.pending

theorem Apart.supervisorTick (h : Apart id s t) :
    (supervisorTick s).lib.Shares id (supervisorTick t).lib := by
  by_cases henabled : s.lib.supervisionEnabled = 0
  · simp only [Fdir.supervisorTick, supervisionEnabled_fst, henabled,
      h.shares.enabled.trans henabled, if_true, supervisionEnabled_lib]
    exact h.shares
  · have hleft := h.left.steady henabled
    have hright := h.right.steady (by rwa [h.shares.enabled])
    obtain ⟨-, -, hlib⟩ := hleft.supervisorTick_eq h.left.valid
    obtain ⟨-, -, hlib'⟩ := hright.supervisorTick_eq h.right.valid
    obtain ⟨-, -, -, hempty⟩ := supervisorTick_drains hleft.sound hleft.enabled h.left.valid
    obtain ⟨-, -, -, hempty'⟩ := supervisorTick_drains hright.sound hright.enabled h.right.valid
    refine .of_unqueued ?_ (by rw [hempty, hempty'])
    rw [hlib, hlib', h.clock]
    generalize UInt32.ofNat s.world.clock = now
    have hdrained : Lib.Shares id
        (s.lib.queue.pending.foldl (Lib.absorb now) s.lib.unqueued)
        (t.lib.queue.pending.foldl (Lib.absorb now) t.lib.unqueued) :=
      h.shares.unqueued.foldl_absorb h.shares.pending
    exact hdrained.foldl_absorb (hdrained.overdue _)

theorem Apart.checkWatchdogs (h : Apart id s t) :
    (checkWatchdogs s).lib.Shares id (checkWatchdogs t).lib := by
  by_cases henabled : s.lib.supervisionEnabled = 0
  · simp only [Fdir.checkWatchdogs, supervisionEnabled_fst, getNowMs_lib, henabled,
      h.shares.enabled.trans henabled, if_true, supervisionEnabled_lib]
    exact h.shares
  · have hleft := h.left.steady henabled
    have hright := h.right.steady (by rwa [h.shares.enabled])
    obtain ⟨-, -, hlib⟩ := hleft.checkWatchdogs_eq
    obtain ⟨-, -, hlib'⟩ := hright.checkWatchdogs_eq
    refine .of_unqueued ?_ ?_
    · rw [hlib, hlib', h.clock]
      exact h.shares.unqueued.foldl_absorb (h.shares.overdue _)
    · rw [checkWatchdogs_queue hleft.sound hleft.enabled,
        checkWatchdogs_queue hright.sound hright.enabled, h.shares.pending]

/-- A call about all entities does the same in both runs. -/
theorem Apart.after_shared (h : Apart id s t) {c : Call} (hshared : c.shared = true) :
    (after s c).lib.Shares id (after t c).lib := by
  cases c with
  | entityRegister desc outId =>
      have hiff : t.lib.Registers (.entityRegister desc outId) ↔
          s.lib.Registers (.entityRegister desc outId) := by
        simp only [Lib.Registers, h.shares.count]
      by_cases haccepted : s.lib.Registers (.entityRegister desc outId)
      · obtain ⟨desc, hcall, hroom, hexhausted⟩ := haccepted
        cases hcall
        simp only [after, Call.exec]
        rw [h.left.entityRegister_lib hroom hexhausted,
          h.right.entityRegister_lib (by rwa [h.shares.count]) hexhausted, h.clock]
        exact h.shares.enroll desc _
      · simp only [after, Call.exec]
        rw [entityRegister_of_refused haccepted, entityRegister_of_refused (hiff.not.mpr haccepted)]
        simpa using h.shares
  | subsystemRegister desc outId =>
      by_cases haccepted : s.lib.Enrolls desc outId
      · obtain ⟨hsome, rfl, hroom⟩ := haccepted
        obtain ⟨desc, rfl⟩ := Option.isSome_iff_exists.mp hsome
        simp only [after, Call.exec]
        rw [subsystemRegister_of_room hroom,
          subsystemRegister_of_room (by rwa [h.shares.subCount])]
        simpa using h.shares.enrollSubsystem desc
      · have hrefused : ¬ t.lib.Enrolls desc outId := by
          rwa [Lib.Enrolls, h.shares.subCount]
        simp only [after, Call.exec]
        rw [subsystemRegister_of_refused haccepted, subsystemRegister_of_refused hrefused]
        simpa using h.shares
  | setSupervisionEnabled enabled =>
      simp only [after, Call.exec, setSupervisionEnabled_lib]
      by_cases hsame : s.lib.supervisionEnabled = enabled
      · rw [if_pos hsame, if_pos (h.shares.enabled.trans hsame)]
        exact h.shares
      · rw [if_neg hsame, if_neg (by rwa [h.shares.enabled])]
        exact h.shares.supervise enabled
  | supervisorTick => exact h.supervisorTick
  | checkWatchdogs => exact h.checkWatchdogs
  | _ => cases hshared

theorem Predictable.queue_after_shared (h : Predictable s) {c : Call} (hshared : c.shared = true) :
    (after s c).lib.queue.pending = s.lib.queue.pending ∨ (after s c).lib.queue.pending = [] := by
  cases c with
  | entityRegister desc outId =>
      left
      by_cases haccepted : s.lib.Registers (.entityRegister desc outId)
      · obtain ⟨desc, hcall, hroom, hexhausted⟩ := haccepted
        cases hcall
        simp only [after, Call.exec, h.entityRegister_lib hroom hexhausted]
        rfl
      · simp [after, Call.exec, entityRegister_of_refused haccepted]
  | subsystemRegister desc outId =>
      left
      by_cases haccepted : s.lib.Enrolls desc outId
      · obtain ⟨hsome, rfl, hroom⟩ := haccepted
        obtain ⟨desc, rfl⟩ := Option.isSome_iff_exists.mp hsome
        simp [after, Call.exec, subsystemRegister_of_room hroom, Lib.enrollSubsystem]
      · simp [after, Call.exec, subsystemRegister_of_refused haccepted]
  | setSupervisionEnabled enabled =>
      simp only [after, Call.exec, setSupervisionEnabled_lib, Lib.supervise]
      split
      · exact Or.inl rfl
      · split
        · exact Or.inr rfl
        · exact Or.inl rfl
  | supervisorTick =>
      by_cases henabled : s.lib.supervisionEnabled = 0
      · exact Or.inl (by simp [after, Call.exec, supervisorTick, henabled])
      · obtain ⟨-, -, -, hempty⟩ := supervisorTick_drains h.sound henabled h.valid
        exact Or.inr hempty
  | checkWatchdogs =>
      left
      by_cases henabled : s.lib.supervisionEnabled = 0
      · simp [after, Call.exec, checkWatchdogs, henabled]
      · exact congrArg FailureQueue.pending (checkWatchdogs_queue h.sound henabled)
  | _ => cases hshared

end Shared

/-! ## Runs -/

/-- The callbacks a call registers have no memory. -/
def Call.Blind : Call → Prop
  | .entityRegister (some desc) _ =>
      (∀ callback, desc.restart = some callback → Fdir.Blind callback) ∧
      ∀ callback, desc.decide = some callback → Fdir.Blind callback
  | .subsystemRegister (some desc) _ =>
      ∀ callback, desc.onEntityExhausted = some callback → Fdir.Blind callback
  | _ => True

theorem Lib.Regular.enroll {l : Lib B} (h : l.Regular) {desc : EntityDesc}
    (hrestart : ∀ callback, desc.restart = some callback → Blind callback)
    (hdecide : ∀ callback, desc.decide = some callback → Blind callback) (now : UInt32) :
    (l.enroll desc now).Regular := by
  have hdesc : ∀ id, ((l.enroll desc now).entities id).desc =
      if id = l.entityCount then (registeredSlot B desc).desc else (l.entities id).desc := by
    intro id
    simp only [Lib.enroll, Function.update_apply]
    split <;> rfl
  refine ⟨fun id callback hcallback ↦ ?_, fun id callback hcallback ↦ ?_, h.exhausted⟩
  · rw [hdesc] at hcallback
    split at hcallback
    · exact hrestart callback hcallback
    · exact h.restart id callback hcallback
  · rw [hdesc] at hcallback
    split at hcallback
    · exact hdecide callback hcallback
    · exact h.decide id callback hcallback

theorem Lib.Regular.enrollSubsystem {l : Lib B} (h : l.Regular) {desc : SubsystemDesc}
    (hexhausted : ∀ callback, desc.onEntityExhausted = some callback → Blind callback) :
    (l.enrollSubsystem desc).Regular := by
  refine ⟨h.restart, h.decide, fun sub callback hcallback ↦ ?_⟩
  rw [SubsystemTable.handler_eq, policy_enrollSubsystem] at hcallback
  split at hcallback
  · cases hcallback
  split at hcallback
  · exact hexhausted callback hcallback
  · rw [← SubsystemTable.handler_eq] at hcallback
    exact h.exhausted sub callback hcallback

theorem Predictable.regular_after {s : State B} (h : Predictable s) (hcap : B.failureQueueCap ≤ 255)
    {c : Call} (hblind : c.Blind) : (after s c).lib.Regular := by
  cases hshared : c.shared with
  | false =>
      obtain ⟨other, hother⟩ : ∃ other : EntityId, c.subject? ≠ some other := by
        by_cases hzero : c.subject? = some 0
        · exact ⟨1, by rw [hzero]; decide⟩
        · exact ⟨0, hzero⟩
      exact (after_shares h.sound h.valid hcap hshared hother).regular h.regular
  | true =>
      cases c with
      | entityRegister desc outId =>
          by_cases haccepted : s.lib.Registers (.entityRegister desc outId)
          · obtain ⟨desc, hcall, hroom, hexhausted⟩ := haccepted
            cases hcall
            simp only [after, Call.exec, h.entityRegister_lib hroom hexhausted]
            exact h.regular.enroll hblind.1 hblind.2 _
          · simpa [after, Call.exec, entityRegister_of_refused haccepted] using h.regular
      | subsystemRegister desc outId =>
          by_cases haccepted : s.lib.Enrolls desc outId
          · obtain ⟨hsome, rfl, hroom⟩ := haccepted
            obtain ⟨desc, rfl⟩ := Option.isSome_iff_exists.mp hsome
            simpa [after, Call.exec, subsystemRegister_of_room hroom] using
              h.regular.enrollSubsystem hblind
          · simpa [after, Call.exec, subsystemRegister_of_refused haccepted] using h.regular
      | setSupervisionEnabled enabled =>
          simp only [after, Call.exec, setSupervisionEnabled_lib]
          split
          · exact h.regular
          · exact h.regular.congr (fun _ ↦ rfl) rfl
      | supervisorTick =>
          by_cases henabled : s.lib.supervisionEnabled = 0
          · simpa [after, Call.exec, supervisorTick, henabled] using h.regular
          · exact ((h.steady henabled).supervisorTick_eq h.valid).1.regular
      | checkWatchdogs =>
          by_cases henabled : s.lib.supervisionEnabled = 0
          · simpa [after, Call.exec, checkWatchdogs, henabled] using h.regular
          · exact (h.steady henabled).checkWatchdogs_eq.1.regular
      | _ => cases hshared

theorem Predictable.after {s : State B} (h : Predictable s) (hcap : B.failureQueueCap ≤ 255)
    {c : Call} (hblind : c.Blind) : Predictable (after s c) where
  sound := after_sound h.sound c
  valid := ((after_effects h.sound.limit_eq c).invariant (fun l ↦ l.queue.Valid)
    (fun _ _ _ hvalid heffect ↦ heffect.valid hvalid) h.sound h.valid).2
  regular := h.regular_after hcap hblind
  stopped := (evolves_after h.sound c).clockStopped h.stopped

/-- The calls that are left when all that is about other entities, subsystems or the mode is
taken out. -/
def Call.concerns (id : EntityId) (c : Call) : Bool := c.shared || decide (c.subject? = some id)

namespace Apart

variable {s t : State B}

/-- A call that does not concern the entity is made in one of the runs only. -/
theorem skip (h : Apart id s t) (hcap : B.failureQueueCap ≤ 255) {c : Call} (hblind : c.Blind)
    (hc : c.concerns id = false) : Apart id (after s c) t := by
  rw [Call.concerns, Bool.or_eq_false_iff, decide_eq_false_iff_not] at hc
  have hshares := after_shares h.left.sound h.left.valid hcap hc.1 hc.2
  have hclock := (evolves_after h.left.sound c).clock_const h.left.stopped
  exact ⟨h.left.after hcap hblind, h.right, h.clock.trans hclock.symm,
    hshares.symm.trans h.shares, h.own⟩

/-- A call that concerns the entity is made in both. -/
theorem step (h : Apart id s t) (hcap : B.failureQueueCap ≤ 255) {c : Call} (hblind : c.Blind)
    (hrun : c ≠ .workerMayRun id) (hc : c.concerns id = true)
    (hroom : c.defers → c.subject? = some id → s.lib.queue.pending.length < B.failureQueueCap) :
    Apart id (after s c) (after t c) := by
  have hclock := (evolves_after h.left.sound c).clock_const h.left.stopped
  have hclock' := (evolves_after h.right.sound c).clock_const h.right.stopped
  refine ⟨h.left.after hcap hblind, h.right.after hcap hblind,
    hclock'.trans (h.clock.trans hclock.symm), ?_, fun other hother ↦ ?_⟩
  · cases hshared : c.shared with
    | true => exact h.after_shared hshared
    | false =>
        have hsubject : c.subject? = some id := by
          simpa [Call.concerns, hshared] using hc
        exact h.after_self hcap hshared hsubject hrun fun hdefers ↦ hroom hdefers hsubject
  · have hown := h.own other hother
    cases hshared : c.shared with
    | true =>
        rcases h.right.queue_after_shared hshared with hsame | hempty
        · rw [hsame, hown]
        · rw [hempty]
          rfl
    | false =>
        have hsubject : c.subject? = some id := by
          simpa [Call.concerns, hshared] using hc
        have hforeign : c.subject? ≠ some other := by
          rw [hsubject]
          exact fun heq ↦ hother (Option.some.inj heq).symm
        rw [(after_shares h.right.sound h.right.valid hcap hshared hforeign).pending, hown]

theorem elapse (h : Apart id s t) (ms : ℕ) : Apart id (s.elapse ms) (t.elapse ms) where
  left := ⟨h.left.sound, h.left.valid, h.left.regular, h.left.stopped⟩
  right := ⟨h.right.sound, h.right.valid, h.right.regular, h.right.stopped⟩
  clock := by simp only [State.elapse, h.clock]
  shares := h.shares
  own := h.own

end Apart

/-- A call, or the passing of time. -/
inductive Deed where
  | call (c : Call)
  | elapse (ms : ℕ)

def State.deed (s : State B) : Deed → State B
  | .call c => after s c
  | .elapse ms => s.elapse ms

def Deed.concerns (id : EntityId) : Deed → Bool
  | .call c => c.concerns id
  | .elapse _ => true

/-- A deed of the larger run: callbacks it registers have no memory, the worker of the entity
does not ask through `fdir_worker_may_run`, and a report about the entity finds room. -/
def Deed.Fair (id : EntityId) (s : State B) : Deed → Prop
  | .call c => c.Blind ∧ c ≠ .workerMayRun id ∧
      (c.defers → c.subject? = some id → s.lib.queue.pending.length < B.failureQueueCap)
  | .elapse _ => True

/-- From a successful `fdir_init` on, with time passing between the calls alone: leaving out
all calls about other entities, subsystems and the mode makes no difference to the record of
an entity, to the reports about it that are pending, and to what all entities share. -/
theorem fate_is_own (clock : ℕ) (config : Option Config) (lock unlock : Bool)
    (hcap : B.failureQueueCap ≤ 255) (id : EntityId) (deeds : List Deed) :
    let start : State B := started clock (fun _ ↦ 0) config lock unlock
    Run.Along State.deed (fun s d ↦ d.Fair id s) start deeds →
      (Run.run State.deed start deeds).lib.Shares id
        (Run.run State.deed start (deeds.filter (Deed.concerns id))).lib := by
  intro start hfair
  have hstart : Predictable start := by
    refine ⟨started_sound _ _ _ _ _, FailureQueue.valid_init B.failureQueueCap_pos, ?_,
      fun _ _ ↦ rfl⟩
    refine ⟨fun id callback h ↦ ?_, fun id callback h ↦ ?_, fun sub callback h ↦ ?_⟩
    · cases h
    · cases h
    · cases h
  have hapart : Apart id start start := ⟨hstart, hstart, rfl, .refl _, fun _ _ ↦ rfl⟩
  refine (hfair.purged (Apart id) (Deed.concerns id) ?_ ?_ hapart).shares
  · rintro s t (c | ms) h hd hc
    · exact h.skip hcap hd.1 hc
    · cases hc
  · rintro s t (c | ms) h hd hc
    · exact h.step hcap hd.1 hd.2.1 hc hd.2.2
    · exact h.elapse ms

/-- Entity 0 beside entity 1, which is reported, times out and is restored. -/
theorem fate_is_own_two :
    let register : Deed := .call (.entityRegister (some .zero) true)
    let setup : List Deed := [register, register, .call (.reportFault 1 .timeout 7 none)]
    let deeds : List Deed := setup ++ [.call (.reportFault 0 .ioError 8 none),
      .call .supervisorTick, .call .enterSafeMode, .call (.healthReset 1), .elapse 60000,
      .call .checkWatchdogs]
    let start : State .default := started 0 (fun _ ↦ 0) none true true
    (Run.run State.deed start deeds).lib.Shares 0
      (Run.run State.deed start (deeds.filter (Deed.concerns 0))).lib := by
  intro register setup deeds
  refine fate_is_own (B := .default) 0 none true true (by decide) 0 deeds ?_
  have hplain : ∀ (s : State .default) (c : Call), c.Blind → c ≠ .workerMayRun 0 → ¬ c.defers →
      (Deed.call c).Fair 0 s :=
    fun _ _ hblind hrun hdefers ↦ ⟨hblind, hrun, fun h ↦ absurd h hdefers⟩
  have hregister : ∀ s : State .default, register.Fair 0 s := by
    intro s
    refine hplain s _ ⟨?_, ?_⟩ Call.noConfusion id
    · intro callback h
      cases h
    · intro callback h
      cases h
  refine Run.along_append.mpr ⟨?_, ?_⟩
  · refine ⟨hregister _, hregister _, ⟨trivial, Call.noConfusion, fun _ h ↦ ?_⟩, trivial⟩
    cases h
  · have hroom : (Run.run State.deed (started 0 (fun _ ↦ 0) none true true : State .default)
        setup).lib.queue.pending.length < Build.default.failureQueueCap := by decide +kernel
    generalize Run.run State.deed _ setup = s at hroom ⊢
    exact ⟨⟨trivial, Call.noConfusion, fun _ _ ↦ hroom⟩, hplain _ _ trivial Call.noConfusion id,
      hplain _ _ trivial Call.noConfusion id, hplain _ _ trivial Call.noConfusion id, trivial,
      hplain _ _ trivial Call.noConfusion id, trivial⟩

end Fdir
