import Fdir.Handling

/-!
# What calls do to the world

A call that handles no failure is silent.  The others are made of moves: a move
handles one report in its critical section, or changes the queue at most.
-/

namespace Fdir

open Foundation

variable {B : Build}

/-! ## Calls -/

section Calls

variable (s : State B)

theorem silent_query (q : Query) : Evolves Obs.silent s (q.exec s).2 := by
  have hlock := (silent_syncEnter s).trans (silent_syncExit _)
  cases q with
  | systemMode | supervisionEnabled | healthFaultIsLatched | failureQueueFullLatched =>
      exact hlock
  | entityMayRun id =>
      simp only [Query.exec, entityMayRun_snd]
      exact hlock
  | healthSnapshotCopy id out =>
      simp only [Query.exec, snapshotCopy]
      split_ifs
      · exact .refl s
      · exact hlock
  | _ => exact .refl s

theorem silent_entityRegister (hready : s.lib.portReady = true) (desc : Option EntityDesc)
    (outId : Bool) : Evolves Obs.silent s (entityRegister s desc outId).2.2 := by
  have henter := silent_syncEnter s
  by_cases haccepted : s.lib.Registers (.entityRegister desc outId)
  · obtain ⟨desc, hcall, hroom, hexhausted⟩ := haccepted
    cases hcall
    simp only [entityRegister, syncEnter_lib, if_neg (Nat.not_le.mpr hroom), if_neg hexhausted]
    refine henter.trans (.trans (.of_write _ _ rfl fun _ ↦ rfl)
      (.trans (silent_healthResetUnsafe _ ?_ _) (silent_syncExit _)))
    rw [State.write_lib]
    exact henter.ready.trans hready
  · rw [entityRegister_of_refused haccepted]
    exact henter.trans (silent_syncExit _)

theorem silent_subsystemRegister (desc : Option SubsystemDesc) (outId : Bool) :
    Evolves Obs.silent s (subsystemRegister s desc outId).2.2 := by
  have henter := silent_syncEnter s
  by_cases haccepted : s.lib.Enrolls desc outId
  · obtain ⟨hsome, rfl, hroom⟩ := haccepted
    obtain ⟨desc, rfl⟩ := Option.isSome_iff_exists.mp hsome
    rw [subsystemRegister_of_room hroom]
    exact henter.trans (.trans (.of_write _ _ rfl fun _ ↦ rfl) (silent_syncExit _))
  · rw [subsystemRegister_of_refused haccepted]
    exact henter.trans (silent_syncExit _)

theorem silent_setSupervisionEnabled (enabled : UInt8) :
    Evolves Obs.silent s (setSupervisionEnabled s enabled).2 := by
  have henter := silent_syncEnter s
  have hlevel : Level.system ≠ .entity := by decide
  simp only [setSupervisionEnabled]
  split
  · exact henter.trans (silent_syncExit _)
  · refine henter.trans (.trans ?_ (.trans (silent_emitEventFull _ (Or.inl hlevel) _ _ _ _ _ _)
      (silent_syncExit _)))
    split
    · exact .trans (.of_write _ _ rfl fun _ ↦ rfl) (.of_write _ _ rfl fun _ ↦ rfl)
    · exact .of_write _ _ rfl fun _ ↦ rfl

theorem silent_setSystemMode (mode : ℕ) : Evolves Obs.silent s (setSystemMode s mode).2 := by
  have henter := silent_syncEnter s
  simp only [setSystemMode]
  split
  · exact henter.trans (silent_syncExit _)
  · exact henter.trans (silent_syncExit _)
  · exact henter.trans ((silent_setMode _ _ _ _ _).trans (silent_syncExit _))

theorem silent_deescalateSystemMode : Evolves Obs.silent s (deescalateSystemMode s).2 := by
  have henter := silent_syncEnter s
  simp only [deescalateSystemMode]
  split_ifs
  · exact henter.trans ((silent_setMode _ _ _ _ _).trans (silent_syncExit _))
  · exact henter.trans ((silent_setMode _ _ _ _ _).trans (silent_syncExit _))
  · exact henter.trans (silent_syncExit _)

theorem silent_failureQueuePut (report : FailureReport) :
    Evolves Obs.silent s (failureQueuePut s report).2 :=
  (silent_syncEnter s).trans (.trans (.of_write _ _ rfl fun _ ↦ rfl) (silent_syncExit _))

theorem silent_submitFailure (report : Option FailureReport) :
    Evolves Obs.silent s (submitFailure s report).2 := by
  have henabled := silent_supervisionEnabled s
  cases report with
  | none => exact .refl s
  | some report =>
      have hput := henabled.trans (silent_failureQueuePut _ report)
      simp only [submitFailure]
      split_ifs
      · exact henabled
      · exact hput
      · exact hput

theorem silent_failureQueueGet : Evolves Obs.silent s (failureQueueGet s).2 := by
  have henter := silent_syncEnter s
  simp only [failureQueueGet]
  split
  · exact henter.trans (silent_syncExit _)
  · exact henter.trans (.trans (.of_write _ _ rfl fun _ ↦ rfl) (silent_syncExit _))

theorem silent_reportFaultImpl (entity : EntityId) (reason : Reason) (errorCode : UInt16)
    (detail : Option CStr) (flags : UInt8) :
    Evolves Obs.silent s (reportFaultImpl s entity reason errorCode detail flags).2 := by
  have henter := silent_syncEnter s
  have hnow := henter.trans (silent_getNowMs _)
  simp only [reportFaultImpl]
  split_ifs
  · exact henter.trans (silent_syncExit _)
  · exact henter.trans (silent_syncExit _)
  · exact henter.trans (silent_syncExit _)
  all_goals
    simp only [enqueueFailureUnsafe]
    split_ifs
  · exact hnow.trans (.trans (.of_write _ _ rfl fun _ ↦ rfl) (silent_syncExit _))
  · exact hnow.trans (.trans (.of_write _ _ rfl fun _ ↦ rfl) (silent_syncExit _))
  · exact hnow.trans (.trans (.of_write _ _ rfl fun _ ↦ rfl)
      ((silent_healthSetUnsafe _ _ _ _ _).trans (silent_syncExit _)))
  · exact hnow.trans (.trans (.of_write _ _ rfl fun _ ↦ rfl)
      ((silent_healthSetUnsafe _ _ _ _ _).trans (silent_syncExit _)))

theorem silent_markSubsystem (mark : SubsystemTable → SubsystemId → SubsystemTable)
    (phase : Phase) (detail : CStr) (id : SubsystemId) :
    Evolves Obs.silent s (markSubsystem mark phase detail s id) := by
  have henter := silent_syncEnter s
  simp only [markSubsystem]
  split
  · exact henter.trans ((silent_writeSubsystems _ fun t ↦ mark t id).trans
      ((silent_emitSubsystemState _ _ _ _ _ _ _).trans (silent_syncExit _)))
  · exact henter.trans (silent_syncExit _)

theorem silent_workerMayRun (hready : s.lib.portReady = true) (id : EntityId) :
    Evolves Obs.silent s (workerMayRun s id).2 := by
  have hmode := silent_systemMode s
  simp only [workerMayRun]
  split
  · exact hmode.trans (silent_heartbeatNotify _ (hmode.ready.trans hready) id)
  · rw [entityMayRun_snd]
    exact hmode.trans ((silent_syncEnter _).trans (silent_syncExit _))

/-- The calls that handle failures. -/
def Call.handles : Call → Prop
  | .handleFailure _ | .supervisorTick | .checkWatchdogs => True
  | _ => False

theorem silent_after {s : State B} (hready : s.lib.portReady = true) {c : Call}
    (hc : ¬ c.handles) : Evolves Obs.silent s (after s c) := by
  have henter := silent_syncEnter s
  have hready' : (syncEnter s).lib.portReady = true := henter.ready.trans hready
  have hlevel : Level.system ≠ .entity := by decide
  cases c with
  | query q => exact silent_query s q
  | entityRegister desc outId => exact silent_entityRegister s hready desc outId
  | subsystemRegister desc outId => exact silent_subsystemRegister s desc outId
  | setSupervisionEnabled enabled => exact silent_setSupervisionEnabled s enabled
  | setSystemMode mode => exact silent_setSystemMode s mode
  | deescalateSystemMode => exact silent_deescalateSystemMode s
  | enterDegradedMode =>
      exact henter.trans ((silent_enterDegradedModeUnsafe _).trans (silent_syncExit _))
  | enterSafeMode =>
      exact henter.trans ((silent_enterSafeModeUnsafe _).trans (silent_syncExit _))
  | reassessSystemMode =>
      exact henter.trans ((silent_evaluateDualPath _).trans (silent_syncExit _))
  | tryReboot reason =>
      exact henter.trans ((silent_tryRebootUnsafe _ _).trans (silent_syncExit _))
  | logNote note | logQueueOverflow queueId overflowDelta depthHighWater =>
      exact henter.trans ((silent_emitEventFull _ (Or.inl hlevel) _ _ _ _ _ _).trans
        (silent_syncExit _))
  | supervisorTick | handleFailure | checkWatchdogs => exact absurd trivial hc
  | submitFailure report => exact silent_submitFailure s report
  | reportFault entity reason errorCode detail =>
      exact silent_reportFaultImpl s entity reason errorCode detail _
  | reportFaultEx entity reason errorCode detail flags =>
      exact silent_reportFaultImpl s entity reason errorCode detail flags
  | heartbeatNotify id => exact silent_heartbeatNotify s hready id
  | healthSet id health errorCode detail =>
      simp only [after, Call.exec, healthSet]
      split
      · exact henter.trans (silent_syncExit _)
      · exact henter.trans ((silent_healthSetUnsafe _ _ _ _ _).trans (silent_syncExit _))
  | healthReset id =>
      simp only [after, Call.exec, healthReset]
      split
      · exact henter.trans (silent_syncExit _)
      · exact henter.trans ((silent_healthResetUnsafe _ hready' _).trans (silent_syncExit _))
  | subsystemMarkAvailable id => exact silent_markSubsystem s _ _ _ id
  | subsystemMarkUnavailable id => exact silent_markSubsystem s _ _ _ id
  | subsystemMarkDegraded id => exact silent_markSubsystem s _ _ _ id
  | subsystemOnEntityExhausted sub entity report =>
      exact silent_subsystemOnEntityExhausted s sub entity report
  | workerMayRun id => exact silent_workerMayRun s hready id

end Calls

/-! ## The calls that handle failures -/

/-- Such a call alternates critical sections that handle one report with moves
that change the queue at most. -/
inductive Move (s : State B) : State B → Prop where
  | idle {s' : State B} (hworld : Evolves Obs.silent s s')
      (hlib : ∃ queue, s'.lib = { s.lib with queue := queue }) : Move s s'
  | handled (report : FailureReport) : Move s (handleFailureLocked s report)

abbrev Moves : State B → State B → Prop := Relation.ReflTransGen Move

theorem Move.of_lib_eq {s s' : State B} (hworld : Evolves Obs.silent s s')
    (hlib : s'.lib = s.lib) : Move s s' :=
  .idle hworld ⟨s.lib.queue, hlib⟩

theorem Move.sound {s s' : State B} (h : Move s s') (hs : s.lib.Sound) : s'.lib.Sound := by
  cases h with
  | idle _ hlib =>
      obtain ⟨queue, hqueue⟩ := hlib
      rw [hqueue]
      exact hs.congr rfl rfl rfl rfl rfl
  | handled report =>
      rw [handleFailureLocked_lib hs.limit_eq]
      exact Lib.sound_handle hs _ _

/-- The invariant rule for the moves of a call. -/
theorem Moves.invariant (I : State B → Prop)
    (hstep : ∀ s s', s.lib.Sound → I s → Move s s' → I s') {s s' : State B}
    (h : Moves s s') (hs : s.lib.Sound) (hI : I s) : s'.lib.Sound ∧ I s' := by
  induction h with
  | refl => exact ⟨hs, hI⟩
  | tail _ hlast ih => exact ⟨hlast.sound ih.1, hstep _ _ ih.1 ih.2 hlast⟩

theorem syncEnter_move (s : State B) : Move s (syncEnter s) :=
  .of_lib_eq (silent_syncEnter s) (syncEnter_lib s)

theorem syncExit_move (s : State B) : Move s (syncExit s) :=
  .of_lib_eq (silent_syncExit s) (syncExit_lib s)

theorem supervisionEnabled_move (s : State B) : Move s (supervisionEnabled s).2 :=
  .of_lib_eq (silent_supervisionEnabled s) (supervisionEnabled_lib s)

theorem handleFailure_moves (s : State B) (report : Option FailureReport) :
    Moves s (handleFailure s report) := by
  have henabled := supervisionEnabled_move s
  cases report with
  | none => exact .refl
  | some report =>
      simp only [handleFailure]
      split
      · exact .single henabled
      · exact .head henabled (.single (.handled report))

theorem scanLoop_moves (nowMs maxAge : UInt32) (rounds i : ℕ) (s : State B) :
    Moves s (scanLoop nowMs maxAge rounds i s) := by
  induction rounds generalizing i s with
  | zero => exact .refl
  | succ rounds ih =>
      simp only [scanLoop]
      split
      · split
        · have hhandle := handleFailure_moves (syncExit s)
            (some (watchdogReport B (UInt8.ofNat i) nowMs))
          exact .head (syncExit_move s) (hhandle.trans (.head (syncEnter_move _) (ih _ _)))
        · exact ih (i + 1) s
      · exact .refl

theorem checkWatchdogs_moves (s : State B) : Moves s (checkWatchdogs s) := by
  have hnow : Move s (getNowMs s).2 := .of_lib_eq (silent_getNowMs s) (getNowMs_lib s)
  have henabled := supervisionEnabled_move (getNowMs s).2
  simp only [checkWatchdogs]
  split
  · exact .head hnow (.single henabled)
  · exact .head hnow (.head henabled (.head (syncEnter_move _)
      ((scanLoop_moves _ _ _ _ _).tail (syncExit_move _))))

theorem failureQueueGet_move (s : State B) : Move s (failureQueueGet s).2 := by
  refine .idle (silent_failureQueueGet s) ?_
  simp only [failureQueueGet]
  split
  · exact ⟨s.lib.queue, by simp⟩
  · exact ⟨s.lib.queue.getUnsafe.2, by simp⟩

theorem drainQueue_moves (rounds : ℕ) (s : State B) : Moves s (drainQueue rounds s) := by
  induction rounds generalizing s with
  | zero => exact .refl
  | succ rounds ih =>
      simp only [drainQueue]
      split
      · exact .single (failureQueueGet_move s)
      · exact .head (failureQueueGet_move s) ((handleFailure_moves _ _).trans (ih _))

theorem supervisorTick_moves (s : State B) : Moves s (supervisorTick s) := by
  have henabled := supervisionEnabled_move s
  simp only [supervisorTick]
  split
  · exact .single henabled
  · exact .head henabled ((drainQueue_moves _ _).trans (checkWatchdogs_moves _))

theorem moves_after (s : State B) {c : Call} (hc : c.handles) : Moves s (after s c) := by
  cases c with
  | handleFailure report => exact handleFailure_moves s report
  | supervisorTick => exact supervisorTick_moves s
  | checkWatchdogs => exact checkWatchdogs_moves s
  | _ => exact hc.elim

theorem Move.evolves {s s' : State B} (hs : s.lib.Sound) (h : Move s s') :
    Evolves (fun _ ↦ True) s s' := by
  cases h with
  | idle hworld => exact hworld.any
  | handled report => exact (handleFailureLocked_world hs report).1

theorem evolves_after {s : State B} (hs : s.lib.Sound) (c : Call) :
    Evolves (fun _ ↦ True) s (after s c) := by
  by_cases hc : c.handles
  · exact ((moves_after s hc).invariant (fun s' ↦ Evolves (fun _ ↦ True) s s')
      (fun _ _ hsound hI hmove ↦ hI.trans (hmove.evolves hsound)) hs (.refl s)).2
  · exact (silent_after hs.ready hc).any

/-! ## Invariants of states -/

/-- The invariant rule for one call: moves keep the invariant, and so does a
silent call, whose effect on the static variables is known. -/
theorem after_keeps (I : State B → Prop)
    (hmove : ∀ s s', s.lib.Sound → I s → Move s s' → I s')
    (hcall : ∀ s c, s.lib.Sound → I s → ¬ c.handles → Effect c s.lib (after s c).lib →
      Evolves Obs.silent s (after s c) → I (after s c))
    {s : State B} (hs : s.lib.Sound) (hI : I s) (c : Call) : I (after s c) := by
  by_cases hc : c.handles
  · exact ((moves_after s hc).invariant I hmove hs hI).2
  · refine hcall s c hs hI hc (after_effect hs.limit_eq ?_ ?_) (silent_after hs.ready hc)
    · rintro rfl
      exact hc trivial
    · rintro rfl
      exact hc trivial

/-- The invariant rule for all runs. -/
theorem run_keeps (I : State B → Prop)
    (hmove : ∀ s s', s.lib.Sound → I s → Move s s' → I s')
    (hcall : ∀ s c, s.lib.Sound → I s → ¬ c.handles → Effect c s.lib (after s c).lib →
      Evolves Obs.silent s (after s c) → I (after s c))
    {s : State B} (hs : s.lib.Sound) (hI : I s) (calls : List Call) :
    (Run.run after s calls).lib.Sound ∧ I (Run.run after s calls) :=
  Run.invariant (fun s : State B ↦ s.lib.Sound ∧ I s)
    (fun _ c h ↦ ⟨after_sound h.1 c, after_keeps I hmove hcall h.1 h.2 c⟩) ⟨hs, hI⟩ calls

end Fdir
