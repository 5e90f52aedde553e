import Fdir.Drain
import Fdir.Sweep

/-!
# A tick settles the library

While the clock stands still a tick leaves nothing for another one to do: the queue is empty
and no entity is due.  Any number of further ticks change no static variable, call nothing of
the application and emit no event.
-/

namespace Fdir

open Foundation

variable {B : Build}

/-! ## Interactions that tell nobody anything -/

/-- The lock is taken or released, or the clock is read. -/
def Obs.quiet : Obs → Prop
  | .lock | .unlock | .clock _ => True
  | _ => False

/-- Nothing happens to the static variables, and nothing but quiet interactions. -/
structure Uneventful (s s' : State B) : Prop where
  lib : s'.lib = s.lib
  evolves : Evolves Obs.quiet s s'

namespace Uneventful

variable {s s' s'' : State B}

theorem refl (s : State B) : Uneventful s s := ⟨rfl, .refl s⟩

theorem trans (h : Uneventful s s') (h' : Uneventful s' s'') : Uneventful s s'' :=
  ⟨h'.lib.trans h.lib, h.evolves.trans h'.evolves⟩

theorem syncEnter (s : State B) : Uneventful s (syncEnter s) :=
  ⟨syncEnter_lib s, .of_syncEnter trivial s⟩

theorem syncExit (s : State B) : Uneventful s (syncExit s) :=
  ⟨syncExit_lib s, .of_syncExit trivial s⟩

theorem getNowMs (s : State B) : Uneventful s (getNowMs s).2 :=
  ⟨getNowMs_lib s, .of_getNowMs (fun _ ↦ trivial) s⟩

theorem supervisionEnabled (s : State B) : Uneventful s (supervisionEnabled s).2 :=
  (syncEnter s).trans (syncExit _)

end Uneventful

/-! ## After a recovery an entity is not due -/

section Fresh

variable {s : State B} {now : UInt32} {id : EntityId}

theorem answers_now (hready : s.lib.portReady = true) (hstopped : s.ClockStopped)
    (report : FailureReport) : (answers s report).now = UInt32.ofNat s.world.clock := by
  have hlogged : Evolves (fun _ ↦ True) s ((resolvedState s report).log
      (.restart report.entity report.reason
        (restartAnswer (resolvedState s report) report.entity report.reason))) :=
    (silent_resolvedState s report).any.trans (.of_log trivial _)
  have hread := getNowMs_fst_of_stopped (hlogged.ready.trans hready)
    (hlogged.clockStopped hstopped)
  rw [hlogged.clock_const hstopped] at hread
  exact hread

/-- The entity is FAILED, or its heartbeat shows clock reading `now`. -/
def Lib.Rested (l : Lib B) (now : UInt32) (id : EntityId) : Prop :=
  l.failed id ∨ (l.health.health id).lastHeartbeatMs = now

theorem Lib.Rested.congr {l l' : Lib B} (h : l.Rested now id)
    (hrecord : l'.record id = l.record id) : l'.Rested now id := by
  have hsnapshot : l'.health.health id = l.health.health id := congrArg Record.snapshot hrecord
  rwa [Lib.Rested, Lib.failed, hsnapshot]

theorem Lib.Rested.not_due {l : Lib B} (h : l.Rested now id) (maxAge : UInt32) :
    watchdogDue l now maxAge id = false := by
  simp only [watchdogDue, HealthTable.snapshotFailed, HealthTable.isStale, HealthTable.snapshot]
  split
  · simp
  · rcases h with hfailed | hfresh
    · rw [Lib.failed] at hfailed
      simp [hfailed]
    · simp [hfresh]

/-- A report the library acts on lets its entity rest. -/
theorem handleFailureLocked_rested (hs : s.lib.Sound) (hstopped : s.ClockStopped)
    {report : FailureReport} (hraises : s.lib.raises report)
    (hid : report.entity < s.lib.entityCount) :
    (handleFailureLocked s report).lib.Rested (UInt32.ofNat s.world.clock) report.entity := by
  let ans := answers (raisedState s report) report
  have hraised := (raisedState_world hs report).1
  have hnow : ans.now = UInt32.ofNat s.world.clock := by
    rw [← hraised.clock_const hstopped]
    exact answers_now (raisedState_ready hs report) (hraised.clockStopped hstopped) report
  have hknown : ¬ (s.lib.entityCount ≤ report.entity ∨
      (s.lib.entities report.entity).used = false) := by
    rw [hs.unknown_iff]
    exact UInt8.not_le.mpr hid
  have hrecord := Lib.record_handle_self s.lib ans report hraises hknown
  have hsnapshot := congrArg Record.snapshot hrecord
  rw [handleFailureLocked_lib hs.limit_eq]
  change (s.lib.handle ans report).health.health report.entity = _ at hsnapshot
  rcases Record.settle_cases ((s.lib.record report.entity).fail B report) ans
    (s.lib.action ans report) report.reason with ⟨hrestored, -, -⟩ | ⟨hkept, -, -⟩
  · right
    rw [hsnapshot, Lib.verdict, hrestored]
    exact hnow
  · left
    rw [Lib.failed, hsnapshot, Lib.verdict, hkept]
    rfl

theorem scanned_rested {maxAge : UInt32} (hs : s.lib.Sound)
    (henabled : s.lib.supervisionEnabled ≠ 0) (hstopped : s.ClockStopped)
    (hnow : now = UInt32.ofNat s.world.clock)
    (hid : id < s.lib.entityCount) (hdue : watchdogDue s.lib now maxAge id = true) :
    (scanned now s id).lib.Rested now id := by
  let called := (supervisionEnabled (syncExit s)).2
  have hcalled : Uneventful s called := (Uneventful.syncExit s).trans (.supervisionEnabled _)
  have hraises : called.lib.raises (watchdogReport B id now) := by
    simp only [watchdogDue, Bool.and_eq_true, Bool.not_eq_true'] at hdue
    rw [hcalled.lib]
    exact hdue.1.1.1.2
  have hrested := handleFailureLocked_rested (hcalled.lib ▸ hs)
    (hcalled.evolves.clockStopped hstopped) hraises (hcalled.lib ▸ hid)
  rw [hcalled.evolves.clock_const hstopped, ← hnow] at hrested
  rw [scanned_eq henabled, syncEnter_lib]
  exact hrested

/-- The recoveries let every entity rest that was due. -/
theorem foldl_scanned_rested (hs : s.lib.Sound) (henabled : s.lib.supervisionEnabled ≠ 0)
    (hstopped : s.ClockStopped) (hnow : now = UInt32.ofNat s.world.clock) (maxAge : UInt32)
    {ids : List EntityId} (hnodup : ids.Nodup)
    (hdue : ∀ id ∈ ids, id < s.lib.entityCount ∧ watchdogDue s.lib now maxAge id = true) :
    ∀ id ∈ ids, (ids.foldl (scanned now) s).lib.Rested now id := by
  induction ids generalizing s with
  | nil => exact fun id hid ↦ nomatch hid
  | cons first ids ih =>
      obtain ⟨hknown, hfirst⟩ := hdue first List.mem_cons_self
      obtain ⟨hnew, hrest⟩ := List.nodup_cons.mp hnodup
      have hstep := recovered_scan hs henabled hknown hfirst
      have hlimit := hstep.sound.limit_eq.trans (hstep.count.trans hs.limit_eq.symm)
      have hdue' : ∀ id ∈ ids, id < (scanned now s first).lib.entityCount ∧
          watchdogDue (scanned now s first).lib now maxAge id = true := by
        intro id hid
        obtain ⟨hknown', hlate⟩ := hdue id (List.mem_cons_of_mem _ hid)
        have hne : id ≠ first := fun heq ↦ hnew (heq ▸ hid)
        rw [hstep.count, watchdogDue_congr hlimit (hstep.other id hne)]
        exact ⟨hknown', hlate⟩
      have hclock := hstep.evolves.clock_const hstopped
      rw [List.forall_mem_cons]
      refine ⟨?_, ih hstep.sound hstep.enabled (hstep.evolves.clockStopped hstopped)
        (by rw [hclock, hnow]) hrest hdue'⟩
      have hswept := foldl_scanned_swept hstep.sound hstep.enabled now maxAge hrest hdue'
      exact (scanned_rested hs henabled hstopped hnow hknown hfirst).congr
        (hswept.other first hnew)

end Fresh

/-! ## A quiet scan -/

/-- Nothing is due for a scan made now. -/
def State.Rested (s : State B) : Prop :=
  s.lib.dueFrom (getNowMs s).1 (heartbeatMaxAgeMs s.lib.config) 0 = []

variable {s : State B}

theorem Uneventful.checkWatchdogs (hs : s.lib.Sound) (henabled : s.lib.supervisionEnabled ≠ 0)
    (hrested : s.Rested) : Uneventful s (checkWatchdogs s) := by
  have hrun := (checkWatchdogs_swept hs henabled).1
  rw [State.Rested] at hrested
  simp only [hrested, List.foldl_nil] at hrun
  rw [hrun]
  exact (Uneventful.getNowMs s).trans ((Uneventful.supervisionEnabled _).trans
    ((Uneventful.syncEnter _).trans (.syncExit _)))

theorem checkWatchdogs_rested (hs : s.lib.Sound) (henabled : s.lib.supervisionEnabled ≠ 0)
    (hstopped : s.ClockStopped) : (checkWatchdogs s).Rested := by
  have hread := getNowMs_fst_of_stopped hs.ready hstopped
  have heffects := checkWatchdogs_effects (Or.inr rfl : Call.checkWatchdogs = _ ∨ _) s hs.limit_eq
  have hsound := heffects.sound hs
  have hcount := heffects.entityCount_eq (by simp)
  have hconfig : (checkWatchdogs s).lib.config = s.lib.config := after_config hs .checkWatchdogs
  obtain ⟨hrun, hswept⟩ := checkWatchdogs_swept hs henabled
  have hread' : (getNowMs (checkWatchdogs s)).1 = (getNowMs s).1 := by
    rw [getNowMs_fst_of_stopped hsound.ready (hswept.evolves.clockStopped hstopped),
      hswept.evolves.clock_const hstopped, hread]
  have hentered : Uneventful s (syncEnter (supervisionEnabled (getNowMs s).2).2) :=
    (Uneventful.getNowMs s).trans ((Uneventful.supervisionEnabled _).trans (.syncEnter _))
  rw [State.Rested, hread', hconfig, List.eq_nil_iff_forall_not_mem]
  intro id hid
  obtain ⟨-, hknown, hdue⟩ := Lib.mem_dueFrom.mp hid
  by_cases hmem : id ∈ s.lib.dueFrom (getNowMs s).1 (heartbeatMaxAgeMs s.lib.config) 0
  · have hrested : (checkWatchdogs s).lib.Rested (getNowMs s).1 id := by
      rw [hrun, syncExit_lib]
      refine foldl_scanned_rested (hentered.lib ▸ hs) (hentered.lib ▸ henabled)
        (hentered.evolves.clockStopped hstopped) ?_ (heartbeatMaxAgeMs s.lib.config)
        Lib.pairwise_dueFrom.nodup (fun other hother ↦ ?_) id hmem
      · rw [hread, hentered.evolves.clock_const hstopped]
      · rw [hentered.lib]
        exact (Lib.mem_dueFrom.mp hother).2
    rw [hrested.not_due] at hdue
    cases hdue
  · have hlimit := hsound.limit_eq.trans (hcount.trans hs.limit_eq.symm)
    rw [watchdogDue_congr hlimit (hswept.other id hmem)] at hdue
    exact hmem (Lib.mem_dueFrom.mpr ⟨Nat.zero_le _, hcount ▸ hknown, hdue⟩)

/-! ## Further ticks -/

/-- What a tick comes to rest in. -/
structure Settled (s : State B) : Prop where
  sound : s.lib.Sound
  enabled : s.lib.supervisionEnabled ≠ 0
  stopped : s.ClockStopped
  empty : s.lib.queue.pending = []
  rested : s.Rested

theorem Settled.tick (h : Settled s) : Uneventful s (supervisorTick s) := by
  let asked := (supervisionEnabled s).2
  have hasked : Uneventful s asked := .supervisionEnabled s
  have hget : asked.lib.queue.getUnsafe.1 = none := by
    rw [hasked.lib, FailureQueue.getUnsafe_of_nil h.empty]
  have hdrained : drainQueue 256 asked = syncExit (syncEnter asked) := by
    simp only [drainQueue, failureQueueGet_of_none hget]
  have hquiet : Uneventful s (drainQueue 256 asked) := by
    rw [hdrained]
    exact hasked.trans ((Uneventful.syncEnter _).trans (.syncExit _))
  rw [supervisorTick_of_enabled h.enabled]
  refine hquiet.trans (.checkWatchdogs (hquiet.lib ▸ h.sound) (hquiet.lib ▸ h.enabled) ?_)
  have hready : (drainQueue 256 asked).lib.portReady = true := by
    rw [hquiet.lib]
    exact h.sound.ready
  have hread : (getNowMs (drainQueue 256 asked)).1 = (getNowMs s).1 := by
    rw [getNowMs_fst_of_stopped hready (hquiet.evolves.clockStopped h.stopped),
      hquiet.evolves.clock_const h.stopped, getNowMs_fst_of_stopped h.sound.ready h.stopped]
  rw [State.Rested, hread, hquiet.lib]
  exact h.rested

theorem Settled.of_uneventful (h : Settled s) {s' : State B} (hquiet : Uneventful s s') :
    Settled s' := by
  have hsound : s'.lib.Sound := hquiet.lib ▸ h.sound
  have hstopped := hquiet.evolves.clockStopped h.stopped
  refine ⟨hsound, hquiet.lib ▸ h.enabled, hstopped, hquiet.lib ▸ h.empty, ?_⟩
  have hread : (getNowMs s').1 = (getNowMs s).1 := by
    rw [getNowMs_fst_of_stopped hsound.ready hstopped, hquiet.evolves.clock_const h.stopped,
      getNowMs_fst_of_stopped h.sound.ready h.stopped]
  rw [State.Rested, hread, hquiet.lib]
  exact h.rested

theorem settled_tick (hs : s.lib.Sound) (hq : s.lib.queue.Valid)
    (henabled : s.lib.supervisionEnabled ≠ 0) (hstopped : s.ClockStopped) :
    Settled (supervisorTick s) := by
  let drained := drainQueue 256 (supervisionEnabled s).2
  have hasked : Uneventful s (supervisionEnabled s).2 := .supervisionEnabled s
  have hlength := FailureQueue.length_pending_le s.lib.queue
  obtain ⟨-, hsound, henabled', hempty⟩ := drainQueue_drains 256 (supervisionEnabled s).2
    (hasked.lib ▸ hs) (hasked.lib ▸ henabled) (hasked.lib ▸ hq) (by rw [hasked.lib]; omega)
  have hevolves : Evolves (fun _ ↦ True) (supervisionEnabled s).2 drained :=
    ((drainQueue_moves 256 _).invariant
      (fun s' ↦ Evolves (fun _ ↦ True) (supervisionEnabled s).2 s')
      (fun _ _ hs h hmove ↦ h.trans (hmove.evolves hs)) (hasked.lib ▸ hs) (.refl _)).2
  have hstopped' : drained.ClockStopped :=
    hevolves.clockStopped (hasked.evolves.clockStopped hstopped)
  have hswept := (checkWatchdogs_swept hsound henabled').2
  have heffects := checkWatchdogs_effects (Or.inr rfl : Call.checkWatchdogs = _ ∨ _) drained
    hsound.limit_eq
  rw [supervisorTick_of_enabled henabled]
  constructor
  · exact heffects.sound hsound
  · rw [heffects.supervisionEnabled_eq (by simp)]
    exact henabled'
  · exact hswept.evolves.clockStopped hstopped'
  · rw [checkWatchdogs_queue hsound henabled', hempty]
  · exact checkWatchdogs_rested hsound henabled' hstopped'

/-- In every state that any threads can reach, with supervision enabled and a standing clock:
after one tick any number of ticks change no static variable, and do nothing but take and
release the lock and read the clock. -/
theorem tick_settles (clock : ℕ) (pace : List Obs → ℕ) (config : Option Config)
    (lock unlock : Bool) (turns : List Turn) (n : ℕ) :
    let m : Machine B := Run.run Machine.step (.started clock pace config lock unlock) turns
    let s := m.state
    let s' := supervisorTick s
    s.lib.supervisionEnabled ≠ 0 → s.ClockStopped →
      (supervisorTick^[n] s').lib = s'.lib ∧
        ∃ new, (supervisorTick^[n] s').world.trace = s'.world.trace ++ new ∧
          ∀ o ∈ new, o.quiet := by
  intro m s s' henabled hstopped
  have hvalid : s.lib.Sound ∧ s.lib.queue.Valid :=
    Machine.valid_run (started_sound clock pace config lock unlock)
      (FailureQueue.valid_init B.failureQueueCap_pos) turns
  have hsettled : Settled s' := settled_tick hvalid.1 hvalid.2 henabled hstopped
  have hquiet : Settled (supervisorTick^[n] s') ∧ Uneventful s' (supervisorTick^[n] s') := by
    induction n with
    | zero => exact ⟨hsettled, .refl s'⟩
    | succ n ih =>
        rw [Function.iterate_succ_apply']
        exact ⟨ih.1.of_uneventful ih.1.tick, ih.2.trans ih.1.tick⟩
  exact ⟨hquiet.2.lib, hquiet.2.evolves.trace⟩

/-- A reported entity and one that nobody reports. -/
theorem tick_settles_two :
    let m : Machine .default := Run.run Machine.step (.started 0 (fun _ ↦ 0) none true true)
      [.call 0 (.entityRegister (some .zero) true), .call 0 (.entityRegister (some .zero) true),
        .call 1 (.reportFault 0 .timeout 7 none)]
    let s' := supervisorTick m.state
    (supervisorTick^[2] s').lib = s'.lib ∧
      ∃ new, (supervisorTick^[2] s').world.trace = s'.world.trace ++ new ∧ ∀ o ∈ new, o.quiet :=
  tick_settles (B := .default) 0 (fun _ ↦ 0) none true true _ 2 (by decide +kernel) fun _ _ ↦ rfl

end Fdir
