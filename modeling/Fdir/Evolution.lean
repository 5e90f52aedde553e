import Fdir.Effects

/-!
# How the world evolves

Whatever the library does, true time never runs backwards and the record of its
interactions only grows.  `Evolves P s s'` says so of a step from `s` to `s'`
whose new interactions all meet `P`, and adds that a heartbeat time is only
replaced by the time of a clock reading of the step.  Almost all helpers are
silent: they call no restart callback and raise or clear no anomaly of an
entity.
-/

namespace Fdir

variable {B : Build}

/-! ## Restart calls, events and anomalies -/

/-- The entity, reason and answer of a restart call. -/
def Obs.restarted : Obs → Option (EntityId × Reason × ℤ)
  | .restart id reason answer => some (id, reason, answer)
  | _ => none

/-- The entity, reason and phase of an entity-level event of kind FAILURE or
WATCHDOG. -/
def Obs.anomaly : Obs → Option (EntityId × Reason × Phase)
  | .event e =>
      if e.level = .entity ∧ (e.kind = .failure ∨ e.kind = .watchdog) then
        some (e.entity, e.reason, e.phase)
      else none
  | _ => none

def Obs.silent (o : Obs) : Prop := o.restarted = none ∧ o.anomaly = none

/-- The restart calls so far. -/
def State.restarts (s : State B) : List (EntityId × Reason × ℤ) :=
  s.world.trace.filterMap Obs.restarted

/-- The anomalies raised and cleared so far. -/
def State.anomalies (s : State B) : List (EntityId × Reason × Phase) :=
  s.world.trace.filterMap Obs.anomaly

def Obs.emitted : Obs → Option Event
  | .event e => some e
  | _ => none

/-- What a subsystem handler was asked, and its answer. -/
def Obs.consulted : Obs → Option (SubsystemId × EntityId × Option FailureReport × Action)
  | .exhausted sub id report answer => some (sub, id, report, answer)
  | _ => none

/-- The consultations of subsystem handlers so far. -/
def State.consultations (s : State B) :
    List (SubsystemId × EntityId × Option FailureReport × Action) :=
  s.world.trace.filterMap Obs.consulted

/-- The events emitted so far. -/
def State.events (s : State B) : List Event := s.world.trace.filterMap Obs.emitted

@[simp] theorem events_write (s : State B) (f : Lib B → Lib B) : (s.write f).events = s.events :=
  rfl

@[simp] theorem events_stamp (s : State B) (id : EntityId) : (s.stamp id).events = s.events := by
  unfold State.stamp
  split <;> rfl

@[simp] theorem events_syncEnter (s : State B) : (syncEnter s).events = s.events := by
  unfold syncEnter
  split <;> simp [State.events, Obs.emitted]

@[simp] theorem events_syncExit (s : State B) : (syncExit s).events = s.events := by
  unfold syncExit
  split <;> simp [State.events, Obs.emitted]

@[simp] theorem events_getNowMs (s : State B) : (getNowMs s).2.events = s.events := by
  unfold getNowMs
  split
  · simp [State.events, Obs.emitted]
  · rfl

theorem events_log {o : Obs} (h : o.emitted = none) (s : State B) :
    (s.log o).events = s.events := by
  simp [State.events, h]

theorem trace_emitEventFull (s : State B) (hready : s.lib.portReady = true) (kind : EventKind)
    (mode : Mode) (entity : EntityId) (reason : Reason) (errorCode : UInt16) (level : Level)
    (phase : Phase) (detail : Option CStr) :
    ∃ (e : Event) (ms : UInt32),
      (emitEventFull s kind mode entity reason errorCode level phase detail).world.trace =
        s.world.trace ++ [.clock ms, .event e] ∧
      e.kind = kind ∧ e.mode = mode ∧ e.entity = entity ∧ e.level = level ∧
      e.anomalyId = if e.entity ≠ entityNone then anomalyId e.entity e.reason else 0 := by
  simp only [emitEventFull, emitEvent, getNowMs_lib, if_pos hready, State.emit_trace]
  rw [getNowMs_trace hready, List.append_assoc]
  exact ⟨_, _, rfl, rfl, rfl, rfl, rfl, rfl⟩

theorem Obs.silent_event {e : Event} (h : e.level ≠ .entity ∨
    (e.kind ≠ .failure ∧ e.kind ≠ .watchdog)) : (Obs.event e).silent := by
  refine ⟨rfl, ?_⟩
  simp only [Obs.anomaly, ite_eq_right_iff, reduceCtorEq, imp_false]
  tauto

/-! ## The relation -/

/-- The heartbeat time of `id` in `s'` is that of `s`, or was read in between. -/
def State.Stamps (s s' : State B) (id : EntityId) : Prop :=
  (s'.world.stamped id = s.world.stamped id ∧
      (s'.lib.health.health id).lastHeartbeatMs = (s.lib.health.health id).lastHeartbeatMs) ∨
    (s.world.clock ≤ s'.world.stamped id ∧ s'.world.stamped id ≤ s'.world.clock ∧
      (s'.lib.health.health id).lastHeartbeatMs = UInt32.ofNat (s'.world.stamped id))

/-- From now on the clock stands still. -/
def State.ClockStopped (s : State B) : Prop :=
  ∀ history, s.world.trace <+: history → s.world.pace history = 0

structure Evolves (P : Obs → Prop) (s s' : State B) : Prop where
  ready : s'.lib.portReady = s.lib.portReady
  clock_le : s.world.clock ≤ s'.world.clock
  clock_const : s.ClockStopped → s'.world.clock = s.world.clock
  pace_eq : s'.world.pace = s.world.pace
  stamps : ∀ id, s.Stamps s' id
  trace : ∃ new, s'.world.trace = s.world.trace ++ new ∧ ∀ o ∈ new, P o

namespace Evolves

variable {P Q : Obs → Prop} {s s' s'' : State B}

theorem refl (s : State B) : Evolves P s s where
  ready := rfl
  clock_le := le_refl _
  clock_const := fun _ ↦ rfl
  pace_eq := rfl
  stamps := fun _ ↦ Or.inl ⟨rfl, rfl⟩
  trace := ⟨[], by simp, by simp⟩

theorem clockStopped (h : Evolves P s s') (hstopped : s.ClockStopped) : s'.ClockStopped := by
  intro history hprefix
  obtain ⟨new, htrace, -⟩ := h.trace
  rw [h.pace_eq]
  refine hstopped history (List.IsPrefix.trans ?_ hprefix)
  rw [htrace]
  exact List.prefix_append _ _

theorem trans (h : Evolves P s s') (h' : Evolves P s' s'') : Evolves P s s'' where
  ready := h'.ready.trans h.ready
  clock_le := h.clock_le.trans h'.clock_le
  clock_const := fun hstopped ↦
    (h'.clock_const (h.clockStopped hstopped)).trans (h.clock_const hstopped)
  pace_eq := h'.pace_eq.trans h.pace_eq
  stamps := by
    intro id
    rcases h'.stamps id with ⟨hstamp', hbeat'⟩ | ⟨hlow, hhigh, hbeat'⟩
    · rw [State.Stamps, hstamp', hbeat']
      refine (h.stamps id).imp_right ?_
      rintro ⟨hlow, hhigh, hbeat⟩
      exact ⟨hlow, hhigh.trans h'.clock_le, hbeat⟩
    · exact Or.inr ⟨h.clock_le.trans hlow, hhigh, hbeat'⟩
  trace := by
    obtain ⟨new, htrace, hnew⟩ := h.trace
    obtain ⟨new', htrace', hnew'⟩ := h'.trace
    refine ⟨new ++ new', by rw [htrace', htrace, List.append_assoc], ?_⟩
    intro o ho
    rcases List.mem_append.mp ho with hmem | hmem
    · exact hnew o hmem
    · exact hnew' o hmem

theorem mono (h : Evolves P s s') (hPQ : ∀ o, P o → Q o) : Evolves Q s s' where
  ready := h.ready
  clock_le := h.clock_le
  clock_const := h.clock_const
  pace_eq := h.pace_eq
  stamps := h.stamps
  trace := by
    obtain ⟨new, htrace, hnew⟩ := h.trace
    exact ⟨new, htrace, fun o ho ↦ hPQ o (hnew o ho)⟩

theorem any (h : Evolves P s s') : Evolves (fun _ ↦ True) s s' := h.mono fun _ _ ↦ trivial

theorem filterMap_eq {γ : Type*} {f : Obs → Option γ} (h : Evolves P s s')
    (hf : ∀ o, P o → f o = none) :
    s'.world.trace.filterMap f = s.world.trace.filterMap f := by
  obtain ⟨new, htrace, hnew⟩ := h.trace
  have hnone : new.filterMap f = [] :=
    List.filterMap_eq_nil_iff.mpr fun o ho ↦ hf o (hnew o ho)
  rw [htrace, List.filterMap_append, hnone, List.append_nil]

theorem restarts_eq (h : Evolves Obs.silent s s') : s'.restarts = s.restarts :=
  h.filterMap_eq fun _ ho ↦ ho.1

theorem restarts_append (h : Evolves P s s') : ∃ new, s'.restarts = s.restarts ++ new := by
  obtain ⟨new, htrace, -⟩ := h.trace
  exact ⟨new.filterMap Obs.restarted, by
    rw [State.restarts, htrace, List.filterMap_append, State.restarts]⟩

theorem anomalies_eq (h : Evolves Obs.silent s s') : s'.anomalies = s.anomalies :=
  h.filterMap_eq fun _ ho ↦ ho.2

/-! ## Single interactions -/

theorem of_log {o : Obs} (hP : P o) (s : State B) : Evolves P s (s.log o) where
  ready := rfl
  clock_le := le_refl _
  clock_const := fun _ ↦ rfl
  pace_eq := rfl
  stamps := fun _ ↦ Or.inl ⟨rfl, rfl⟩
  trace := ⟨[o], rfl, by simpa using hP⟩

theorem of_write (s : State B) (f : Lib B → Lib B) (hready : (f s.lib).portReady = s.lib.portReady)
    (hbeat : ∀ id, ((f s.lib).health.health id).lastHeartbeatMs =
      (s.lib.health.health id).lastHeartbeatMs) : Evolves P s (s.write f) where
  ready := hready
  clock_le := le_refl _
  clock_const := fun _ ↦ rfl
  pace_eq := rfl
  stamps := fun id ↦ Or.inl ⟨rfl, hbeat id⟩
  trace := ⟨[], by simp, by simp⟩

theorem of_abort (s : State B) : Evolves P s s.abort where
  ready := rfl
  clock_le := le_refl _
  clock_const := fun _ ↦ rfl
  pace_eq := rfl
  stamps := fun _ ↦ Or.inl ⟨rfl, rfl⟩
  trace := ⟨[], by simp, by simp⟩

theorem of_syncEnter (hP : P .lock) (s : State B) : Evolves P s (syncEnter s) := by
  unfold syncEnter
  split
  · exact ⟨rfl, le_refl _, fun _ ↦ rfl, rfl, fun _ ↦ Or.inl ⟨rfl, rfl⟩,
      [.lock], rfl, by simpa using hP⟩
  · exact refl s

theorem of_syncExit (hP : P .unlock) (s : State B) : Evolves P s (syncExit s) := by
  unfold syncExit
  split
  · exact ⟨rfl, le_refl _, fun _ ↦ rfl, rfl, fun _ ↦ Or.inl ⟨rfl, rfl⟩,
      [.unlock], rfl, by simpa using hP⟩
  · exact refl s

theorem of_getNowMs (hP : ∀ ms, P (.clock ms)) (s : State B) :
    Evolves P s (getNowMs s).2 := by
  unfold getNowMs
  split
  · exact ⟨rfl, Nat.le_add_right _ _, fun hstopped ↦ by simp [hstopped _ List.prefix_rfl], rfl,
      fun _ ↦ Or.inl ⟨rfl, rfl⟩, [.clock _], rfl, by simpa using hP _⟩
  · exact of_abort s

theorem of_emitEvent {event : Event} (hP : P (.event event)) (s : State B) :
    Evolves P s (emitEvent s event) := by
  unfold emitEvent
  split
  · exact ⟨rfl, le_refl _, fun _ ↦ rfl, rfl, fun _ ↦ Or.inl ⟨rfl, rfl⟩,
      [.event event], rfl, by simpa using hP⟩
  · exact of_abort s

end Evolves

/-! ## Silent helpers -/

section Silent

variable (s : State B)

theorem silent_syncEnter : Evolves Obs.silent s (syncEnter s) :=
  .of_syncEnter ⟨rfl, rfl⟩ s

theorem silent_syncExit : Evolves Obs.silent s (syncExit s) :=
  .of_syncExit ⟨rfl, rfl⟩ s

theorem silent_getNowMs : Evolves Obs.silent s (getNowMs s).2 :=
  .of_getNowMs (fun _ ↦ ⟨rfl, rfl⟩) s

theorem silent_requestReboot (reason : CStr) :
    Evolves Obs.silent s (requestReboot s reason) := by
  unfold requestReboot
  split
  · exact .of_log ⟨rfl, rfl⟩ s
  · exact .of_abort s

theorem silent_emitEventFull {kind : EventKind} {level : Level}
    (h : level ≠ .entity ∨ (kind ≠ .failure ∧ kind ≠ .watchdog)) (mode : Mode)
    (entity : EntityId) (reason : Reason) (errorCode : UInt16) (phase : Phase)
    (detail : Option CStr) :
    Evolves Obs.silent s
      (emitEventFull s kind mode entity reason errorCode level phase detail) :=
  (silent_getNowMs s).trans (.of_emitEvent (Obs.silent_event h) _)

theorem silent_emitSubsystemState (sub : SubsystemId) (entity : EntityId) (reason : Reason)
    (errorCode : UInt16) (phase : Phase) (detail : CStr) :
    Evolves Obs.silent s (emitSubsystemState s sub entity reason errorCode phase detail) :=
  (silent_getNowMs s).trans
    (.of_emitEvent (Obs.silent_event (Or.inl (show Level.subsystem ≠ .entity by decide))) _)

theorem silent_notifySystemHandler (mode : Mode) (report : Option FailureReport) :
    Evolves Obs.silent s (notifySystemHandler s mode report) := by
  unfold notifySystemHandler
  split
  · exact .of_log ⟨rfl, rfl⟩ s
  · exact .refl s

theorem silent_setMode (mode : Mode) (entity : EntityId) (detail : Option CStr)
    (report : Option FailureReport) :
    Evolves Obs.silent s (setMode s mode entity detail report) := by
  unfold setMode
  split
  · exact .refl s
  · have hwrite : Evolves Obs.silent s (s.write fun l ↦ { l with mode := mode }) :=
      .of_write s _ rfl fun _ ↦ rfl
    have hlevel : Level.system ≠ .entity := by decide
    exact hwrite.trans ((silent_emitEventFull _ (Or.inl hlevel) _ _ _ _ _ _).trans
      (silent_notifySystemHandler _ _ _))

theorem silent_enterDegradedModeUnsafe : Evolves Obs.silent s (enterDegradedModeUnsafe s) := by
  unfold enterDegradedModeUnsafe
  split
  · exact silent_setMode s _ _ _ _
  · exact .refl s

theorem silent_enterSafeModeUnsafe : Evolves Obs.silent s (enterSafeModeUnsafe s) := by
  unfold enterSafeModeUnsafe
  split
  · exact silent_setMode s _ _ _ _
  · exact .refl s

theorem silent_tryRebootUnsafe (reason : Option CStr) :
    Evolves Obs.silent s (tryRebootUnsafe s reason) :=
  (silent_setMode s _ _ _ _).trans (silent_requestReboot _ _)

theorem silent_evaluateDualPath : Evolves Obs.silent s (evaluateDualPath s) := by
  unfold evaluateDualPath
  split
  · exact silent_enterSafeModeUnsafe s
  · exact .refl s

theorem silent_supervisionEnabled : Evolves Obs.silent s (supervisionEnabled s).2 :=
  (silent_syncEnter s).trans (silent_syncExit _)

theorem silent_systemMode : Evolves Obs.silent s (systemMode s).2 :=
  (silent_syncEnter s).trans (silent_syncExit _)

theorem setUnsafe_lastHeartbeatMs (t : HealthTable) (id other : EntityId) (health : Health)
    (errorCode : UInt16) (detail : CStr) :
    ((t.setUnsafe id health errorCode detail).health other).lastHeartbeatMs =
      (t.health other).lastHeartbeatMs := by
  unfold HealthTable.setUnsafe
  split
  · rfl
  · by_cases hother : other = id
    · subst hother
      simp
    · simp [hother]

theorem silent_healthSetUnsafe (id : EntityId) (health : Health) (errorCode : UInt16)
    (detail : Option CStr) :
    Evolves Obs.silent s (healthSetUnsafe s id health errorCode detail) :=
  .of_write s _ rfl fun _ ↦ setUnsafe_lastHeartbeatMs _ _ _ _ _ _

theorem silent_stamp (f : UInt32 → HealthTable → HealthTable) {id : EntityId}
    (hready : s.lib.portReady = true) (hid : ¬ s.lib.health.entityLimit ≤ id)
    (hself : ∀ now, ((f now s.lib.health).health id).lastHeartbeatMs = now)
    (hother : ∀ now other, other ≠ id →
      (f now s.lib.health).health other = s.lib.health.health other) :
    Evolves Obs.silent s (((getNowMs s).2.stamp id).write fun l ↦
      { l with health := f (getNowMs s).1 l.health }) := by
  rw [getNowMs_of_ready hready]
  simp only [State.stamp, if_neg hid]
  refine ⟨rfl, Nat.le_add_right _ _, fun hstopped ↦ by simp [hstopped _ List.prefix_rfl], rfl,
    ?_, [.clock _], rfl, ?_⟩
  · intro other
    by_cases hsame : other = id
    · subst hsame
      refine Or.inr ⟨?_, ?_, ?_⟩
      · simp
      · simp
      · simp [hself]
    · refine Or.inl ⟨?_, ?_⟩
      · simp [hsame]
      · simp [hother _ _ hsame]
  · simp only [List.mem_singleton, forall_eq]
    exact ⟨rfl, rfl⟩

theorem silent_healthResetUnsafe (hready : s.lib.portReady = true) (id : EntityId) :
    Evolves Obs.silent s (healthResetUnsafe s id) := by
  unfold healthResetUnsafe
  split
  · exact .refl s
  · next hid =>
    refine silent_stamp s (fun now t ↦ t.resetUnsafe id now) hready hid ?_ ?_
    · intro now
      simp [HealthTable.resetUnsafe, hid]
    · intro now other hother
      simp [HealthTable.resetUnsafe, hid, hother]

theorem silent_heartbeatNotify (hready : s.lib.portReady = true) (id : EntityId) :
    Evolves Obs.silent s (heartbeatNotify s id) := by
  simp only [heartbeatNotify, syncEnter_lib]
  split
  · exact (silent_syncEnter s).trans (silent_syncExit _)
  · next hid =>
    refine (silent_syncEnter s).trans (.trans ?_ (silent_syncExit _))
    refine silent_stamp _ (fun now t ↦ t.heartbeat id now) ?_ ?_ ?_ ?_
    · rwa [syncEnter_lib]
    · rwa [syncEnter_lib]
    · intro now
      simp [HealthTable.heartbeat, hid]
    · intro now other hother
      simp [HealthTable.heartbeat, hid, hother]

theorem silent_writeSubsystems (f : SubsystemTable → SubsystemTable) :
    Evolves Obs.silent s (s.write fun l ↦ { l with subsystems := f l.subsystems }) :=
  .of_write s _ rfl fun _ ↦ rfl

theorem silent_markLinked (mark : SubsystemTable → SubsystemId → SubsystemTable)
    (detail : CStr) (id : EntityId) (report : FailureReport) :
    Evolves Obs.silent s (markLinked mark detail s id report) := by
  simp only [markLinked]
  split
  · exact (silent_writeSubsystems s fun t ↦ mark t _).trans
      (silent_emitSubsystemState _ _ _ _ _ _ _)
  · exact .refl s

theorem silent_applyFinalAction (id : EntityId) (action : Action) (report : FailureReport) :
    Evolves Obs.silent s (applyFinalAction s id action report) := by
  cases action with
  | degrade => exact (silent_markLinked s _ _ id report).trans (silent_enterDegradedModeUnsafe _)
  | unavailable =>
      exact (silent_markLinked s _ _ id report).trans
        ((silent_enterDegradedModeUnsafe _).trans (silent_evaluateDualPath _))
  | safe => exact (silent_markLinked s _ _ id report).trans (silent_enterSafeModeUnsafe _)
  | reboot => exact (silent_markLinked s _ _ id report).trans (silent_tryRebootUnsafe _ _)
  | none | restart | other code => exact .refl s

theorem silent_chooseAction (report : FailureReport) :
    Evolves Obs.silent s (chooseAction s report).2 := by
  simp only [chooseAction]
  split
  · exact .refl s
  · exact .of_log ⟨rfl, rfl⟩ s

theorem silent_subsystemOnEntityExhausted (sub : SubsystemId) (id : EntityId)
    (report : Option FailureReport) :
    Evolves Obs.silent s (subsystemOnEntityExhausted s sub id report).2 := by
  unfold subsystemOnEntityExhausted
  split
  · exact .refl s
  · split
    · exact .refl s
    · exact .of_log ⟨rfl, rfl⟩ s

theorem silent_resolveExhaustedAction (id : EntityId) (action : Action)
    (report : FailureReport) :
    Evolves Obs.silent s (resolveExhaustedAction s id action report).2 := by
  have hanswer := silent_subsystemOnEntityExhausted s (s.lib.entities id).desc.linkedSubsystem
    id (some report)
  simp only [resolveExhaustedAction]
  split
  · exact .refl s
  · split
    · exact .refl s
    · split
      · exact hanswer.trans (silent_emitSubsystemState _ _ _ _ _ _ _)
      · exact hanswer

theorem silent_failedState (report : FailureReport) :
    Evolves Obs.silent s (failedState s report) := by
  have hlatch : Evolves Obs.silent s (s.write fun l ↦ { l with
      health := (l.health.latchFaultUnsafe report.entity report.reason).2 }) := by
    refine .of_write s _ rfl fun id ↦ ?_
    simp only [HealthTable.latchFaultUnsafe]
    split_ifs <;> rfl
  exact hlatch.trans (silent_healthSetUnsafe _ _ _ _ _)

end Silent

end Fdir
