import Fdir.Machine

/-!
# The ground bypass under interleaving

While supervision is disabled the queue should stay empty and the fault path
should do nothing.  The flag is tested in one critical section and acted on in
the next, and the disable can fall in between: the two sections that act are
putting a submitted report and handling a report.  A run is inhibited exactly if
neither is entered while supervision is disabled.
-/

namespace Fdir

open Foundation

variable {B : Build}

/-! ## Sections that do nothing -/

/-- An interaction that belongs to a recovery. -/
def Obs.recovers : Obs → Prop
  | .decide _ _ _ | .exhausted _ _ _ _ | .restart _ _ _ | .reboot _ => True
  | .event e => e.kind = .failure ∨ e.kind = .watchdog ∨ e.kind = .restart ∨ e.kind = .modeChange
  | .lock | .unlock | .clock _ | .escalation _ _ => False

/-- No recovery takes place between `s` and `s'`. -/
structure Quiet (s s' : State B) : Prop where
  trace : ∃ new, s'.world.trace = s.world.trace ++ new ∧ ∀ o ∈ new, ¬ o.recovers
  outcome : SameOutcome s.lib s'.lib

def Lib.Disabled (l : Lib B) : Prop := l.supervisionEnabled = 0

/-- While supervision is disabled nothing is pending. -/
def Lib.Silenced (l : Lib B) : Prop := l.Disabled → l.queue.pending = []

theorem Quiet.of_lib_eq {s s' : State B} (hworld : Evolves (fun o ↦ ¬ o.recovers) s s')
    (hlib : s'.lib = s.lib) : Quiet s s' where
  trace := hworld.trace
  outcome := by
    rw [hlib]
    exact ⟨rfl, rfl, fun _ ↦ rfl⟩

theorem Quiet.refl (s : State B) : Quiet s s := .of_lib_eq (.refl s) rfl

theorem evolves_lock (s : State B) :
    Evolves (fun o ↦ ¬ o.recovers) s (syncExit (syncEnter s)) :=
  (Evolves.of_syncEnter id s).trans (.of_syncExit id _)

theorem quiet_lock (s : State B) : Quiet s (syncExit (syncEnter s)) :=
  .of_lib_eq (evolves_lock s) (by rw [syncExit_lib, syncEnter_lib])

/-- A recovery shows in the trace: handling a report that is not latched is not
quiet. -/
theorem not_quiet_handleFailureLocked {s : State B} (hs : s.lib.Sound) {report : FailureReport}
    (hraises : s.lib.raises report) : ¬ Quiet s (handleFailureLocked s report) := by
  rintro ⟨⟨new, htrace, hnew⟩, -⟩
  have hnone : new.filterMap Obs.anomaly = [] := by
    refine List.filterMap_eq_nil_iff.mpr fun o ho ↦ ?_
    cases o with
    | event e =>
        have hquiet := hnew _ ho
        simp only [Obs.recovers, not_or] at hquiet
        simp [Obs.anomaly, hquiet.1, hquiet.2.1]
    | _ => rfl
  have hworld := (handleFailureLocked_world hs report).2.2
  rw [State.anomalies, htrace, List.filterMap_append, hnone, State.anomalies] at hworld
  have hphases := List.append_cancel_left hworld
  simp [Lib.phases, hraises] at hphases

/-! ## The queue while supervision is disabled -/

theorem Lib.put_of_silenced {l : Lib B} (hqueue : l.queue.Valid) (hempty : l.queue.pending = [])
    (report : FailureReport) :
    (l.queue.putUnsafe report).1 = 0 ∧ (l.queue.putUnsafe report).2.pending = [report] := by
  have hroom : l.queue.pending.length < B.failureQueueCap := by
    rw [hempty]
    exact B.failureQueueCap_pos
  have hcounter : l.queue.pending.length < 255 := by
    rw [hempty]
    decide
  refine ⟨(FailureQueue.putUnsafe_fst_eq_zero_iff _ _).mpr hroom, ?_⟩
  rw [(FailureQueue.putUnsafe_of_room hqueue hroom hcounter report).2, hempty, List.nil_append]

theorem Effect.silenced {c : Call} {l l' : Lib B} (hqueue : l.queue.Valid) (h : l.Silenced)
    (he : Effect c l l') : l'.Silenced := by
  cases he with
  | supervise enabled =>
      intro hdisabled
      have hzero : enabled = 0 := hdisabled
      simp [Lib.supervise, hzero]
  | handle ans report _ henabled =>
      intro hdisabled
      rw [Lib.Disabled, Lib.handle_supervisionEnabled] at hdisabled
      exact absurd hdisabled henabled
  | watch ans id now maxAge _ henabled =>
      intro hdisabled
      rw [Lib.Disabled, Lib.handle_supervisionEnabled] at hdisabled
      exact absurd hdisabled henabled
  | dequeue ans report _ henabled =>
      intro hdisabled
      rw [Lib.Disabled, Lib.handle_supervisionEnabled] at hdisabled
      exact absurd hdisabled henabled
  | put report _ henabled => exact fun hdisabled ↦ absurd hdisabled henabled
  | accept report detail _ henabled => exact fun hdisabled ↦ absurd hdisabled henabled
  | reject report hput =>
      exact fun hdisabled ↦ absurd (Lib.put_of_silenced hqueue (h hdisabled) report).1 hput
  | _ => exact h

/-! ## Turns while supervision is disabled -/

/-- The calls of the fault path. -/
def Call.onFaultPath : Call → Prop
  | .reportFault _ _ _ _ | .reportFaultEx _ _ _ _ _ | .submitFailure _ | .handleFailure _
  | .supervisorTick | .checkWatchdogs => True
  | _ => False

/-- The sections of the fault path; all others belong to the worker gate. -/
def Pc.onFaultPath : Pc → Prop
  | .gateMode _ | .gateHeartbeat _ | .gateRun _ => False
  | _ => True

/-- The sections that act on an earlier test of the supervision flag: putting a
report, and handling one that is not latched. -/
def Pc.actsOn (l : Lib B) : Pc → Prop
  | .submitPut _ => True
  | .handleLocked report _ => l.raises report
  | _ => False

namespace Machine

def onFaultPath (m : Machine B) : Turn → Prop
  | .call _ c => c.onFaultPath
  | .advance thread => (m.pcs thread).onFaultPath
  | .elapse _ => False

/-- While supervision is disabled nothing is pending after the turn, and a turn of the
fault path does nothing. -/
def Inhibited (m : Machine B) (turn : Turn) : Prop :=
  (m.step turn).state.lib.Silenced ∧
    (m.state.lib.Disabled → m.onFaultPath turn → Quiet m.state (m.step turn).state)

/-- No thread acts on the flag while supervision is disabled. -/
def Restrained (m : Machine B) (turn : Turn) : Prop :=
  m.state.lib.Disabled → ∀ thread, turn = .advance thread →
    ¬ (m.pcs thread).actsOn m.state.lib

end Machine

theorem Does.silenced {pc : Pc} {l l' : Lib B} (h : l.Silenced)
    (hacts : l.Disabled → ¬ pc.actsOn l) (hdoes : Does l pc l') : l'.Silenced := by
  cases hdoes with
  | same | beat => exact h
  | put report => exact fun hdisabled ↦ absurd trivial (hacts hdisabled)
  | get =>
      intro hdisabled
      have hnil := h hdisabled
      rw [FailureQueue.getUnsafe_of_nil hnil]
      exact hnil
  | handle ans report ret =>
      intro hdisabled
      rw [Lib.Disabled, Lib.handle_supervisionEnabled] at hdisabled
      rw [Lib.handle_queue]
      exact h hdisabled

theorem Pc.quiet {s : State B} (hempty : s.lib.queue.pending = []) {pc : Pc}
    (hpath : pc.onFaultPath) (hacts : ¬ pc.actsOn s.lib) : Quiet s (pc.advance s).2 := by
  cases pc with
  | idle => exact .refl s
  | submitTest | tickTest | handleTest | watchTest => exact quiet_lock s
  | submitPut report => exact absurd trivial hacts
  | drain =>
      have hget := congrArg Prod.fst (FailureQueue.getUnsafe_of_nil hempty)
      simp only [Pc.advance, failureQueueGet_of_none hget]
      exact quiet_lock s
  | handleLocked report ret =>
      have hlatched : s.lib.health.faultIsLatchedUnsafe report.entity report.reason = true := by
        simpa [Pc.actsOn, Lib.raises] using hacts
      simp only [Pc.advance, handleFailureLocked_of_latched hlatched]
      exact quiet_lock s
  | watchClock => exact .of_lib_eq (.of_getNowMs (fun _ ↦ id) s) (getNowMs_lib s)
  | watchScan readAt nowMs maxAge next => exact quiet_lock s
  | gateMode | gateHeartbeat | gateRun => exact hpath.elim

theorem reportFaultImpl_of_disabled {s : State B} (hdisabled : s.lib.Disabled)
    (entity : EntityId) (reason : Reason) (errorCode : UInt16) (detail : Option CStr)
    (flags : UInt8) :
    reportFaultImpl s entity reason errorCode detail flags = (.ok, syncExit (syncEnter s)) := by
  have hzero : (syncEnter s).lib.supervisionEnabled = 0 := by
    rw [syncEnter_lib]
    exact hdisabled
  simp only [reportFaultImpl, if_pos hzero]

/-- A call of one section on the fault path is quiet while supervision is disabled. -/
theorem Call.quiet {s : State B} (hdisabled : s.lib.Disabled) {c : Call}
    (hentry : c.entry = none) (hpath : c.onFaultPath) : Quiet s (after s c) := by
  cases c with
  | reportFault entity reason errorCode detail =>
      have hrun := reportFaultImpl_of_disabled hdisabled entity reason errorCode detail
        faultFlagCritical
      have hafter : after s (.reportFault entity reason errorCode detail) =
          syncExit (syncEnter s) := congrArg Prod.snd hrun
      rw [hafter]
      exact quiet_lock s
  | reportFaultEx entity reason errorCode detail flags =>
      have hrun := reportFaultImpl_of_disabled hdisabled entity reason errorCode detail flags
      have hafter : after s (.reportFaultEx entity reason errorCode detail flags) =
          syncExit (syncEnter s) := congrArg Prod.snd hrun
      rw [hafter]
      exact quiet_lock s
  | submitFailure report | handleFailure report =>
      cases report with
      | none => exact .refl s
      | some report => cases hentry
  | supervisorTick | checkWatchdogs => cases hentry
  | _ => exact hpath.elim

namespace Machine

/-- What holds as long as turns are inhibited. -/
structure Bypassed (m : Machine B) : Prop where
  sound : m.state.lib.Sound
  valid : m.state.lib.queue.Valid
  silenced : m.state.lib.Silenced

theorem Bypassed.step {m : Machine B} (h : m.Bypassed) {turn : Turn}
    (hinhibited : m.Inhibited turn) : (m.step turn).Bypassed where
  sound := (m.stride turn).sound h.sound
  valid := valid_step h.sound h.valid turn
  silenced := hinhibited.1

/-- A turn is inhibited exactly if it does not act on the flag while supervision is
disabled. -/
theorem Bypassed.inhibited_iff {m : Machine B} (h : m.Bypassed) (turn : Turn) :
    m.Inhibited turn ↔ m.Restrained turn := by
  constructor
  · rintro ⟨hsilenced, hquiet⟩ hdisabled thread rfl hacts
    have hempty := h.silenced hdisabled
    cases hpc : m.pcs thread with
    | submitPut report =>
        have hlib : (m.step (.advance thread)).state.lib =
            { m.state.lib with queue := (m.state.lib.queue.putUnsafe report).2 } := by
          simp only [Machine.step, hpc, Pc.advance, failureQueuePut_lib]
        have hput := (Lib.put_of_silenced h.valid hempty report).2
        rw [hlib] at hsilenced
        have hnil : (m.state.lib.queue.putUnsafe report).2.pending = [] := hsilenced hdisabled
        rw [hput] at hnil
        cases hnil
    | handleLocked report ret =>
        rw [hpc] at hacts
        have hpath : m.onFaultPath (.advance thread) := by
          simp [onFaultPath, hpc, Pc.onFaultPath]
        have hrun : (m.step (.advance thread)).state = handleFailureLocked m.state report := by
          simp only [Machine.step, hpc, Pc.advance]
        have hnow := hquiet hdisabled hpath
        rw [hrun] at hnow
        exact not_quiet_handleFailureLocked h.sound hacts hnow
    | _ =>
        rw [hpc] at hacts
        exact hacts
  · intro hrestrained
    constructor
    · rcases Machine.does h.sound.limit_eq turn with ⟨c, heffect⟩ | ⟨thread, hturn, hdoes⟩
      · exact heffect.silenced h.valid h.silenced
      · exact hdoes.silenced h.silenced fun hdisabled ↦ hrestrained hdisabled thread hturn
    · intro hdisabled hpath
      cases turn with
      | call thread c =>
          simp only [Machine.step]
          split
          · split
            · next hentry => exact c.quiet hdisabled hentry hpath
            · exact .refl _
          · exact .refl _
      | advance thread =>
          exact Pc.quiet (h.silenced hdisabled) hpath (hrestrained hdisabled thread rfl)
      | elapse ms => exact hpath.elim

end Machine

/-- For every interleaving: the ground bypass inhibits recovery throughout a run if
and only if no thread puts a report it submits, or handles a report that is not
latched, while supervision is disabled. -/
theorem bypass_inhibits_iff (clock : ℕ) (pace : List Obs → ℕ) (config : Option Config)
    (lock unlock : Bool) (turns : List Turn) :
    Run.Along Machine.step Machine.Inhibited
        (Machine.started clock pace config lock unlock : Machine B) turns ↔
      Run.Along Machine.step Machine.Restrained
        (Machine.started clock pace config lock unlock : Machine B) turns :=
  Run.along_congr Machine.Bypassed (fun _ _ h hinhibited ↦ h.step hinhibited)
    (fun _ turn h ↦ h.inhibited_iff turn)
    ⟨started_sound _ _ _ _ _, FailureQueue.valid_init B.failureQueueCap_pos, fun _ ↦ rfl⟩

/-- The supervisor has tested the flag when ground disables supervision, and handles
its report nevertheless. -/
theorem bypass_overtaken_by_tick :
    ¬ Run.Along Machine.step Machine.Inhibited
      (Machine.started 0 (fun _ ↦ 1) none true true : Machine .default)
      [.call 0 (.entityRegister (some .zero) true), .call 0 (.reportFault 0 .timeout 7 none),
        .call 1 .supervisorTick, .advance 1, .advance 1, .advance 1,
        .call 2 (.setSupervisionEnabled 0), .advance 1] := by
  intro h
  have hlast := (Run.along_iff.mp h) [.call 0 (.entityRegister (some .zero) true),
    .call 0 (.reportFault 0 .timeout 7 none), .call 1 .supervisorTick, .advance 1, .advance 1,
    .advance 1, .call 2 (.setSupervisionEnabled 0)] (.advance 1) [] rfl
  have hquiet := hlast.2 rfl trivial
  have hlatched := congrArg Record.faultLatched (hquiet.outcome.record 0)
  exact absurd hlatched (by decide)

end Fdir
