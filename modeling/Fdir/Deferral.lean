import Fdir.Drain

/-!
# Reports may wait in the queue

A report that goes through the queue is handled by a later tick, but its entity is FAILED at
once.  With a standing clock and callbacks without a memory this makes no difference in the
end: the tick has the outcome of handling the pending reports directly, in the state before
they were made.
-/

namespace Fdir

open Foundation

variable {B : Build}

/-! ## Health written ahead -/

/-- The static variables with other health snapshots. -/
def Lib.withHealth (l : Lib B) (health : EntityId → HealthSnapshot) : Lib B :=
  { l with health := { l.health with health := health } }

@[simp] theorem Lib.withHealth_self (l : Lib B) : l.withHealth l.health.health = l := rfl

/-- The snapshots differ from those of `l` only in what a pending report that will be acted on
writes anyway. -/
def Lib.Ahead (l : Lib B) (pending : List FailureReport) (health : EntityId → HealthSnapshot) :
    Prop :=
  ∀ id, health id ≠ l.health.health id →
    (health id).lastHeartbeatMs = (l.health.health id).lastHeartbeatMs ∧ id < l.entityCount ∧
      ∃ report ∈ pending, report.entity = id ∧ l.raises report

namespace Lib.Ahead

variable {l : Lib B} {report : FailureReport} {pending : List FailureReport}
  {health : EntityId → HealthSnapshot} {now : UInt32}

theorem refl (l : Lib B) (pending : List FailureReport) : l.Ahead pending l.health.health :=
  fun _ hne ↦ absurd rfl hne

theorem mono (h : l.Ahead pending health) {more : List FailureReport} (hmore : pending ⊆ more) :
    l.Ahead more health := by
  intro id hne
  obtain ⟨hbeat, hid, report, hreport, hentity⟩ := h id hne
  exact ⟨hbeat, hid, report, hmore hreport, hentity⟩

theorem lastHeartbeatMs_eq (h : l.Ahead pending health) (id : EntityId) :
    (health id).lastHeartbeatMs = (l.health.health id).lastHeartbeatMs := by
  by_cases hsame : health id = l.health.health id
  · rw [hsame]
  · exact (h id hsame).1

/-- The library answers a report alike, whatever was written ahead. -/
theorem respond_eq (h : l.Ahead pending health) (now : UInt32) (report : FailureReport) :
    (l.withHealth health).respond now report = l.respond now report := by
  have hrecord : ((l.withHealth health).record report.entity).fail B report =
      (l.record report.entity).fail B report := by
    have hbeat := h.lastHeartbeatMs_eq report.entity
    simp only [Record.fail, Lib.record, Lib.withHealth, hbeat]
  have hverdict : (l.withHealth health).verdict ((l.withHealth health).oracle now report) report =
      l.verdict (l.oracle now report) report := by
    have horacle : (l.withHealth health).oracle now report = l.oracle now report := rfl
    simp only [Lib.verdict, Lib.action, hrecord, horacle]
    rfl
  simp only [Lib.respond, hverdict]
  rfl

/-- A report that is not acted on does not account for a difference. -/
theorem tail (h : l.Ahead (report :: pending) health)
    (hreport : l.raises report → l.entityCount ≤ report.entity) : l.Ahead pending health := by
  intro id hne
  obtain ⟨hbeat, hid, report', hmem, hentity, hraises⟩ := h id hne
  refine ⟨hbeat, hid, report', ?_, hentity, hraises⟩
  rcases List.mem_cons.mp hmem with rfl | hmem
  · rw [hentity] at hreport
    exact absurd hid (UInt8.not_lt.mpr (hreport hraises))
  · exact hmem

/-- Handling a report leaves the rest of what was written ahead to the reports after it. -/
theorem absorb (hs : l.Sound) (h : l.Ahead (report :: pending) health) :
    ∃ health', (l.withHealth health).absorb now report =
        (l.absorb now report).withHealth health' ∧
      (l.absorb now report).Ahead pending health' := by
  rw [Lib.absorb_eq, Lib.absorb_eq, h.respond_eq now report]
  by_cases hlatched : l.health.faultIsLatchedUnsafe report.entity report.reason = true
  · have hrespond : l.respond now report = .ignored := if_pos hlatched
    rw [hrespond]
    refine ⟨health, rfl, h.tail fun hraises ↦ ?_⟩
    rw [Lib.raises, hlatched] at hraises
    cases hraises
  by_cases hunknown : l.entityCount ≤ report.entity ∨ (l.entities report.entity).used = false
  · have hrespond : l.respond now report = .unknown := by
      rw [Lib.respond, if_neg hlatched, if_pos hunknown]
    rw [hrespond]
    exact ⟨health, rfl, h.tail fun _ ↦ (hs.unknown_iff report.entity).mp hunknown⟩
  · have hagree := fun {other : EntityId} (hne : other ≠ report.entity) ↦
      Response.agreeOn l hne (l.respond now report)
    have hrespond : l.respond now report = .recovered
        (l.verdict (l.oracle now report) report).1 (l.entities report.entity).desc.linkedSubsystem
        (l.verdict (l.oracle now report) report).2 := by
      rw [Lib.respond, if_neg hlatched, if_neg hunknown]
    rw [hrespond] at hagree ⊢
    generalize l.verdict (l.oracle now report) report = verdict at hagree ⊢
    refine ⟨Function.update health report.entity verdict.1.snapshot, rfl, ?_⟩
    intro id hne
    have hother : id ≠ report.entity := by
      rintro rfl
      refine hne ?_
      change Function.update health report.entity _ report.entity =
        Function.update l.health.health report.entity _ report.entity
      rw [Function.update_self, Function.update_self]
    have hahead : health id ≠ l.health.health id := by
      intro heq
      refine hne ?_
      change Function.update health report.entity _ id =
        Function.update l.health.health report.entity _ id
      rw [Function.update_of_ne hother, Function.update_of_ne hother, heq]
    obtain ⟨hbeat, hid, report', hmem, rfl, hraises⟩ := h id hahead
    refine ⟨?_, hid, report', ?_, rfl, (hagree hother).latched.trans hraises⟩
    · change (Function.update health report.entity _ report'.entity).lastHeartbeatMs =
        (Function.update l.health.health report.entity _ report'.entity).lastHeartbeatMs
      rw [Function.update_of_ne hother, Function.update_of_ne hother, hbeat]
    · rcases List.mem_cons.mp hmem with rfl | hmem
      · exact absurd rfl hother
      · exact hmem

/-- When all pending reports are handled, nothing is ahead any more. -/
theorem foldl_absorb (hs : l.Sound) (h : l.Ahead pending health) :
    pending.foldl (Lib.absorb now) (l.withHealth health) = pending.foldl (Lib.absorb now) l := by
  induction pending generalizing l health with
  | nil =>
      have hsame : health = l.health.health := by
        funext id
        by_contra hne
        obtain ⟨-, -, report, hmem, -⟩ := h id hne
        cases hmem
      rw [hsame, Lib.withHealth_self]
  | cons report pending ih =>
      obtain ⟨health', habsorbed, hrest⟩ : ∃ health', (l.withHealth health).absorb now report =
          (l.absorb now report).withHealth health' ∧ (l.absorb now report).Ahead pending health' :=
        h.absorb hs
      rw [List.foldl_cons, List.foldl_cons, habsorbed]
      exact ih (Lib.sound_handle hs _ report) hrest

end Lib.Ahead

/-! ## Reports through the queue -/

/-- The calls that put a report into the queue. -/
def Call.defers : Call → Prop
  | .reportFault _ _ _ _ | .reportFaultEx _ _ _ _ _ | .submitFailure _ => True
  | _ => False

/-- `s'` has been reached from `s` by reports into the queue. -/
structure Deferred (s s' : State B) : Prop where
  steady : Steady s'
  valid : s'.lib.queue.Valid
  clock : s'.world.clock = s.world.clock
  lib : s'.lib.unqueued = (s.lib.withHealth s'.lib.health.health).unqueued
  ahead : s.lib.Ahead s'.lib.queue.pending s'.lib.health.health

namespace Deferred

variable {s s' : State B}

theorem refl (hs : Steady s) (hq : s.lib.queue.Valid) : Deferred s s :=
  ⟨hs, hq, rfl, rfl, .refl _ _⟩

/-- A call that changes the queue alone, and drops no report. -/
theorem of_queue (h : Deferred s s') {s'' : State B} {P : Obs → Prop} (hworld : Evolves P s' s'')
    {queue : FailureQueue B.failureQueueCap} (hlib : s''.lib = { s'.lib with queue := queue })
    (hvalid : queue.Valid) (hpending : s'.lib.queue.pending ⊆ queue.pending) :
    Deferred s s'' where
  steady := h.steady.idle hworld (by rw [hlib]; rfl)
  valid := by rwa [hlib]
  clock := (hworld.clock_const h.steady.stopped).trans h.clock
  lib := by
    rw [hlib]
    exact h.lib
  ahead := by
    rw [hlib]
    exact h.ahead.mono hpending

theorem entityCount_eq (h : Deferred s s') : s'.lib.entityCount = s.lib.entityCount := by
  have hcount := congrArg Lib.entityCount h.lib
  exact hcount

theorem pending_putUnsafe {cap : ℕ} {q : FailureQueue cap} (hq : q.Valid) (hcap : cap ≤ 255)
    (report : FailureReport) : (q.putUnsafe report).2.pending =
      if (q.putUnsafe report).1 = 0 then q.pending ++ [report] else q.pending := by
  by_cases hroom : q.pending.length < cap
  · rw [if_pos ((q.putUnsafe_fst_eq_zero_iff report).mpr hroom)]
    exact (FailureQueue.putUnsafe_of_room hq hroom (hroom.trans_le hcap) report).2
  · rw [if_neg fun hput ↦ hroom ((q.putUnsafe_fst_eq_zero_iff report).mp hput),
      FailureQueue.putUnsafe_of_full (Nat.le_of_not_lt hroom)]
    exact q.pending_fullLatched true

theorem subset_putUnsafe {cap : ℕ} {q : FailureQueue cap} (hq : q.Valid) (hcap : cap ≤ 255)
    (report : FailureReport) : q.pending ⊆ (q.putUnsafe report).2.pending := by
  rw [pending_putUnsafe hq hcap]
  split
  · exact List.subset_append_left _ _
  · exact List.Subset.refl _

/-- The health of a reported entity is written ahead of the handling. -/
theorem accept (h : Deferred s s') {s'' : State B} {P : Obs → Prop} (hworld : Evolves P s' s'')
    (hs : s''.lib.Sound) (hcap : B.failureQueueCap ≤ 255) {report : FailureReport}
    {detail : CStr} (hlib : s''.lib = s'.lib.accept report detail)
    (hraises : s'.lib.raises report)
    (hput : (s'.lib.queue.putUnsafe report).1 = 0) : Deferred s s'' := by
  have hpending : s''.lib.queue.pending = s'.lib.queue.pending ++ [report] := by
    rw [hlib]
    exact (pending_putUnsafe h.valid hcap report).trans (if_pos hput)
  have hbefore : s.lib.raises report :=
    (congrArg (fun l : Lib B ↦ l.health.faultIsLatchedUnsafe report.entity report.reason)
      h.lib).symm.trans hraises
  refine ⟨⟨hs, ?_, ?_, hworld.clockStopped h.steady.stopped⟩, ?_,
    (hworld.clock_const h.steady.stopped).trans h.clock, ?_, ?_⟩
  · rw [hlib]
    exact h.steady.enabled
  · rw [hlib]
    exact h.steady.regular.congr (fun _ ↦ rfl) rfl
  · rw [hlib]
    exact h.valid.put report
  · have hwritten : s''.lib.unqueued = s'.lib.unqueued.withHealth s''.lib.health.health := by
      rw [hlib]
      simp only [Lib.accept, HealthTable.setUnsafe]
      split <;> rfl
    rw [hwritten, h.lib]
    rfl
  · rw [hpending]
    intro id hne
    by_cases hid : id = report.entity ∧ id < s.lib.entityCount
    · refine ⟨?_, hid.2, report, List.mem_append_right _ List.mem_cons_self, hid.1.symm, hbefore⟩
      rw [← h.ahead.lastHeartbeatMs_eq id, hlib]
      exact setUnsafe_lastHeartbeatMs _ _ _ _ _ _
    · have hsame : s''.lib.health.health id = s'.lib.health.health id := by
        rw [hlib]
        simp only [Lib.accept, HealthTable.setUnsafe]
        split
        · rfl
        · next hknown =>
          refine Function.update_of_ne (fun heq ↦ hid ⟨heq, ?_⟩) _ _
          rw [heq, ← h.entityCount_eq, ← h.steady.sound.limit_eq]
          exact UInt8.not_le.mp hknown
      rw [hsame] at hne ⊢
      obtain ⟨hbeat, hknown, report', hmem, hentity⟩ := h.ahead id hne
      exact ⟨hbeat, hknown, report', List.mem_append_left _ hmem, hentity⟩

/-- A call that puts a report into the queue, or drops it there. -/
theorem step (h : Deferred s s') (hcap : B.failureQueueCap ≤ 255) {c : Call} (hc : c.defers) :
    Deferred s (after s' c) := by
  have hs := h.steady.sound
  have hworld := evolves_after hs c
  have hreport : ∀ (entity : EntityId) (reason : Reason) (errorCode : UInt16)
      (detail : Option CStr) (flags : UInt8),
      after s' c = (reportFaultImpl s' entity reason errorCode detail flags).2 →
        Deferred s (after s' c) := by
    intro entity reason errorCode detail flags hafter
    have hreported := reportFaultImpl_reported s' entity reason errorCode detail flags
    rw [← hafter] at hreported
    generalize (reportFaultImpl s' entity reason errorCode detail flags).1 = status at hreported
    generalize hlib : (after s' c).lib = l at hreported
    cases hreported with
    | suppressed => exact h.of_queue hworld hlib h.valid (List.Subset.refl _)
    | rejected report =>
        exact h.of_queue hworld hlib (h.valid.put report) (subset_putUnsafe h.valid hcap report)
    | accepted report detail hentity hreason _ hlatch _ hput =>
        subst hentity hreason
        exact h.accept hworld (after_sound hs c) hcap hlib hlatch hput
  cases c with
  | reportFault entity reason errorCode detail =>
      exact hreport entity reason errorCode detail faultFlagCritical rfl
  | reportFaultEx entity reason errorCode detail flags =>
      exact hreport entity reason errorCode detail flags rfl
  | submitFailure report =>
      cases report with
      | none => exact h
      | some report =>
          refine h.of_queue hworld ?_ (h.valid.put report) (subset_putUnsafe h.valid hcap report)
          simp only [after, Call.exec, submitFailure, supervisionEnabled_fst,
            if_neg h.steady.enabled]
          split <;> simp only [failureQueuePut_lib, supervisionEnabled_lib]
  | _ => exact hc.elim

/-- Handling the pending reports makes up for the health written ahead. -/
theorem twins (h : Deferred s s') (hs : Steady s) :
    Twins (handleAll s s'.lib.queue.pending) (handleAll s' s'.lib.queue.pending) := by
  obtain ⟨hleft, hclock, hlib⟩ := hs.handleAll s'.lib.queue.pending
  obtain ⟨hright, hclock', hlib'⟩ := h.steady.handleAll s'.lib.queue.pending
  refine ⟨hleft, hright, ?_, by rw [hclock', hclock, h.clock]⟩
  have hsound : s.lib.unqueued.Sound := hs.sound.congr rfl rfl rfl rfl rfl
  have hahead : s.lib.unqueued.Ahead s'.lib.queue.pending s'.lib.health.health := h.ahead
  rw [hlib', hlib, h.clock, h.lib]
  exact hahead.foldl_absorb hsound

end Deferred

/-- From every reachable state with supervision enabled, a standing clock and callbacks that
answer by their arguments and the restart counters: after any reports into the queue, a tick
leaves none pending and has the outcome of handling the pending ones directly, in the state
before they were made, and one watchdog scan. -/
theorem deferral_harmless (clock : ℕ) (pace : List Obs → ℕ) (config : Option Config)
    (lock unlock : Bool) (hcap : B.failureQueueCap ≤ 255) (calls reports : List Call) :
    let s : State B := Run.run after (started clock pace config lock unlock) calls
    let s' := Run.run after s reports
    s.lib.supervisionEnabled ≠ 0 → s.lib.Regular → s.ClockStopped → (∀ c ∈ reports, c.defers) →
      (supervisorTick s').lib.queue.pending = [] ∧
        SameOutcome (checkWatchdogs (handleAll s s'.lib.queue.pending)).lib
          (supervisorTick s').lib := by
  intro s s' henabled hregular hstopped hreports
  obtain ⟨hs, hvalid⟩ := run_valid clock pace config lock unlock calls
  have hsteady : Steady s := ⟨hs, henabled, hregular, hstopped⟩
  have hdeferred : Deferred s s' := by
    have halong : Run.Along after (fun _ c ↦ c.defers) s reports :=
      Run.along_of_forall (fun _ _ h ↦ h) hreports
    exact halong.invariant (Deferred s) (fun _ _ h hc ↦ h.step hcap hc) (.refl hsteady hvalid)
  obtain ⟨drained, hdrains, htick, hempty⟩ := supervisorTick_drains hdeferred.steady.sound
    hdeferred.steady.enabled hdeferred.valid
  refine ⟨hempty, ?_⟩
  have hasked := Twins.of_idle hdeferred.steady (silent_supervisionEnabled s')
    (by rw [supervisionEnabled_lib])
  have hhandled := (hdeferred.twins hsteady).trans (hasked.handleAll _)
  rw [htick]
  exact (hhandled.trans (hdrains.twins hasked.right)).checkWatchdogs.sameOutcome

/-- An entity without restarts, reported twice, and an unknown one. -/
theorem deferral_harmless_three :
    let desc : EntityDesc := { EntityDesc.zero with
      onExhausted := .degrade
      linkedSubsystem := subsystemNone }
    let calls : List Call := [.entityRegister (some desc) true]
    let reports : List Call := [.reportFault 0 .timeout 7 none, .reportFault 0 .ioError 8 none,
      .reportFault 5 .timeout 7 none]
    let s : State .default := Run.run after (started 0 (fun _ ↦ 0) none true true) calls
    let s' := Run.run after s reports
    (supervisorTick s').lib.queue.pending = [] ∧
      SameOutcome (checkWatchdogs (handleAll s s'.lib.queue.pending)).lib
        (supervisorTick s').lib := by
  intro desc calls reports
  have hstart : ∀ s : State .default,
      s = Run.run after (started 0 (fun _ ↦ 0) none true true) calls →
        s.lib.supervisionEnabled ≠ 0 ∧ s.lib.Regular ∧ s.ClockStopped := by
    rintro s rfl
    have hdesc : ∀ id : EntityId, (Function.update (fun _ ↦ EntitySlot.zero) 0
        (registeredSlot .default desc) id).desc.restart = none ∧
          (Function.update (fun _ ↦ EntitySlot.zero) 0
            (registeredSlot .default desc) id).desc.decide = none := by
      intro id
      simp only [Function.update_apply]
      split <;> exact ⟨rfl, rfl⟩
    refine ⟨by decide +kernel, ⟨fun id callback h ↦ ?_, fun id callback h ↦ ?_,
      fun sub callback h ↦ ?_⟩, fun _ _ ↦ rfl⟩
    · have hnone := (hdesc id).1.symm.trans h
      cases hnone
    · have hnone := (hdesc id).2.symm.trans h
      cases hnone
    · have hnone : SubsystemTable.init.handler sub = some callback := h
      cases hnone
  obtain ⟨henabled, hregular, hstopped⟩ := hstart _ rfl
  have hreports : ∀ c ∈ reports, c.defers := by
    intro c hc
    simp only [reports, List.mem_cons, List.not_mem_nil, or_false] at hc
    rcases hc with rfl | rfl | rfl <;> exact trivial
  exact deferral_harmless (B := .default) 0 (fun _ ↦ 0) none true true (by decide) calls reports
    henabled hregular hstopped hreports

end Fdir
