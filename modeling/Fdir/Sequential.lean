import Fdir.Drain
import Fdir.Machine

/-!
# A call that is not interleaved

A thread that no other thread interrupts makes its call in exactly the way the
functions of `recovery.c`, `report.c` and `worker.c` compose the critical
sections: every run of complete calls is a run of the machine.
-/

namespace Fdir

open Foundation

variable {B : Build}

/-- The critical sections of one thread, without any other. -/
abbrev Steps : Pc × State B → Pc × State B → Prop :=
  Relation.TransGen fun a b ↦ a.1.advance a.2 = b

theorem Steps.single {pc pc' : Pc} {s s' : State B} (h : pc.advance s = (pc', s')) :
    Steps (pc, s) (pc', s') :=
  Relation.TransGen.single h

theorem Steps.congr {pc pc' : Pc} {s s' : State B} {a : Pc × State B}
    (hnext : pc.advance s = pc'.advance s') (h : Steps (pc', s') a) : Steps (pc, s) a := by
  obtain ⟨b, hfirst, hrest⟩ := Relation.TransGen.head'_iff.mp h
  exact Relation.TransGen.head'_iff.mpr ⟨b, hnext.trans hfirst, hrest⟩

theorem submit_steps (s : State B) (report : FailureReport) :
    Steps (.submitTest report, s) (.idle, (submitFailure s (some report)).2) := by
  by_cases henabled : s.lib.supervisionEnabled = 0
  · apply Steps.single
    simp [Pc.advance, submitFailure, henabled]
  · have htest : Steps (.submitTest report, s) (.submitPut report, (supervisionEnabled s).2) := by
      apply Steps.single
      simp [Pc.advance, henabled]
    have hput : (submitFailure s (some report)).2 =
        (failureQueuePut (supervisionEnabled s).2 report).2 := by
      simp only [submitFailure, supervisionEnabled_fst, if_neg henabled]
      split <;> rfl
    rw [hput]
    exact htest.trans (.single rfl)

theorem handle_steps (s : State B) (report : FailureReport) (ret : Return) :
    Steps (.handleTest report ret, s) (ret.pc, handleFailure s (some report)) := by
  by_cases henabled : s.lib.supervisionEnabled = 0
  · apply Steps.single
    simp [Pc.advance, handleFailure, henabled]
  · have htest : Steps (.handleTest report ret, s)
        (.handleLocked report ret, (supervisionEnabled s).2) := by
      apply Steps.single
      simp [Pc.advance, henabled]
    rw [handleFailure_of_enabled henabled]
    exact htest.trans (.single rfl)

theorem drain_steps {s s' : State B} {reports : List FailureReport} (h : Drains s reports s') :
    Steps (.drain, s) (.watchClock, s') := by
  induction h with
  | done hget =>
      apply Steps.single
      simp only [Pc.advance, hget]
  | @next s s' report reports hget hrest ih =>
      have htake : Steps (.drain, s) (.handleTest report .drain, (failureQueueGet s).2) := by
        apply Steps.single
        simp only [Pc.advance, hget]
      exact htake.trans ((handle_steps _ report .drain).trans ih)

theorem firstDue_of_lt {l : Lib B} {i : ℕ} (hlt : i < l.entityCount.toNat)
    (nowMs maxAge : UInt32) :
    firstDue l nowMs maxAge i =
      if watchdogDue l nowMs maxAge (UInt8.ofNat i) then some i
      else firstDue l nowMs maxAge (i + 1) := by
  obtain ⟨n, hn⟩ := Nat.exists_eq_add_of_lt hlt
  have hlength : l.entityCount.toNat - i = n + 1 := by omega
  have hlength' : l.entityCount.toNat - (i + 1) = n := by omega
  simp only [firstDue, hlength, hlength', List.range'_succ, List.find?_cons]
  split
  · next hdue => rw [if_pos hdue]
  · next hdue => rw [if_neg (by simpa using hdue)]

theorem firstDue_of_ge {l : Lib B} {i : ℕ} (hge : l.entityCount.toNat ≤ i)
    (nowMs maxAge : UInt32) : firstDue l nowMs maxAge i = none := by
  simp [firstDue, Nat.sub_eq_zero_of_le hge]

theorem scan_steps (readAt : ℕ) (nowMs maxAge : UInt32) (rounds i : ℕ) (s : State B)
    (hrounds : 255 ≤ rounds + i) :
    Steps (.watchScan readAt nowMs maxAge i, s)
      (.idle, syncExit (scanLoop nowMs maxAge rounds i (syncEnter s))) := by
  induction rounds generalizing i s with
  | zero =>
      have hcount := s.lib.entityCount.toNat_lt
      apply Steps.single
      simp only [Pc.advance, syncEnter_lib, firstDue_of_ge (by omega : s.lib.entityCount.toNat ≤ i)]
      rfl
  | succ rounds ih =>
      have hcount : (syncEnter s).lib.entityCount.toNat = s.lib.entityCount.toNat := by
        rw [syncEnter_lib]
      simp only [scanLoop]
      split
      · next hlt =>
        have hfirst := firstDue_of_lt hlt nowMs maxAge
        split
        · next hdue =>
          rw [if_pos hdue] at hfirst
          have hstop : Steps (.watchScan readAt nowMs maxAge i, s)
              (.handleTest (watchdogReport B (UInt8.ofNat i) nowMs)
                (.scan readAt nowMs maxAge (i + 1)), syncExit (syncEnter s)) := by
            apply Steps.single
            simp only [Pc.advance, hfirst]
          exact hstop.trans ((handle_steps _ _ _).trans (ih (i + 1) _ (by omega)))
        · next hdue =>
          rw [if_neg hdue] at hfirst
          have hskip : (Pc.watchScan readAt nowMs maxAge i).advance s =
              (Pc.watchScan readAt nowMs maxAge (i + 1)).advance s := by
            simp only [Pc.advance, hfirst]
          exact Steps.congr hskip (ih (i + 1) s (by omega))
      · next hge =>
        apply Steps.single
        simp only [Pc.advance, firstDue_of_ge (Nat.le_of_not_lt hge)]

theorem watch_steps (s : State B) : Steps (.watchClock, s) (.idle, checkWatchdogs s) := by
  have hclock : Steps (.watchClock, s) (.watchTest (getNowMs s).2.world.clock (getNowMs s).1
      (heartbeatMaxAgeMs (getNowMs s).2.lib.config), (getNowMs s).2) := .single rfl
  refine hclock.trans ?_
  by_cases henabled : s.lib.supervisionEnabled = 0
  · apply Steps.single
    simp [Pc.advance, checkWatchdogs, henabled]
  · have htest : Steps (.watchTest (getNowMs s).2.world.clock (getNowMs s).1
        (heartbeatMaxAgeMs (getNowMs s).2.lib.config), (getNowMs s).2)
        (.watchScan (getNowMs s).2.world.clock (getNowMs s).1
        (heartbeatMaxAgeMs (getNowMs s).2.lib.config) 0,
        (supervisionEnabled (getNowMs s).2).2) := by
      apply Steps.single
      simp [Pc.advance, henabled]
    have hscan := scan_steps (getNowMs s).2.world.clock (getNowMs s).1
      (heartbeatMaxAgeMs (getNowMs s).2.lib.config) 255 0 (supervisionEnabled (getNowMs s).2).2
      (le_refl _)
    have hrun : checkWatchdogs s = syncExit (scanLoop (getNowMs s).1
        (heartbeatMaxAgeMs (getNowMs s).2.lib.config) 255 0
        (syncEnter (supervisionEnabled (getNowMs s).2).2)) := by
      simp only [checkWatchdogs, supervisionEnabled_fst, getNowMs_lib, if_neg henabled]
    rw [hrun]
    exact htest.trans hscan

theorem tick_steps {s : State B} (hs : s.lib.Sound) (hqueue : s.lib.queue.Valid) :
    Steps (.tickTest, s) (.idle, supervisorTick s) := by
  by_cases henabled : s.lib.supervisionEnabled = 0
  · apply Steps.single
    simp [Pc.advance, supervisorTick, henabled]
  · have htest : Steps (.tickTest, s) (.drain, (supervisionEnabled s).2) := by
      apply Steps.single
      simp [Pc.advance, henabled]
    have hlib := supervisionEnabled_lib s
    have hlength := FailureQueue.length_pending_le s.lib.queue
    obtain ⟨hdrains, -⟩ := drainQueue_drains 256 (supervisionEnabled s).2 (by rwa [hlib])
      (by rwa [hlib]) (by rwa [hlib]) (by rw [hlib]; omega)
    rw [supervisorTick_of_enabled henabled]
    exact htest.trans ((drain_steps hdrains).trans (watch_steps _))

theorem gate_steps (s : State B) (id : EntityId) :
    Steps (.gateMode id, s) (.idle, (workerMayRun s id).2) := by
  simp only [workerMayRun]
  split
  · next hmode =>
    have hfirst : Steps (.gateMode id, s) (.gateHeartbeat id, (systemMode s).2) := by
      apply Steps.single
      simp only [Pc.advance, if_pos hmode]
    exact hfirst.trans (.single rfl)
  · next hmode =>
    have hfirst : Steps (.gateMode id, s) (.gateRun id, (systemMode s).2) := by
      apply Steps.single
      simp only [Pc.advance, if_neg hmode]
    exact hfirst.trans (.single rfl)

theorem entry_steps {s : State B} (hs : s.lib.Sound) (hqueue : s.lib.queue.Valid) {c : Call}
    {pc : Pc} (hentry : c.entry = some pc) : Steps (pc, s) (.idle, after s c) := by
  cases c with
  | submitFailure report =>
      cases report with
      | none => cases hentry
      | some report =>
          obtain rfl := Option.some.inj hentry
          exact submit_steps s report
  | supervisorTick =>
      obtain rfl := Option.some.inj hentry
      exact tick_steps hs hqueue
  | handleFailure report =>
      cases report with
      | none => cases hentry
      | some report =>
          obtain rfl := Option.some.inj hentry
          exact handle_steps s report .caller
  | checkWatchdogs =>
      obtain rfl := Option.some.inj hentry
      exact watch_steps s
  | workerMayRun id =>
      obtain rfl := Option.some.inj hentry
      exact gate_steps s id
  | _ => cases hentry

theorem Machine.run_of_steps {pc : Pc} {s : State B} {a : Pc × State B} (h : Steps (pc, s) a)
    (pcs : ℕ → Pc) (thread : ℕ) :
    ∃ n, Run.run Machine.step ⟨s, Function.update pcs thread pc⟩
      (List.replicate n (.advance thread)) = ⟨a.2, Function.update pcs thread a.1⟩ := by
  induction h with
  | single hnext =>
      refine ⟨1, ?_⟩
      rw [← hnext]
      simp [Machine.step, List.replicate]
  | tail _ hnext ih =>
      obtain ⟨n, hrun⟩ := ih
      refine ⟨n + 1, ?_⟩
      rw [List.replicate_succ', Run.run_concat, hrun, ← hnext]
      simp [Machine.step]

/-- A call made by an idle thread and not interleaved has the effect of the call. -/
theorem Machine.run_call (m : Machine B) (hs : m.state.lib.Sound)
    (hqueue : m.state.lib.queue.Valid) (thread : ℕ) (hidle : m.pcs thread = .idle) (c : Call) :
    ∃ n, Run.run Machine.step m (.call thread c :: List.replicate n (.advance thread)) =
      ⟨after m.state c, m.pcs⟩ := by
  cases hentry : c.entry with
  | none =>
      refine ⟨0, ?_⟩
      simp [Machine.step, hidle, hentry]
  | some pc =>
      obtain ⟨n, hrun⟩ := Machine.run_of_steps (entry_steps hs hqueue hentry) m.pcs thread
      refine ⟨n, ?_⟩
      rw [Run.run_cons]
      simp only [Machine.step, hidle, if_true, hentry]
      rw [hrun, ← hidle, Function.update_eq_self]

/-- Every run of complete calls is a run of the machine. -/
theorem Machine.exists_run (clock : ℕ) (pace : List Obs → ℕ) (config : Option Config)
    (lock unlock : Bool) (calls : List Call) :
    ∃ turns, Run.run Machine.step (Machine.started clock pace config lock unlock : Machine B)
      turns =
        ⟨Run.run after (Fdir.started clock pace config lock unlock) calls, fun _ ↦ .idle⟩ := by
  induction calls using List.reverseRecOn with
  | nil => exact ⟨[], rfl⟩
  | append_singleton calls c ih =>
      obtain ⟨turns, hturns⟩ := ih
      obtain ⟨hs, hqueue⟩ := @run_valid B clock pace config lock unlock calls
      obtain ⟨n, hrun⟩ := Machine.run_call ⟨Run.run after
        (Fdir.started clock pace config lock unlock) calls, fun _ ↦ .idle⟩ hs hqueue 0 rfl c
      refine ⟨turns ++ (.call 0 c :: List.replicate n (.advance 0)), ?_⟩
      rw [Run.run_append, hturns, hrun, Run.run_concat]

end Fdir
