import Fdir.Moves

/-!
# Interleaved threads

Any number of threads call the library.  A turn of the machine starts a call,
runs one critical section of a call in progress, or lets time pass; between two
critical sections of a thread the others may do anything.  A call of one
critical section is made in one turn.
-/

namespace Fdir

open Foundation

variable {B : Build}

/-! ## Calls in progress -/

/-- Where `fdir_handle_failure` returns to. -/
inductive Return where
  | caller
  | drain
  | scan (readAt : ℕ) (nowMs maxAge : UInt32) (next : ℕ)
  deriving DecidableEq, Repr

/-- How far a thread has got in a call of several critical sections.  In the scan,
`readAt` records the true time of its clock reading `nowMs`. -/
inductive Pc where
  | idle
  | submitTest (report : FailureReport)
  | submitPut (report : FailureReport)
  | tickTest
  | drain
  | handleTest (report : FailureReport) (ret : Return)
  | handleLocked (report : FailureReport) (ret : Return)
  | watchClock
  | watchTest (readAt : ℕ) (nowMs maxAge : UInt32)
  | watchScan (readAt : ℕ) (nowMs maxAge : UInt32) (next : ℕ)
  | gateMode (id : EntityId)
  | gateHeartbeat (id : EntityId)
  | gateRun (id : EntityId)
  deriving DecidableEq, Repr

def Return.pc : Return → Pc
  | .caller => .idle
  | .drain => .drain
  | .scan readAt nowMs maxAge next => .watchScan readAt nowMs maxAge next

/-- The first index from `next` on at which the scan finds an entity due. -/
def firstDue (l : Lib B) (nowMs maxAge : UInt32) (next : ℕ) : Option ℕ :=
  (List.range' next (l.entityCount.toNat - next)).find? fun i ↦
    watchdogDue l nowMs maxAge (UInt8.ofNat i)

/-- The next critical section of a call in progress. -/
def Pc.advance (s : State B) : Pc → Pc × State B
  | .idle => (.idle, s)
  | .submitTest report =>
      let enabled := supervisionEnabled s
      (if enabled.1 = 0 then .idle else .submitPut report, enabled.2)
  | .submitPut report => (.idle, (failureQueuePut s report).2)
  | .tickTest =>
      let enabled := supervisionEnabled s
      (if enabled.1 = 0 then .idle else .drain, enabled.2)
  | .drain =>
      let got := failureQueueGet s
      (match got.1 with
        | none => .watchClock
        | some report => .handleTest report .drain, got.2)
  | .handleTest report ret =>
      let enabled := supervisionEnabled s
      (if enabled.1 = 0 then ret.pc else .handleLocked report ret, enabled.2)
  | .handleLocked report ret => (ret.pc, handleFailureLocked s report)
  | .watchClock =>
      let now := getNowMs s
      (.watchTest now.2.world.clock now.1 (heartbeatMaxAgeMs now.2.lib.config), now.2)
  | .watchTest readAt nowMs maxAge =>
      let enabled := supervisionEnabled s
      (if enabled.1 = 0 then .idle else .watchScan readAt nowMs maxAge 0, enabled.2)
  | .watchScan readAt nowMs maxAge next =>
      let s := syncEnter s
      (match firstDue s.lib nowMs maxAge next with
        | none => .idle
        | some i =>
            .handleTest (watchdogReport B (UInt8.ofNat i) nowMs)
              (.scan readAt nowMs maxAge (i + 1)),
        syncExit s)
  | .gateMode id =>
      let mode := systemMode s
      (if .safe ≤ mode.1 then .gateHeartbeat id else .gateRun id, mode.2)
  | .gateHeartbeat id => (.idle, heartbeatNotify s id)
  | .gateRun id => (.idle, (entityMayRun s id).2)

/-- Where a call of several critical sections starts. -/
def Call.entry : Call → Option Pc
  | .submitFailure (some report) => some (.submitTest report)
  | .supervisorTick => some .tickTest
  | .handleFailure (some report) => some (.handleTest report .caller)
  | .checkWatchdogs => some .watchClock
  | .workerMayRun id => some (.gateMode id)
  | _ => none

/-! ## The machine -/

structure Machine (B : Build) where
  state : State B
  pcs : ℕ → Pc

inductive Turn where
  | call (thread : ℕ) (c : Call)
  | advance (thread : ℕ)
  | elapse (ms : ℕ)

/-- Let time pass. -/
def State.elapse (s : State B) (ms : ℕ) : State B :=
  { s with world := { s.world with clock := s.world.clock + ms } }

namespace Machine

/-- A thread inside a call does not start another one. -/
def step (m : Machine B) : Turn → Machine B
  | .call thread c =>
      if m.pcs thread = .idle then
        match c.entry with
        | none => { m with state := after m.state c }
        | some pc => { m with pcs := Function.update m.pcs thread pc }
      else m
  | .advance thread =>
      let next := (m.pcs thread).advance m.state
      ⟨next.2, Function.update m.pcs thread next.1⟩
  | .elapse ms => { m with state := m.state.elapse ms }

section Step

variable {m : Machine B} {thread : ℕ} {c : Call}

theorem step_of_busy (h : m.pcs thread ≠ .idle) : m.step (.call thread c) = m := if_neg h

theorem step_of_single (hidle : m.pcs thread = .idle) (hentry : c.entry = none) :
    m.step (.call thread c) = { m with state := after m.state c } := by
  simp only [step, if_pos hidle, hentry]

theorem step_of_entry (hidle : m.pcs thread = .idle) {pc : Pc} (hentry : c.entry = some pc) :
    m.step (.call thread c) = { m with pcs := Function.update m.pcs thread pc } := by
  simp only [step, if_pos hidle, hentry]

theorem step_of_handling {report : FailureReport} {ret : Return}
    (hpc : m.pcs thread = .handleLocked report ret) :
    (m.step (.advance thread)).state = handleFailureLocked m.state report := by
  simp only [step, hpc, Pc.advance]

end Step

/-- The machine after a successful `fdir_init`. -/
def started (clock : ℕ) (pace : List Obs → ℕ) (config : Option Config) (lock unlock : Bool) :
    Machine B :=
  ⟨Fdir.started clock pace config lock unlock, fun _ ↦ .idle⟩

/-- The machine after a successful `fdir_init` in any state, whatever calls are then in
progress. -/
def initialised (s : State B) (config : Option Config) (lock unlock : Bool) (pcs : ℕ → Pc) :
    Machine B :=
  ⟨(fdirInit s config (some (.complete lock unlock))).2, pcs⟩

end Machine

/-! ## What a turn does to the state -/

/-- The handling of one report, a critical section that changes the queue at most,
a call of one section, or the passing of time. -/
inductive Stride (s : State B) : State B → Prop where
  | moved {s' : State B} (h : Move s s') : Stride s s'
  | called (c : Call) (hc : ¬ c.handles) : Stride s (after s c)
  | elapsed (ms : ℕ) : Stride s (s.elapse ms)

theorem Stride.of_lib_eq {s s' : State B} (hworld : Evolves Obs.silent s s')
    (hlib : s'.lib = s.lib) : Stride s s' :=
  .moved (.of_lib_eq hworld hlib)

theorem Stride.refl (s : State B) : Stride s s := .of_lib_eq (.refl s) rfl

theorem Call.not_handles_of_entry {c : Call} (h : c.entry = none) (hc : c.handles) :
    c = .handleFailure none := by
  cases c with
  | handleFailure report =>
      cases report with
      | none => rfl
      | some report => cases h
  | supervisorTick | checkWatchdogs => cases h
  | _ => exact hc.elim

theorem Pc.stride (s : State B) (pc : Pc) : Stride s (pc.advance s).2 := by
  have hasked : Stride s (supervisionEnabled s).2 := .moved (supervisionEnabled_move s)
  cases pc with
  | idle => exact .refl s
  | submitTest | tickTest | handleTest | watchTest => exact hasked
  | submitPut report =>
      exact .moved (.idle (silent_failureQueuePut s report) ⟨_, failureQueuePut_lib s report⟩)
  | drain => exact .moved (failureQueueGet_move s)
  | handleLocked report ret => exact .moved (.handled report)
  | watchClock => exact .of_lib_eq (silent_getNowMs s) (getNowMs_lib s)
  | watchScan readAt nowMs maxAge next =>
      exact .of_lib_eq ((silent_syncEnter s).trans (silent_syncExit _)) (by simp [Pc.advance])
  | gateMode id => exact .of_lib_eq (silent_systemMode s) (systemMode_lib s)
  | gateHeartbeat id => exact .called (.heartbeatNotify id) fun h ↦ h
  | gateRun id =>
      have hrun : (Pc.advance s (.gateRun id)).2 = syncExit (syncEnter s) := entityMayRun_snd s id
      rw [hrun]
      exact .of_lib_eq ((silent_syncEnter s).trans (silent_syncExit _)) (by simp)

theorem Pc.silent {s : State B} (hready : s.lib.portReady = true) {pc : Pc}
    (hpc : ∀ report ret, pc ≠ .handleLocked report ret) :
    Evolves Obs.silent s (pc.advance s).2 := by
  have hlock := (silent_syncEnter s).trans (silent_syncExit _)
  cases pc with
  | idle => exact .refl s
  | submitTest | tickTest | handleTest | watchTest => exact silent_supervisionEnabled s
  | submitPut report => exact silent_failureQueuePut s report
  | drain => exact silent_failureQueueGet s
  | handleLocked report ret => exact absurd rfl (hpc report ret)
  | watchClock => exact silent_getNowMs s
  | watchScan readAt nowMs maxAge next => exact hlock
  | gateMode id => exact silent_systemMode s
  | gateHeartbeat id => exact silent_heartbeatNotify s hready id
  | gateRun id =>
      have hrun : (Pc.advance s (.gateRun id)).2 = syncExit (syncEnter s) := entityMayRun_snd s id
      rw [hrun]
      exact hlock

namespace Machine

theorem stride (m : Machine B) (turn : Turn) : Stride m.state (m.step turn).state := by
  cases turn with
  | call thread c =>
      simp only [step]
      split
      · split
        · next hentry =>
          by_cases hc : c.handles
          · rw [Call.not_handles_of_entry hentry hc]
            exact .refl _
          · exact .called c hc
        · exact .refl _
      · exact .refl _
  | advance thread => exact Pc.stride _ _
  | elapse ms => exact .elapsed ms

end Machine

namespace Stride

variable {s s' : State B}

theorem sound (h : Stride s s') (hs : s.lib.Sound) : s'.lib.Sound := by
  cases h with
  | moved hmove => exact hmove.sound hs
  | called c => exact after_sound hs c
  | elapsed ms => exact hs

theorem config_eq (h : Stride s s') (hs : s.lib.Sound) : s'.lib.config = s.lib.config := by
  cases h with
  | moved hmove =>
      cases hmove with
      | idle _ hlib =>
          obtain ⟨queue, hqueue⟩ := hlib
          rw [hqueue]
      | handled report => rw [handleFailureLocked_lib hs.limit_eq, Lib.handle_config]
  | called c => exact after_config hs c
  | elapsed ms => rfl

theorem evolves (h : Stride s s') (hs : s.lib.Sound) :
    Evolves (fun _ ↦ True) s s' ∨ ∃ ms, s' = s.elapse ms := by
  cases h with
  | moved hmove => exact Or.inl (hmove.evolves hs)
  | called c => exact Or.inl (evolves_after hs c)
  | elapsed ms => exact Or.inr ⟨ms, rfl⟩

end Stride

theorem Machine.run_sound (s : State B) (config : Option Config) (lock unlock : Bool)
    (pcs : ℕ → Pc) (turns : List Turn) :
    (Run.run Machine.step (Machine.initialised s config lock unlock pcs) turns).state.lib.Sound :=
  Run.invariant (fun m : Machine B ↦ m.state.lib.Sound) (fun m turn h ↦ (m.stride turn).sound h)
    (fdirInit_sound s config lock unlock) turns

/-! ## What a turn does to the static variables -/

/-- What a section of a call in progress can do to the static variables. -/
inductive Does (l : Lib B) : Pc → Lib B → Prop where
  | same (pc : Pc) : Does l pc l
  | put (report : FailureReport) :
      Does l (.submitPut report) { l with queue := (l.queue.putUnsafe report).2 }
  | get : Does l .drain { l with queue := l.queue.getUnsafe.2 }
  | handle (ans : Answers) (report : FailureReport) (ret : Return) :
      Does l (.handleLocked report ret) (l.handle ans report)
  | beat (id : EntityId) (now : UInt32) :
      Does l (.gateHeartbeat id) { l with health := l.health.heartbeat id now }

theorem Does.of_eq {l l' : Lib B} (h : l' = l) (pc : Pc) : Does l pc l' := h ▸ .same pc

theorem Pc.does {s : State B} (hs : s.lib.Aligned) (pc : Pc) :
    Does s.lib pc (pc.advance s).2.lib := by
  have hasked := supervisionEnabled_lib s
  cases pc with
  | idle => exact .same _
  | submitTest | tickTest | handleTest | watchTest => exact .of_eq hasked _
  | submitPut report =>
      have hlib := failureQueuePut_lib s report
      exact hlib ▸ .put report
  | drain =>
      cases hget : s.lib.queue.getUnsafe.1 with
      | none =>
          refine .of_eq ?_ _
          simp only [Pc.advance, failureQueueGet_of_none hget, syncExit_lib, syncEnter_lib]
      | some report =>
          have hlib := (failureQueueGet_of_some hget).2
          exact hlib ▸ .get
  | handleLocked report ret =>
      have hlib := handleFailureLocked_lib hs report
      exact hlib ▸ .handle _ report ret
  | watchClock => exact .of_eq (getNowMs_lib s) _
  | watchScan readAt nowMs maxAge next => exact .of_eq (by simp [Pc.advance]) _
  | gateMode id => exact .of_eq (systemMode_lib s) _
  | gateHeartbeat id =>
      simp only [Pc.advance, heartbeatNotify, syncEnter_lib]
      split
      · exact .of_eq (by simp) _
      · simp only [syncExit_lib, State.write_lib, stamp_lib, getNowMs_lib, syncEnter_lib]
        exact .beat id _
  | gateRun id => exact .of_eq (by simp [Pc.advance, entityMayRun_snd]) _

/-- A turn makes a call of one section, runs a section of a call in progress, or leaves
the static variables alone. -/
theorem Machine.acts {m : Machine B} (hs : m.state.lib.Aligned) (turn : Turn) :
    (∃ thread c, turn = .call thread c ∧ c.entry = none ∧
        Effect c m.state.lib (m.step turn).state.lib) ∨
      (∃ thread, turn = .advance thread ∧
        Does m.state.lib (m.pcs thread) (m.step turn).state.lib) ∨
      (m.step turn).state.lib = m.state.lib := by
  cases turn with
  | call thread c =>
      simp only [step]
      split
      · split
        · next hentry =>
          left
          refine ⟨thread, c, rfl, hentry, after_effect hs ?_ ?_⟩
          · rintro rfl
            cases hentry
          · rintro rfl
            cases hentry
        · exact Or.inr (Or.inr rfl)
      · exact Or.inr (Or.inr rfl)
  | advance thread => exact Or.inr (Or.inl ⟨thread, rfl, Pc.does hs _⟩)
  | elapse ms => exact Or.inr (Or.inr rfl)

theorem Machine.does {m : Machine B} (hs : m.state.lib.Aligned) (turn : Turn) :
    (∃ c, Effect c m.state.lib (m.step turn).state.lib) ∨
      ∃ thread, turn = .advance thread ∧
        Does m.state.lib (m.pcs thread) (m.step turn).state.lib := by
  rcases acts hs turn with ⟨thread, c, -, -, heffect⟩ | hdoes | hsame
  · exact Or.inl ⟨c, heffect⟩
  · exact Or.inr hdoes
  · exact Or.inl ⟨.reassessSystemMode, .of_eq hsame⟩

theorem Does.valid {pc : Pc} {l l' : Lib B} (h : l.queue.Valid) (hdoes : Does l pc l') :
    l'.queue.Valid := by
  cases hdoes with
  | same | beat => exact h
  | put report => exact h.put report
  | get =>
      cases hget : l.queue.getUnsafe.1 with
      | none => rwa [FailureQueue.getUnsafe_of_none hget]
      | some report => exact (FailureQueue.pending_of_getUnsafe h hget).1
  | handle => rwa [Lib.handle_queue]

theorem Machine.valid_step {m : Machine B} (hs : m.state.lib.Sound)
    (h : m.state.lib.queue.Valid) (turn : Turn) : (m.step turn).state.lib.queue.Valid := by
  rcases Machine.does hs.limit_eq turn with ⟨c, heffect⟩ | ⟨thread, -, hdoes⟩
  · exact heffect.valid h
  · exact hdoes.valid h

theorem Machine.valid_run {m : Machine B} (hs : m.state.lib.Sound) (h : m.state.lib.queue.Valid)
    (turns : List Turn) : (Run.run step m turns).state.lib.Sound ∧
      (Run.run step m turns).state.lib.queue.Valid := by
  refine Run.invariant (fun m : Machine B ↦ m.state.lib.Sound ∧ m.state.lib.queue.Valid)
    ?_ ⟨hs, h⟩ turns
  rintro m turn ⟨hs, h⟩
  exact ⟨(m.stride turn).sound hs, valid_step hs h turn⟩

end Fdir
