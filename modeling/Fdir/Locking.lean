import Fdir.Trails

/-!
# Lock discipline

The port lock is not recursive.  Every stretch of the library takes it while it is
free, writes static variables only while it is held, and releases it once; so
does every call, whatever its arguments and the answers of the application.
-/

namespace Fdir

open Foundation

variable {B : Build} {scope : Scope} {s s' : State B}

/-! ## The discipline -/

/-- The lock hooks are bound, the lock is held or free as `held` says, and so far it
was never misused and nothing was written without it. -/
structure State.Disciplined (held : Bool) (s : State B) : Prop where
  ready : s.lib.portReady = true
  lock : s.lib.port.lock = true
  unlock : s.lib.port.unlock = true
  held : s.world.lockHeld = held
  proper : s.world.lockMisused = false
  guarded : s.world.unguarded = false

namespace State.Disciplined

theorem syncEnter (h : s.Disciplined false) : (syncEnter s).Disciplined true := by
  simp only [Fdir.syncEnter, h.ready, h.lock, Bool.and_self, if_true]
  exact ⟨h.ready, h.lock, h.unlock, rfl, by simp [h.proper, h.held], h.guarded⟩

theorem syncExit (h : s.Disciplined true) : (syncExit s).Disciplined false := by
  simp only [Fdir.syncExit, h.ready, h.unlock, Bool.and_self, if_true]
  exact ⟨h.ready, h.lock, h.unlock, rfl, by simp [h.proper, h.held], h.guarded⟩

theorem write (h : s.Disciplined true) (f : Lib B → Lib B)
    (hready : (f s.lib).portReady = s.lib.portReady) (hport : (f s.lib).port = s.lib.port) :
    (s.write f).Disciplined true where
  ready := hready.trans h.ready
  lock := (congrArg Port.lock hport).trans h.lock
  unlock := (congrArg Port.unlock hport).trans h.unlock
  held := h.held
  proper := h.proper
  guarded := by simp [State.write, h.guarded, h.held]

variable {held : Bool}

theorem log (h : s.Disciplined held) (o : Obs) : (s.log o).Disciplined held :=
  ⟨h.ready, h.lock, h.unlock, h.held, h.proper, h.guarded⟩

theorem getNowMs (h : s.Disciplined held) : (getNowMs s).2.Disciplined held := by
  simp only [Fdir.getNowMs, h.ready, if_true]
  exact ⟨h.ready, h.lock, h.unlock, h.held, h.proper, h.guarded⟩

theorem emitEvent (h : s.Disciplined held) (event : Event) :
    (emitEvent s event).Disciplined held := by
  simp only [Fdir.emitEvent, h.ready, if_true]
  exact ⟨h.ready, h.lock, h.unlock, h.held, h.proper, h.guarded⟩

theorem requestReboot (h : s.Disciplined held) (why : CStr) :
    (requestReboot s why).Disciplined held := by
  simp only [Fdir.requestReboot, h.ready, if_true]
  exact h.log _

theorem stamp (h : s.Disciplined held) (id : EntityId) : (s.stamp id).Disciplined held := by
  unfold State.stamp
  split
  · exact h
  · exact ⟨h.ready, h.lock, h.unlock, h.held, h.proper, h.guarded⟩

theorem act (h : s.Disciplined true) (hact : Act scope s s') : s'.Disciplined true := by
  cases hact with
  | clock => exact h.getNowMs
  | stamp id => exact h.stamp id
  | call | consult => exact h.log _
  | reboot why => exact h.requestReboot why
  | write f hf => exact h.write f hf.ready hf.port
  | event | override => exact h.getNowMs.emitEvent _
  | mode mode => exact (h.write _ rfl rfl).getNowMs.emitEvent _
  | mark mark sub => exact (h.write _ rfl rfl).getNowMs.emitEvent _
  | enrol slot => exact h.write _ rfl rfl

theorem work (h : s.Disciplined true) (hwork : Work scope s s') : s'.Disciplined true := by
  induction hwork with
  | refl => exact h
  | tail _ hact ih => exact ih.act hact

theorem trail (h : s.Disciplined false) (htrail : Trail scope s s') : s'.Disciplined false := by
  induction htrail with
  | refl => exact h
  | tail _ hstretch ih =>
      cases hstretch with
      | critical hwork => exact (ih.syncEnter.work hwork).syncExit
      | clock => exact ih.getNowMs
      | call => exact ih.log _

theorem elapse (h : s.Disciplined false) (ms : ℕ) : (s.elapse ms).Disciplined false :=
  ⟨h.ready, h.lock, h.unlock, h.held, h.proper, h.guarded⟩

end State.Disciplined

theorem Machine.disciplined_step {m : Machine B} (hs : m.state.lib.Sound)
    (h : m.state.Disciplined false) (turn : Turn) : (m.step turn).state.Disciplined false := by
  rcases m.trail hs trivial (m.within_all turn) with htrail | ⟨ms, -, hstate⟩
  · exact h.trail htrail
  · rw [hstate]
    exact h.elapse ms

/-- The writes of `fdir_init` itself do not count. -/
def State.forgetWrites (s : State B) : State B :=
  { s with world := { s.world with unguarded := false } }

/-- From a successful `fdir_init` on, with both lock hooks bound, and after any turns of
any threads: every call ends with the lock free, never takes it while it is held nor
releases it while it is free, and writes static variables only while it is held. -/
theorem lock_discipline (clock : ℕ) (pace : List Obs → ℕ) (config : Option Config)
    (turns : List Turn) (c : Call) :
    let m : Machine B := Run.run Machine.step
      ⟨(started clock pace config true true).forgetWrites, fun _ ↦ .idle⟩ turns
    let s := m.state
    s.world.lockHeld = false ∧ (after s c).world.lockHeld = false ∧
      (after s c).world.lockMisused = false ∧ (after s c).world.unguarded = false := by
  intro m s
  have hkept : s.lib.Sound ∧ s.Disciplined false := by
    refine Run.invariant (fun m : Machine B ↦ m.state.lib.Sound ∧ m.state.Disciplined false)
      ?_ ?_ turns
    · rintro m turn ⟨hs, h⟩
      exact ⟨(m.stride turn).sound hs, Machine.disciplined_step hs h turn⟩
    · exact ⟨started_sound clock pace config true true, rfl, rfl, rfl, rfl, rfl, rfl⟩
  obtain ⟨hs, h⟩ := hkept
  have hnext := h.trail (after_trail_all hs.limit_eq c)
  exact ⟨h.held, hnext.held, hnext.proper, hnext.guarded⟩

end Fdir
