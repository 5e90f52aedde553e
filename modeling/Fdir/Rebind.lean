import Fdir.InStep
import Fdir.Stretches

/-!
# Failing re-initialisation

A failing `fdir_init` changes nothing but the ready flag of the port, which stays
clear until the next successful one.  Until then every operation that uses a hook
betrays the failed call: it aborts, or leaves the lock alone.
-/

namespace Fdir

open Foundation

variable {B : Build}

/-! ## Operations and the port -/

/-- The state an operation leaves behind. -/
def Op.next (s : State B) (op : Op) : State B := (op.exec s).2

/-- An `fdir_init` with a NULL or incomplete port. -/
def Op.failing : Op → Bool
  | .init _ port => !portIsValid port
  | _ => false

/-- Only `fdir_init` decides whether the port is ready. -/
def Op.binds : Op → Option Bool
  | .init _ port => some (portIsValid port)
  | _ => none

/-- Whether the last `fdir_init` succeeded, in a run that begins with a successful one. -/
def boundAfter (ops : List Op) : Bool := ops.foldl (fun ready op ↦ op.binds.getD ready) true

/-- Made on `l`, the operation reads the clock, emits an event or requests a reboot. -/
def Op.reaches (l : Lib B) : Op → Prop
  | .call c => c.reaches l
  | .init _ _ => False
  | .getNowMs | .emitEvent _ | .requestReboot _ => True

/-- Made on `l`, the operation takes the lock. -/
def Op.locks (l : Lib B) : Op → Bool
  | .call c => c.locks l
  | _ => false

/-- Made on `l`, the operation uses a hook that was bound. -/
def Op.uses (l : Lib B) (op : Op) : Prop :=
  op.reaches l ∨ (op.locks l = true ∧ (l.port.lock = true ∨ l.port.unlock = true))

/-- The port is ready, or the operation does not reach its clock, its events or its
reboot. -/
def Unreached (s : State B) (op : Op) : Prop := s.lib.portReady = false → ¬ op.reaches s.lib

/-- The port is ready, or the operation uses none of its hooks. -/
def Unused (s : State B) (op : Op) : Prop := s.lib.portReady = false → ¬ op.uses s.lib

/-! ## Initialisation -/

theorem write_of_unguarded {s : State B} (hunguarded : s.world.unguarded = true)
    (f : Lib B → Lib B) : s.write f = { s with lib := f s.lib } := by
  have hworld : ∀ w : World, w.unguarded = true →
      { w with unguarded := w.unguarded || !w.lockHeld } = w := by
    rintro ⟨⟩ h
    cases h
    rfl
  rw [State.write, hworld s.world hunguarded]

/-- A failing `fdir_init` only clears the ready flag. -/
theorem exec_failing {s : State B} (hunguarded : s.world.unguarded = true)
    (config : Option Config) {port : Option Port} (hport : portIsValid port = false) :
    (Op.init config port).exec s = (.status .errPort, s.unbind) := by
  have hinvalid : ¬ portIsValid port = true := by
    rw [hport]
    exact Bool.false_ne_true
  simp only [Op.exec, fdirInit_of_invalid hinvalid]
  exact congrArg _ (write_of_unguarded hunguarded _)

theorem exec_init_unbind (s : State B) (config : Option Config) {port : Option Port}
    (hport : portIsValid port = true) :
    (Op.init config port).exec s.unbind = (Op.init config port).exec s := by
  simp only [Op.exec, fdirInit_of_valid hport]
  rfl

theorem init_aborted (s : State B) (config : Option Config) (port : Option Port) :
    ((Op.init config port).next s).world.aborted = s.world.aborted := by
  simp only [Op.next, Op.exec, fdirInit, portBind]
  split_ifs <;> rfl

theorem init_unguarded {s : State B} (hunguarded : s.world.unguarded = true)
    (config : Option Config) (port : Option Port) :
    ((Op.init config port).next s).world.unguarded = true := by
  simp only [Op.next, Op.exec, fdirInit, portBind]
  split_ifs <;> simp [State.write, hunguarded]

/-! ## One operation -/

theorem Op.init_or_binds (op : Op) :
    (∃ config port, op = .init config port) ∨ op.binds = none := by
  cases op with
  | init config port => exact Or.inl ⟨config, port, rfl⟩
  | _ => exact Or.inr rfl

section Next

variable {s : State B} (hs : s.lib.Aligned)
include hs

theorem Op.next_onward {op : Op} (hop : op.binds = none) : s.Onward (op.next s) := by
  cases op with
  | call c => exact (after_trail_all hs c).onward
  | init => cases hop
  | getNowMs => exact .getNowMs s
  | emitEvent event => exact .emitEvent s event
  | requestReboot reason => exact .requestReboot s reason

theorem Op.next_ready (op : Op) :
    (op.next s).lib.portReady = op.binds.getD s.lib.portReady := by
  rcases op.init_or_binds with ⟨config, port, rfl⟩ | hop
  · by_cases hport : portIsValid port = true
    · simp [Op.next, Op.exec, Op.binds, fdirInit_of_valid hport, hport]
    · simp [Op.next, Op.exec, Op.binds, fdirInit_of_invalid hport, hport]
  · rw [hop]
    exact (Op.next_onward hs hop).ready

theorem Op.next_aborted (haborted : s.world.aborted = true) (op : Op) :
    (op.next s).world.aborted = true := by
  rcases op.init_or_binds with ⟨config, port, rfl⟩ | hop
  · exact (init_aborted s config port).trans haborted
  · exact (Op.next_onward hs hop).aborted haborted

theorem Op.next_unguarded (hunguarded : s.world.unguarded = true) (op : Op) :
    (op.next s).world.unguarded = true := by
  rcases op.init_or_binds with ⟨config, port, rfl⟩ | hop
  · exact init_unguarded hunguarded config port
  · exact (Op.next_onward hs hop).unguarded hunguarded

theorem Op.next_spared (hready : s.lib.portReady = true) (op : Op) :
    (op.next s).world.aborted = s.world.aborted := by
  rcases op.init_or_binds with ⟨config, port, rfl⟩ | hop
  · exact init_aborted s config port
  · exact (Op.next_onward hs hop).spared hready

theorem Op.next_aborts (hready : s.lib.portReady = false) {op : Op} (hop : op.reaches s.lib) :
    (op.next s).world.aborted = true := by
  cases op with
  | call c => exact after_aborts hready hs hop
  | init => exact hop.elim
  | getNowMs => exact getNowMs_aborts hready
  | emitEvent event =>
      rw [Op.next, Op.exec, emitEvent_of_unready hready]
      rfl
  | requestReboot reason =>
      rw [Op.next, Op.exec, requestReboot_of_unready hready]
      rfl

/-- An operation aborts exactly if it reaches a hook of a port that is not ready. -/
theorem Op.next_spared_iff (hspared : s.world.aborted = false) (op : Op) :
    (op.next s).world.aborted = false ↔ Unreached s op := by
  unfold Unreached
  cases hready : s.lib.portReady with
  | true =>
      refine iff_of_true ((Op.next_spared hs hready op).trans hspared) fun h ↦ ?_
      exact (Bool.false_ne_true h.symm).elim
  | false =>
      rw [forall_prop_of_true rfl]
      by_cases hop : op.reaches s.lib
      · refine iff_of_false ?_ (not_not.mpr hop)
        rw [Bool.not_eq_false]
        exact Op.next_aborts hs hready hop
      · refine iff_of_true ?_ hop
        cases op with
        | call c => exact (after_aborted_of_quiet hop).trans hspared
        | init config port => exact (init_aborted s config port).trans hspared
        | _ => exact absurd trivial hop

end Next

/-! ## With and without the failing calls -/

/-- Two operations that returned the same and did the same to their surroundings, the
first without reaching `abort`. -/
structure Alike (r r' : Reply × State B) : Prop where
  reply : r.1 = r'.1
  trace : r.2.world.trace = r'.2.world.trace
  spared : r.2.world.aborted = false

theorem Op.failing_iff (op : Op) : op.failing = true ↔ op.binds = some false := by
  cases op with
  | init config port => simp [Op.failing, Op.binds]
  | _ => simp [Op.failing, Op.binds]

theorem Op.uses_unbind (l : Lib B) (op : Op) : op.uses l.unbind ↔ op.uses l := by
  cases op with
  | call c =>
      simp only [Op.uses, Op.reaches, Op.locks, reaches_unbind, locks_unbind]
      rfl
  | _ => rfl

theorem lockTrace_of_unused {l : Lib B} {op : Op} (huses : ¬ op.uses l)
    (hlocks : op.locks l = true) : l.lockTrace = [] := by
  have hnone := not_or.mp fun h ↦ huses (Or.inr ⟨hlocks, h⟩)
  simp [Lib.lockTrace, hnone]

theorem lockTrace_of_bound {l : Lib B} (hready : l.portReady = true)
    (hbound : l.port.lock = true ∨ l.port.unlock = true) : l.lockTrace ≠ [] := by
  rcases hbound with hlock | hunlock
  · simp [Lib.lockTrace, hready, hlock]
  · simp [Lib.lockTrace, hready, hunlock]

/-- An operation that uses no hook does not notice the ready flag. -/
theorem Op.exec_unbind {s : State B} {op : Op} (hop : op.failing = false)
    (huses : ¬ op.uses s.lib) :
    (op.exec s.unbind).1 = (op.exec s).1 ∧
      (op.next s.unbind = op.next s ∨ op.next s.unbind = (op.next s).unbind) := by
  cases op with
  | call c =>
      have hexec : c.exec s.unbind = ((c.exec s).1, (c.exec s).2.unbind) :=
        Fdir.exec_unbind (fun h ↦ huses (Or.inl h)) (lockTrace_of_unused huses)
      simp only [Op.next, Op.exec, hexec]
      exact ⟨trivial, Or.inr trivial⟩
  | init config port =>
      have hexec := exec_init_unbind s config (by simpa [Op.failing] using hop)
      exact ⟨congrArg Prod.fst hexec, Or.inl (congrArg Prod.snd hexec)⟩
  | _ => exact absurd (Or.inl trivial) huses

/-- An operation that uses a hook does. -/
theorem not_alike_unbind {s : State B} (hs : s.lib.Aligned) (hready : s.lib.portReady = true)
    {op : Op} (huses : op.uses s.lib) : ¬ Alike (op.exec s.unbind) (op.exec s) := by
  intro h
  by_cases hreaches : op.reaches s.lib
  · have hunbound : op.reaches s.unbind.lib := by
      cases op with
      | call c => exact (reaches_unbind s.lib c).mpr hreaches
      | _ => exact hreaches
    have haborted := Op.next_aborts (s := s.unbind) hs rfl hunbound
    exact Bool.false_ne_true (h.spared.symm.trans haborted)
  · obtain ⟨hlocks, hbound⟩ := huses.resolve_left hreaches
    cases op with
    | call c => exact trace_unbind_ne hreaches hlocks (lockTrace_of_bound hready hbound) h.trace
    | _ => cases hlocks

/-- `dirty` is the state after a run and `clean` the state without the failing calls of
`fdir_init` in it: only the ready flag of the port can differ. -/
structure Abreast (dirty clean : State B) : Prop where
  inStep : clean.lib.InStep
  ready : clean.lib.portReady = true
  spared : clean.world.aborted = false
  unguarded : clean.world.unguarded = true
  same : dirty = clean ∨ dirty = clean.unbind

namespace Abreast

variable {dirty clean : State B} (h : Abreast dirty clean) {op : Op}
include h

theorem next_failing (hop : op.failing = true) : Abreast (op.next dirty) clean := by
  have hnext : op.next dirty = clean.unbind := by
    cases op with
    | init config port =>
        have hport : portIsValid port = false := by simpa [Op.failing] using hop
        rcases h.same with rfl | rfl
        · exact congrArg Prod.snd (exec_failing h.unguarded config hport)
        · exact congrArg Prod.snd (exec_failing (s := clean.unbind) h.unguarded config hport)
    | _ => cases hop
  exact ⟨h.inStep, h.ready, h.spared, h.unguarded, Or.inr hnext⟩

theorem next (hop : op.failing = false) (hunused : Unused dirty op) :
    Abreast (op.next dirty) (op.next clean) where
  inStep := Op.inStep h.inStep op
  ready := by
    rw [Op.next_ready h.inStep.aligned, h.ready]
    rw [← Bool.not_eq_true, Op.failing_iff] at hop
    cases hbinds : op.binds with
    | none => rfl
    | some valid =>
        rw [hbinds] at hop
        simpa using hop
  spared := (Op.next_spared h.inStep.aligned h.ready op).trans h.spared
  unguarded := Op.next_unguarded h.inStep.aligned h.unguarded op
  same := by
    rcases h.same with rfl | rfl
    · exact Or.inl rfl
    · exact (Op.exec_unbind hop fun hclean ↦ hunused rfl ((op.uses_unbind _).mpr hclean)).2

theorem alike_iff (hop : op.failing = false) :
    Alike (op.exec dirty) (op.exec clean) ↔ Unused dirty op := by
  have hspared : (op.next clean).world.aborted = false :=
    (Op.next_spared h.inStep.aligned h.ready op).trans h.spared
  rcases h.same with rfl | rfl
  · refine iff_of_true ⟨rfl, rfl, hspared⟩ fun hunready ↦ ?_
    exact (Bool.false_ne_true (hunready.symm.trans h.ready)).elim
  · rw [Unused, unbind_lib, op.uses_unbind]
    constructor
    · exact fun halike _ huses ↦ not_alike_unbind h.inStep.aligned h.ready huses halike
    · intro huses
      obtain ⟨hreply, hnext⟩ := Op.exec_unbind hop (huses rfl)
      have hworld : (op.next clean.unbind).world = (op.next clean).world := by
        rcases hnext with hnext | hnext <;> rw [hnext]
        rfl
      exact ⟨hreply, congrArg World.trace hworld, (congrArg World.aborted hworld).trans hspared⟩

theorem undisturbed_iff :
    (op.failing = false → Alike (op.exec dirty) (op.exec clean)) ↔ Unused dirty op := by
  cases hop : op.failing with
  | true =>
      refine iff_of_true (fun h ↦ (Bool.false_ne_true h.symm).elim) fun _ ↦ ?_
      cases op with
      | init => simp [Op.uses, Op.reaches, Op.locks]
      | _ => cases hop
  | false =>
      rw [forall_prop_of_true rfl]
      exact h.alike_iff hop

end Abreast

theorem Abreast.twin {t : State B × State B} (h : Abreast t.1 t.2) {op : Op}
    (hunused : Unused t.1 op) :
    Abreast (Run.twin Op.next Op.failing t op).1 (Run.twin Op.next Op.failing t op).2 := by
  cases hop : op.failing with
  | true => simpa [Run.twin, hop] using h.next_failing hop
  | false => simpa [Run.twin, hop] using h.next hop hunused

/-! ## Every run -/

/-- The operation goes as if no failing `fdir_init` had been called before it. -/
def Undisturbed (s₀ : State B) (pre : List Op) (op : Op) : Prop :=
  op.failing = false → Alike (op.exec (Run.run Op.next s₀ pre))
    (op.exec (Run.run Op.next s₀ (pre.filter fun op ↦ !op.failing)))

theorem started_abreast (clock : ℕ) (pace : List Obs → ℕ) (config : Option Config)
    (lock unlock : Bool) : Abreast (started clock pace config lock unlock : State B)
      (started clock pace config lock unlock) where
  inStep := fdirInit_inStep powerOn_inStep _ _
  ready := rfl
  spared := rfl
  unguarded := rfl
  same := Or.inl rfl

section Run

variable {s₀ : State B}

theorem run_ready (hs : s₀.lib.InStep) (ops : List Op) :
    (Run.run Op.next s₀ ops).lib.portReady =
      ops.foldl (fun ready op ↦ op.binds.getD ready) s₀.lib.portReady := by
  induction ops generalizing s₀ with
  | nil => rfl
  | cons op ops ih =>
      have hnext : (op.next s₀).lib.InStep := Op.inStep hs op
      rw [Run.run_cons, ih hnext, Op.next_ready hs.aligned, List.foldl_cons]

theorem run_unguarded (hs : s₀.lib.InStep) (hunguarded : s₀.world.unguarded = true)
    (ops : List Op) : (Run.run Op.next s₀ ops).world.unguarded = true := by
  have hkept := Run.invariant (fun s : State B ↦ s.lib.InStep ∧ s.world.unguarded = true)
    (fun s op h ↦ ⟨Op.inStep h.1 op, Op.next_unguarded h.1.aligned h.2 op⟩) ⟨hs, hunguarded⟩ ops
  exact hkept.2

theorem run_spared_iff (hs : s₀.lib.InStep) (hspared : s₀.world.aborted = false)
    (ops : List Op) : (Run.run Op.next s₀ ops).world.aborted = false ↔
      Run.Along Op.next Unreached s₀ ops := by
  refine Run.kept_iff (fun s : State B ↦ s.lib.InStep) (fun s ↦ s.world.aborted = false)
    (fun s op h ↦ Op.inStep h op) ?_ (fun s op h hspared ↦ Op.next_spared_iff h.aligned hspared op)
    ops hs hspared
  intro s op h haborted
  rw [Bool.not_eq_false] at haborted ⊢
  exact Op.next_aborted h.aligned haborted op

/-- The operations of a run go as if its failing calls of `fdir_init` had not been made
exactly if those made while the port is not ready use none of its hooks. -/
theorem run_undisturbed_iff (h : Abreast s₀ s₀) (ops : List Op) :
    (∀ pre op post, ops = pre ++ op :: post → Undisturbed s₀ pre op) ↔
      Run.Along Op.next Unused s₀ ops := by
  have hiff : Run.Along (Run.twin Op.next Op.failing)
        (fun t op ↦ op.failing = false → Alike (op.exec t.1) (op.exec t.2)) (s₀, s₀) ops ↔
      Run.Along (Run.twin Op.next Op.failing) (fun t op ↦ Unused t.1 op) (s₀, s₀) ops :=
    Run.along_congr (fun t : State B × State B ↦ Abreast t.1 t.2)
      (fun _ _ h halike ↦ h.twin (h.undisturbed_iff.mp halike)) (fun _ _ h ↦ h.undisturbed_iff) h
  rw [Run.along_iff, Run.along_iff] at hiff
  simp only [Run.run_twin] at hiff
  rw [Run.along_iff]
  exact hiff

end Run

/-- A failing `fdir_init` in a run that begins with a successful one clears the ready flag
of the port and does nothing else.  `abort` is reached exactly by operations made before
the next successful one that reach a hook; and all operations go as if the failing
calls had not been made exactly if none made in between uses a hook. -/
theorem failing_init_unbinds (clock : ℕ) (pace : List Obs → ℕ) (config : Option Config)
    (lock unlock : Bool) (ops : List Op) :
    let s₀ : State B := started clock pace config lock unlock
    let s := Run.run Op.next s₀ ops
    (∀ (config : Option Config) (port : Option Port), portIsValid port = false →
        (Op.init config port).exec s = (.status .errPort, s.unbind)) ∧
      s.lib.portReady = boundAfter ops ∧
      (s.world.aborted = false ↔ Run.Along Op.next Unreached s₀ ops) ∧
      ((∀ pre op post, ops = pre ++ op :: post → Undisturbed s₀ pre op) ↔
        Run.Along Op.next Unused s₀ ops) := by
  intro s₀ s
  have habreast : Abreast s₀ s₀ := started_abreast clock pace config lock unlock
  refine ⟨?_, run_ready habreast.inStep ops, run_spared_iff habreast.inStep habreast.spared ops,
    run_undisturbed_iff habreast ops⟩
  exact fun config port hport ↦
    exec_failing (run_unguarded habreast.inStep habreast.unguarded ops) config hport

/-- With a port of NULL the second `fdir_init` fails, and a note logged after it ends in
`abort` instead of an event. -/
theorem failing_init_damages :
    let s₀ : State .default := started 0 (fun _ ↦ 1) none true true
    let s := (Op.init none none).next s₀
    ((Op.init none none).exec s₀).1 = .status .errPort ∧
      (after s (.logNote none)).world.aborted = true ∧
      (after s (.logNote none)).world.trace = [] ∧
      (after s₀ (.logNote none)).world.aborted = false ∧
      (after s₀ (.logNote none)).world.trace ≠ [] ∧
      ¬ Undisturbed s₀ [.init none none] (.call (.logNote none)) := by
  intro s₀ s
  refine ⟨rfl, by decide, by decide, by decide, by decide, fun h ↦ ?_⟩
  exact absurd (h rfl).spared (by decide)

end Fdir
