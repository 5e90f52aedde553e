import Fdir.FailureQueue
import Fdir.Tables

/-!
# The library state and the port

All static variables of the library form a `Lib`.  The `World` is what the port
connects it to: the clock, the lock and the record of everything the library
did to its surroundings.  This file holds the operations of `port.c` and the
writes through which every later operation changes the static variables.
-/

namespace Fdir

/-- The static variables of all modules. -/
structure Lib (B : Build) where
  entities : EntityId → EntitySlot
  entityCount : UInt8
  mode : Mode
  supervisionEnabled : UInt8
  health : HealthTable
  subsystems : SubsystemTable
  queue : FailureQueue B.failureQueueCap
  config : Config
  port : Port
  portReady : Bool

/-- The surroundings of the library.  `clock` is true time in milliseconds and
moves on by `pace` before each reading; `lockHeld` is the port lock.  The last
six fields are records kept for the specification: the true time of each
entity's latest heartbeat stamp, a lock taken while held or released while
free, a write made while the lock was free, an event that does not carry the mode
in force, an event about a subsystem that is not registered, and a call of
`abort`. -/
structure World where
  clock : ℕ
  pace : List Obs → ℕ
  trace : List Obs
  lockHeld : Bool
  stamped : EntityId → ℕ
  lockMisused : Bool
  unguarded : Bool
  misstated : Bool
  stray : Bool
  aborted : Bool

structure State (B : Build) where
  lib : Lib B
  world : World

variable {B : Build}

/-- The zeroed static variables before the first `fdir_init`. -/
def Lib.powerOn : Lib B where
  entities := fun _ ↦ .zero
  entityCount := 0
  mode := .nominal
  supervisionEnabled := 0
  health := .init
  subsystems := .init
  queue := .init
  config := ⟨0, 0, 0, false⟩
  port := .zero
  portReady := false

/-- The surroundings at power-on: any clock, nothing recorded. -/
def World.powerOn (clock : ℕ) (pace : List Obs → ℕ) : World where
  clock := clock
  pace := pace
  trace := []
  lockHeld := false
  stamped := fun _ ↦ 0
  lockMisused := false
  unguarded := false
  misstated := false
  stray := false
  aborted := false

def State.powerOn (clock : ℕ) (pace : List Obs → ℕ) : State B :=
  ⟨.powerOn, .powerOn clock pace⟩

namespace State

/-- Change static variables. -/
def write (s : State B) (f : Lib B → Lib B) : State B where
  lib := f s.lib
  world := { s.world with unguarded := s.world.unguarded || !s.world.lockHeld }

/-- Record an interaction. -/
def log (s : State B) (o : Obs) : State B :=
  { s with world := { s.world with trace := s.world.trace ++ [o] } }

/-- Hand an event to the integrator. -/
def emit (s : State B) (event : Event) : State B :=
  { s with world := { s.world with
    trace := s.world.trace ++ [.event event]
    misstated := s.world.misstated || decide (event.mode ≠ s.lib.mode)
    stray := s.world.stray ||
      decide (event.level = .subsystem) && (s.lib.subsystems.slotOf event.subsystem).isNone } }

def abort (s : State B) : State B :=
  { s with world := { s.world with aborted := true } }

/-- What a callback about entity `id` may depend on.  An id that was not issued has no
counters. -/
def context (s : State B) (id : EntityId) : Context :=
  if id < s.lib.entityCount then
    { restartCount := (s.lib.entities id).restartCount
      watchdogRestartCount := (s.lib.entities id).watchdogRestartCount
      history := s.world.trace }
  else { restartCount := 0, watchdogRestartCount := 0, history := s.world.trace }

@[simp] theorem write_lib (s : State B) (f : Lib B → Lib B) : (s.write f).lib = f s.lib := rfl

@[simp] theorem write_trace (s : State B) (f : Lib B → Lib B) :
    (s.write f).world.trace = s.world.trace := rfl

@[simp] theorem write_clock (s : State B) (f : Lib B → Lib B) :
    (s.write f).world.clock = s.world.clock := rfl

@[simp] theorem write_pace (s : State B) (f : Lib B → Lib B) :
    (s.write f).world.pace = s.world.pace := rfl

@[simp] theorem write_stamped (s : State B) (f : Lib B → Lib B) :
    (s.write f).world.stamped = s.world.stamped := rfl

@[simp] theorem log_lib (s : State B) (o : Obs) : (s.log o).lib = s.lib := rfl

@[simp] theorem log_trace (s : State B) (o : Obs) :
    (s.log o).world.trace = s.world.trace ++ [o] := rfl

@[simp] theorem log_clock (s : State B) (o : Obs) : (s.log o).world.clock = s.world.clock := rfl

@[simp] theorem log_pace (s : State B) (o : Obs) : (s.log o).world.pace = s.world.pace := rfl

@[simp] theorem log_stamped (s : State B) (o : Obs) :
    (s.log o).world.stamped = s.world.stamped := rfl

@[simp] theorem emit_lib (s : State B) (event : Event) : (s.emit event).lib = s.lib := rfl

@[simp] theorem emit_trace (s : State B) (event : Event) :
    (s.emit event).world.trace = s.world.trace ++ [.event event] := rfl

@[simp] theorem abort_lib (s : State B) : s.abort.lib = s.lib := rfl

@[simp] theorem abort_trace (s : State B) : s.abort.world.trace = s.world.trace := rfl

@[simp] theorem abort_clock (s : State B) : s.abort.world.clock = s.world.clock := rfl

@[simp] theorem abort_pace (s : State B) : s.abort.world.pace = s.world.pace := rfl

@[simp] theorem abort_stamped (s : State B) : s.abort.world.stamped = s.world.stamped := rfl

end State

/-! ## `port.c` -/

def portIsValid (port : Option Port) : Bool :=
  port.any fun p ↦ p.getNowMs && p.emitEvent && p.requestReboot

def portBind (s : State B) (port : Option Port) : Status × State B :=
  if portIsValid port then
    (.ok, s.write fun l ↦ { l with port := port.getD .zero, portReady := true })
  else
    (.errPort, s.write fun l ↦ { l with portReady := false })

/-- The lock of the integrator is not recursive. -/
def syncEnter (s : State B) : State B :=
  if s.lib.portReady && s.lib.port.lock then
    { s with world := { s.world with
      lockHeld := true
      lockMisused := s.world.lockMisused || s.world.lockHeld
      trace := s.world.trace ++ [.lock] } }
  else s

def syncExit (s : State B) : State B :=
  if s.lib.portReady && s.lib.port.unlock then
    { s with world := { s.world with
      lockHeld := false
      lockMisused := s.world.lockMisused || !s.world.lockHeld
      trace := s.world.trace ++ [.unlock] } }
  else s

/-- Time moves on, and its low 32 bits are read. -/
def getNowMs (s : State B) : UInt32 × State B :=
  if s.lib.portReady then
    let now := s.world.clock + s.world.pace s.world.trace
    (UInt32.ofNat now, { s with world := { s.world with
      clock := now
      trace := s.world.trace ++ [.clock (UInt32.ofNat now)] } })
  else (0, s.abort)

theorem getNowMs_of_ready {s : State B} (hready : s.lib.portReady = true) :
    getNowMs s = (UInt32.ofNat (s.world.clock + s.world.pace s.world.trace),
      { s with world := { s.world with
        clock := s.world.clock + s.world.pace s.world.trace
        trace := s.world.trace ++
          [.clock (UInt32.ofNat (s.world.clock + s.world.pace s.world.trace))] } }) :=
  if_pos hready

theorem getNowMs_fst_eq {s : State B} (hready : s.lib.portReady = true) :
    (getNowMs s).1 = UInt32.ofNat (getNowMs s).2.world.clock := by
  rw [getNowMs_of_ready hready]

theorem getNowMs_trace {s : State B} (hready : s.lib.portReady = true) :
    (getNowMs s).2.world.trace = s.world.trace ++ [.clock (getNowMs s).1] := by
  rw [getNowMs_of_ready hready]

def emitEvent (s : State B) (event : Event) : State B :=
  if s.lib.portReady then s.emit event else s.abort

def requestReboot (s : State B) (reason : CStr) : State B :=
  if s.lib.portReady then s.log (.reboot reason) else s.abort

/-- Record that entity `id` gets a heartbeat stamp now. -/
def State.stamp (s : State B) (id : EntityId) : State B :=
  if s.lib.health.entityLimit ≤ id then s
  else { s with world := { s.world with
    stamped := Function.update s.world.stamped id s.world.clock } }

end Fdir
