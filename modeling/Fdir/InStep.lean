import Fdir.Machine

/-!
# The tables in step

`recovery.c` and `health.c` count the entities each for itself.  From power-on, and
through every call of any thread, `fdir_init` included, both counts agree, exactly the
slots below them are used, and all others are as power-on left them.
-/

namespace Fdir

open Foundation

variable {B : Build}

/-- What the zeroed static variables hold for an id that was not issued. -/
def Record.zero : Record := ⟨.zero, .zero, .initFailed, false⟩

structure Lib.InStep (l : Lib B) : Prop where
  aligned : l.health.entityLimit = l.entityCount
  count_le : l.entityCount.toNat ≤ B.entityCap
  used_iff : ∀ id, (l.entities id).used = true ↔ id < l.entityCount
  pristine : ∀ id, l.entityCount ≤ id → l.record id = .zero

theorem Lib.record_enroll_of_ne (l : Lib B) {id : EntityId} (hid : id ≠ l.entityCount)
    (desc : EntityDesc) (now : UInt32) : (l.enroll desc now).record id = l.record id := by
  simp [Lib.record, Lib.enroll, Function.update_of_ne hid]

namespace Lib.InStep

variable {l l' : Lib B}

theorem congr (h : l.InStep) (hcount : l'.entityCount = l.entityCount)
    (hlimit : l'.health.entityLimit = l.health.entityLimit)
    (hused : ∀ id, (l'.entities id).used = (l.entities id).used)
    (hrecord : ∀ id, l.entityCount ≤ id → l'.record id = l.record id) : l'.InStep where
  aligned := by rw [hlimit, hcount, h.aligned]
  count_le := hcount ▸ h.count_le
  used_iff := by
    intro id
    rw [hused, hcount]
    exact h.used_iff id
  pristine := by
    intro id hid
    rw [hcount] at hid
    exact (hrecord id hid).trans (h.pristine id hid)

/-- The operations of `health.c` write below the bound only. -/
theorem health (h : l.InStep) {t : HealthTable} (hlimit : t.entityLimit = l.health.entityLimit)
    (hrecord : ∀ id, l.health.entityLimit ≤ id →
      Lib.record { l with health := t } id = l.record id) : Lib.InStep { l with health := t } := by
  refine h.congr rfl hlimit (fun _ ↦ rfl) fun id hid ↦ hrecord id ?_
  rwa [h.aligned]

theorem enroll (h : l.InStep) (hroom : l.entityCount.toNat < B.entityCap) (desc : EntityDesc)
    (now : UInt32) : (l.enroll desc now).InStep := by
  have hlt := Lib.lt_enroll_entityCount hroom
  have hcap := B.entityCap_le
  constructor
  · rfl
  · change (l.entityCount + 1).toNat ≤ B.entityCap
    rw [UInt8.toNat_add, UInt8.toNat_one]
    omega
  · intro id
    change (Function.update l.entities l.entityCount (registeredSlot B desc) id).used = true ↔
      id < l.entityCount + 1
    rw [hlt]
    by_cases hid : id = l.entityCount
    · subst hid
      simp [registeredSlot]
    · simp [hid, h.used_iff id]
  · intro id hid
    have hnew : ¬ id < l.entityCount + 1 := UInt8.not_lt.mpr hid
    rw [hlt, not_or] at hnew
    have hold := h.pristine id (UInt8.not_lt.mp hnew.2)
    exact (l.record_enroll_of_ne hnew.1 desc now).trans hold

end Lib.InStep

/-! ## Handled reports -/

theorem Lib.handle_used (l : Lib B) (ans : Answers) (report : FailureReport) (id : EntityId) :
    ((l.handle ans report).entities id).used = (l.entities id).used := by
  unfold Lib.handle
  split_ifs
  · rfl
  · rfl
  · change (Function.update l.entities report.entity (l.verdict ans report).1.slot id).used = _
    by_cases hid : id = report.entity
    · subst hid
      rw [Function.update_self, Lib.verdict, Record.settle_used]
      rfl
    · rw [Function.update_of_ne hid]

/-- A report of an id that was not issued changes no record. -/
theorem Lib.record_handle_of_unknown (l : Lib B) (ans : Answers) (report : FailureReport)
    {id : EntityId} (hid : l.entityCount ≤ id) :
    (l.handle ans report).record id = l.record id := by
  by_cases hself : id = report.entity
  · subst hself
    unfold Lib.handle
    rw [if_pos (Or.inl hid)]
    split_ifs <;> rfl
  · exact Lib.record_handle_of_ne l ans report hself

theorem Lib.InStep.handle {l : Lib B} (h : l.InStep) (ans : Answers) (report : FailureReport) :
    (l.handle ans report).InStep :=
  h.congr (Lib.handle_entityCount _ _ _) (Lib.handle_entityLimit _ _ _) (l.handle_used ans report)
    fun _ hid ↦ l.record_handle_of_unknown ans report hid

/-! ## Writes of health records -/

section Health

variable {l : Lib B} {id other : EntityId} (hother : l.health.entityLimit ≤ other)
include hother

theorem record_setUnsafe (health : Health) (errorCode : UInt16) (detail : CStr) :
    Lib.record { l with health := l.health.setUnsafe id health errorCode detail } other =
      l.record other := by
  unfold HealthTable.setUnsafe
  split
  · rfl
  · next hid =>
    have hne : other ≠ id := fun h ↦ hid (h ▸ hother)
    simp [Lib.record, Function.update_of_ne hne]

theorem record_resetUnsafe (nowMs : UInt32) :
    Lib.record { l with health := l.health.resetUnsafe id nowMs } other = l.record other := by
  unfold HealthTable.resetUnsafe
  split
  · rfl
  · next hid =>
    have hne : other ≠ id := fun h ↦ hid (h ▸ hother)
    simp [Lib.record, Function.update_of_ne hne]

theorem record_heartbeat (nowMs : UInt32) :
    Lib.record { l with health := l.health.heartbeat id nowMs } other = l.record other := by
  unfold HealthTable.heartbeat
  split
  · rfl
  · next hid =>
    have hne : other ≠ id := fun h ↦ hid (h ▸ hother)
    simp [Lib.record, Function.update_of_ne hne]

end Health

/-! ## Every step -/

theorem Effect.inStep {c : Call} {l l' : Lib B} (he : Effect c l l') (h : l.InStep) :
    l'.InStep := by
  cases he with
  | enroll desc now _ hroom => exact h.enroll hroom desc now
  | handle ans report => exact h.handle ans report
  | watch ans id now => exact h.handle ans _
  | dequeue ans report =>
      apply Lib.InStep.handle
      exact h.congr rfl rfl (fun _ ↦ rfl) fun _ _ ↦ rfl
  | accept report detail =>
      have hqueue : Lib.InStep { l with queue := (l.queue.putUnsafe report).2 } :=
        h.congr rfl rfl (fun _ ↦ rfl) fun _ _ ↦ rfl
      exact hqueue.health (setUnsafe_entityLimit _ _ _ _ _) fun _ hid ↦ record_setUnsafe hid _ _ _
  | heartbeat id now =>
      exact h.health (heartbeat_entityLimit _ _ _) fun _ hid ↦ record_heartbeat hid _
  | healthSet id health errorCode =>
      exact h.health (setUnsafe_entityLimit _ _ _ _ _) fun _ hid ↦ record_setUnsafe hid _ _ _
  | healthReset id now =>
      exact h.health (resetUnsafe_entityLimit _ _ _) fun _ hid ↦ record_resetUnsafe hid _
  | _ => exact h.congr rfl rfl (fun _ ↦ rfl) fun _ _ ↦ rfl

theorem Does.inStep {pc : Pc} {l l' : Lib B} (hdoes : Does l pc l') (h : l.InStep) :
    l'.InStep := by
  cases hdoes with
  | same => exact h
  | put | get => exact h.congr rfl rfl (fun _ ↦ rfl) fun _ _ ↦ rfl
  | handle ans report => exact h.handle ans report
  | beat id now =>
      exact h.health (heartbeat_entityLimit _ _ _) fun _ hid ↦ record_heartbeat hid _

theorem Effects.inStep {c : Call} {l l' : Lib B} (he : Effects c l l') (h : l.InStep) :
    l'.InStep := by
  induction he with
  | refl => exact h
  | tail _ hlast ih => exact hlast.inStep ih

theorem after_inStep {s : State B} (h : s.lib.InStep) (c : Call) : (after s c).lib.InStep :=
  (after_effects h.aligned c).inStep h

theorem Machine.inStep_step {m : Machine B} (h : m.state.lib.InStep) (turn : Turn) :
    (m.step turn).state.lib.InStep := by
  rcases Machine.does h.aligned turn with ⟨c, heffect⟩ | ⟨thread, -, hdoes⟩
  · exact heffect.inStep h
  · exact hdoes.inStep h

theorem powerOn_inStep : (Lib.powerOn : Lib B).InStep where
  aligned := rfl
  count_le := Nat.zero_le _
  used_iff := fun _ ↦ ⟨fun h ↦ (Bool.false_ne_true h).elim, fun h ↦ (UInt8.not_lt_zero h).elim⟩
  pristine := fun _ _ ↦ rfl

theorem fdirInit_inStep {s : State B} (h : s.lib.InStep) (config : Option Config)
    (port : Option Port) : (fdirInit s config port).2.lib.InStep := by
  by_cases hvalid : portIsValid port = true
  · rw [fdirInit_of_valid hvalid]
    exact powerOn_inStep.congr rfl rfl (fun _ ↦ rfl) fun _ _ ↦ rfl
  · rw [fdirInit_of_invalid hvalid]
    exact h.congr rfl rfl (fun _ ↦ rfl) fun _ _ ↦ rfl

theorem Op.inStep {s : State B} (h : s.lib.InStep) (op : Op) : (op.exec s).2.lib.InStep := by
  cases op with
  | call c => exact after_inStep h c
  | init config port => exact fdirInit_inStep h config port
  | getNowMs => exact (getNowMs_lib s).symm ▸ h
  | emitEvent event => exact (emitEvent_lib s event).symm ▸ h
  | requestReboot reason => exact (requestReboot_lib s reason).symm ▸ h

/-! ## Registration -/

/-- A registration fails, or enters the next id. -/
theorem entityRegister_cases (s : State B) (desc : Option EntityDesc) (outId : Bool) :
    (∃ status ≠ Status.ok, entityRegister s desc outId = (status, none, syncExit (syncEnter s))) ∨
      ∃ desc' now, (entityRegister s desc outId).1 = .ok ∧
        (entityRegister s desc outId).2.1 = some s.lib.entityCount ∧
          s.lib.entityCount.toNat < B.entityCap ∧
            (entityRegister s desc outId).2.2.lib = s.lib.enroll desc' now := by
  by_cases haccepted : s.lib.Registers (.entityRegister desc outId)
  · obtain ⟨desc, hcall, hroom, hexhausted⟩ := haccepted
    cases hcall
    obtain ⟨now, hlib⟩ := entityRegister_lib s hroom hexhausted
    refine Or.inr ⟨desc, now, ?_, ?_, hroom, hlib⟩
    · simp [entityRegister, Nat.not_le.mpr hroom, hexhausted]
    · simp [entityRegister, Nat.not_le.mpr hroom, hexhausted]
  · exact Or.inl ⟨_, s.lib.refusal_ne_ok desc outId, entityRegister_of_refused haccepted⟩

/-- Health OK, no latch, counters zero. -/
structure Record.Fresh (r : Record) : Prop where
  health : r.snapshot.health = .ok
  errorCode : r.snapshot.errorCode = 0
  detail : r.snapshot.detail = []
  unlatched : r.faultLatched = false
  restartCount : r.slot.restartCount = 0
  watchdogRestartCount : r.slot.watchdogRestartCount = 0

/-- The latch is fresh although registration does not touch it. -/
theorem Lib.InStep.fresh_enroll {l : Lib B} (h : l.InStep) (desc : EntityDesc) (now : UInt32) :
    ((l.enroll desc now).record l.entityCount).Fresh := by
  have hold := congrArg Record.faultLatched (h.pristine l.entityCount (UInt8.le_refl _))
  have hsnapshot : ((l.enroll desc now).record l.entityCount).snapshot = ⟨.ok, now, 0, []⟩ := by
    simp [Lib.record, Lib.enroll]
  have hslot : ((l.enroll desc now).record l.entityCount).slot = registeredSlot B desc := by
    simp [Lib.record, Lib.enroll]
  constructor
  · rw [hsnapshot]
  · rw [hsnapshot]
  · rw [hsnapshot]
  · exact hold
  · rw [hslot, registeredSlot]
  · rw [hslot, registeredSlot]

/-! ## Every run -/

/-- A turn of the threads, or an operation made in one go, `fdir_init` among them. -/
inductive Happening where
  | turn (turn : Turn)
  | op (op : Op)

def Machine.happen (m : Machine B) : Happening → Machine B
  | .turn turn => m.step turn
  | .op op => { m with state := (op.exec m.state).2 }

/-- The machine at power-on. -/
def Machine.powerOn (clock : ℕ) (pace : List Obs → ℕ) : Machine B :=
  ⟨.powerOn clock pace, fun _ ↦ .idle⟩

theorem Machine.inStep_run (clock : ℕ) (pace : List Obs → ℕ) (happenings : List Happening) :
    (Run.run Machine.happen (.powerOn clock pace : Machine B) happenings).state.lib.InStep := by
  refine Run.invariant (fun m : Machine B ↦ m.state.lib.InStep) ?_ powerOn_inStep happenings
  intro m happening h
  cases happening with
  | turn turn => exact Machine.inStep_step h turn
  | op op => exact Op.inStep h op

end Fdir
