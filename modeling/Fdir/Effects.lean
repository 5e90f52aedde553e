import Fdir.Outcome
import Fdir.Foundation.Run

/-!
# What calls do to the static variables

`Effect c l l'` lists everything call `c` can do to the static variables in one
critical section, with the tests that guard it; taking a report off the queue
and handling it is one effect, since a call that is not interleaved does both in
a row.  Every call is a sequence of effects, so that a property each effect
keeps is kept by every run.  The first such property, `Sound`, ties the tables
of `recovery.c` and `health.c` together.
-/

namespace Fdir

open Foundation

variable {B : Build}

/-- The slot `fdir_entity_register` fills in. -/
def registeredSlot (B : Build) (desc : EntityDesc) : EntitySlot where
  desc := { desc with name := some (copyDetail B.nameSize desc.name) }
  name := copyDetail B.nameSize desc.name
  used := true
  restartCount := 0
  watchdogRestartCount := 0

def registeredSubsystem (B : Build) (desc : SubsystemDesc) : SubsystemSlot where
  desc := { desc with name := some (copyDetail B.nameSize desc.name) }
  name := copyDetail B.nameSize desc.name
  available := true
  degraded := false
  used := true

/-- The static variables after the registration of an entity. -/
def Lib.enroll (l : Lib B) (desc : EntityDesc) (now : UInt32) : Lib B :=
  { l with
    entities := Function.update l.entities l.entityCount (registeredSlot B desc)
    entityCount := l.entityCount + 1
    health := { l.health with
      health := Function.update l.health.health l.entityCount ⟨.ok, now, 0, []⟩
      entityLimit := l.entityCount + 1 } }

def Lib.enrollSubsystem (l : Lib B) (desc : SubsystemDesc) : Lib B :=
  { l with
    subsystems := {
      subs := Function.update l.subsystems.subs l.subsystems.subCount
        (registeredSubsystem B desc)
      subCount := l.subsystems.subCount + 1 } }

def Lib.supervise (l : Lib B) (enabled : UInt8) : Lib B :=
  { l with
    supervisionEnabled := enabled
    queue := if enabled = 0 then .init else l.queue }

/-- The static variables after an accepted fault report. -/
def Lib.accept (l : Lib B) (report : FailureReport) (detail : CStr) : Lib B :=
  { l with
    queue := (l.queue.putUnsafe report).2
    health := l.health.setUnsafe report.entity .failed report.errorCode detail }

/-- The marks of `subsystem.c` and the calls that make them. -/
inductive SubsystemMark :
    Call → SubsystemId → (SubsystemTable → SubsystemId → SubsystemTable) → Prop where
  | available (id : SubsystemId) :
      SubsystemMark (.subsystemMarkAvailable id) id SubsystemTable.markAvailableUnsafe
  | unavailable (id : SubsystemId) :
      SubsystemMark (.subsystemMarkUnavailable id) id SubsystemTable.markUnavailableUnsafe
  | degraded (id : SubsystemId) :
      SubsystemMark (.subsystemMarkDegraded id) id SubsystemTable.markDegradedUnsafe

/-- The entity and the reason that a fault report names. -/
def Call.reported? : Call → Option (EntityId × Reason)
  | .reportFault entity reason _ _ => some (entity, reason)
  | .reportFaultEx entity reason _ _ _ => some (entity, reason)
  | _ => none

/-- A fault report is passed on to the queue. -/
def Lib.passes (l : Lib B) (entity : EntityId) (reason : Reason) : Prop :=
  l.supervisionEnabled ≠ 0 ∧ l.health.faultIsLatchedUnsafe entity reason = false ∧
    l.health.snapshotFailed entity = false

instance (l : Lib B) (entity : EntityId) (reason : Reason) : Decidable (l.passes entity reason) :=
  inferInstanceAs (Decidable (_ ∧ _))

/-- A registration the library accepts. -/
def Lib.Registers (l : Lib B) (c : Call) : Prop :=
  ∃ desc, c = .entityRegister (some desc) true ∧ l.entityCount.toNat < B.entityCap ∧
    desc.onExhausted ≠ .restart

/-- What call `c` can do to the static variables in one go. -/
inductive Effect (c : Call) (l : Lib B) : Lib B → Prop where
  | same : Effect c l l
  | enroll (desc : EntityDesc) (now : UInt32) (hcall : c = .entityRegister (some desc) true)
      (hroom : l.entityCount.toNat < B.entityCap) (hexhausted : desc.onExhausted ≠ .restart) :
      Effect c l (l.enroll desc now)
  | enrollSubsystem (desc : SubsystemDesc)
      (hroom : l.subsystems.subCount.toNat < B.subsystemCap) :
      Effect c l (l.enrollSubsystem desc)
  | supervise (enabled : UInt8) (hcall : c = .setSupervisionEnabled enabled)
      (hchange : l.supervisionEnabled ≠ enabled) : Effect c l (l.supervise enabled)
  | command (mode : Mode) (hcall : c = .deescalateSystemMode ∨ ∃ code, c = .setSystemMode code)
      (hmode : mode ≠ .rebootPending) : Effect c l { l with mode := mode }
  | raise (mode : Mode) (hmode : mode = .rebootPending → ∃ why, c = .tryReboot why) :
      Effect c l (l.raise mode)
  | review : Effect c l l.review
  | mark (mark : SubsystemTable → SubsystemId → SubsystemTable) (id : SubsystemId)
      (hcall : SubsystemMark c id mark) :
      Effect c l { l with subsystems := mark l.subsystems id }
  | handle (ans : Answers) (report : FailureReport) (hcall : c = .handleFailure (some report))
      (henabled : l.supervisionEnabled ≠ 0) : Effect c l (l.handle ans report)
  | watch (ans : Answers) (id : EntityId) (now maxAge : UInt32)
      (hcall : c = .supervisorTick ∨ c = .checkWatchdogs) (henabled : l.supervisionEnabled ≠ 0)
      (hdue : watchdogDue l now maxAge id = true) :
      Effect c l (l.handle ans (watchdogReport B id now))
  | put (report : FailureReport) (hcall : c = .submitFailure (some report))
      (henabled : l.supervisionEnabled ≠ 0) :
      Effect c l { l with queue := (l.queue.putUnsafe report).2 }
  | dequeue (ans : Answers) (report : FailureReport) (hcall : c = .supervisorTick)
      (henabled : l.supervisionEnabled ≠ 0) (hget : l.queue.getUnsafe.1 = some report) :
      Effect c l (Lib.handle { l with queue := l.queue.getUnsafe.2 } ans report)
  | reject (report : FailureReport) (hput : (l.queue.putUnsafe report).1 ≠ 0) :
      Effect c l { l with queue := (l.queue.putUnsafe report).2 }
  | accept (report : FailureReport) (detail : CStr)
      (hcall : c.reported? = some (report.entity, report.reason))
      (henabled : l.supervisionEnabled ≠ 0)
      (hlatch : l.health.faultIsLatchedUnsafe report.entity report.reason = false)
      (hfailed : l.health.snapshotFailed report.entity = false)
      (hput : (l.queue.putUnsafe report).1 = 0) : Effect c l (l.accept report detail)
  | heartbeat (id : EntityId) (now : UInt32) :
      Effect c l { l with health := l.health.heartbeat id now }
  | healthSet (id : EntityId) (health : Health) (errorCode : UInt16) (detail : Option CStr)
      (hcall : c = .healthSet id health errorCode detail) :
      Effect c l { l with
        health := l.health.setUnsafe id health errorCode (copyDetail B.detailSize detail) }
  | healthReset (id : EntityId) (now : UInt32) (hcall : c = .healthReset id) :
      Effect c l { l with health := l.health.resetUnsafe id now }

/-! ## The tables stay in step -/

/-- Both modules know the same number of entities. -/
abbrev Lib.Aligned (l : Lib B) : Prop := l.health.entityLimit = l.entityCount

/-- The tables agree: the library is bound to a port, both modules know the same
entities, every entity slot below the count is used, and no fault is latched on
an id that was not issued. -/
structure Lib.Sound (l : Lib B) : Prop where
  ready : l.portReady = true
  limit_eq : l.health.entityLimit = l.entityCount
  count_le : l.entityCount.toNat ≤ B.entityCap
  used_iff : ∀ id, (l.entities id).used = true ↔ id < l.entityCount
  unlatched : ∀ id, l.entityCount ≤ id → l.health.faultLatched id = false
  exhausted_ne : ∀ id, (l.entities id).desc.onExhausted ≠ .restart

namespace Lib.Sound

variable {l : Lib B}

theorem unknown_iff (h : l.Sound) (id : EntityId) :
    (l.entityCount ≤ id ∨ (l.entities id).used = false) ↔ l.entityCount ≤ id := by
  refine ⟨?_, Or.inl⟩
  rintro (hle | hused)
  · exact hle
  · refine UInt8.not_lt.mp fun hlt ↦ ?_
    rw [(h.used_iff id).mpr hlt] at hused
    cases hused

theorem faultIsLatched_iff (h : l.Sound) (id : EntityId) (reason : Reason) :
    l.health.faultIsLatchedUnsafe id reason = true ↔
      l.health.faultLatched id = true ∧ l.health.latchedReason id = reason := by
  unfold HealthTable.faultIsLatchedUnsafe
  split
  next hle =>
    rw [h.limit_eq] at hle
    simp [h.unlatched id hle]
  next => simp

theorem snapshotFailed_iff (h : l.Sound) {id : EntityId} (hid : id < l.entityCount) :
    l.health.snapshotFailed id = true ↔ l.failed id := by
  have hlimit : ¬ l.health.entityLimit ≤ id := by
    rw [h.limit_eq]
    exact UInt8.not_le.mpr hid
  simp [HealthTable.snapshotFailed, HealthTable.snapshot, hlimit, Lib.failed]

theorem congr (h : l.Sound) {l' : Lib B} (hready : l'.portReady = l.portReady)
    (hentities : l'.entities = l.entities) (hcount : l'.entityCount = l.entityCount)
    (hlimit : l'.health.entityLimit = l.health.entityLimit)
    (hlatched : l'.health.faultLatched = l.health.faultLatched) : l'.Sound where
  ready := hready.trans h.ready
  limit_eq := by rw [hlimit, hcount, h.limit_eq]
  count_le := by rw [hcount]; exact h.count_le
  used_iff := by rw [hentities, hcount]; exact h.used_iff
  unlatched := by rw [hlatched, hcount]; exact h.unlatched
  exhausted_ne := by rw [hentities]; exact h.exhausted_ne

end Lib.Sound

theorem Lib.lt_enroll_entityCount {l : Lib B} (hroom : l.entityCount.toNat < B.entityCap)
    (id : EntityId) : id < l.entityCount + 1 ↔ id = l.entityCount ∨ id < l.entityCount := by
  have hcap := B.entityCap_le
  rw [UInt8.lt_iff_toNat_lt, UInt8.lt_iff_toNat_lt, ← UInt8.toNat_inj, UInt8.toNat_add,
    UInt8.toNat_one]
  omega

theorem Lib.sound_enroll {l : Lib B} (h : l.Sound) {desc : EntityDesc} {now : UInt32}
    (hroom : l.entityCount.toNat < B.entityCap) (hexhausted : desc.onExhausted ≠ .restart) :
    (l.enroll desc now).Sound := by
  have hcap := B.entityCap_le
  have hcount : (l.entityCount + 1).toNat = l.entityCount.toNat + 1 := by
    rw [UInt8.toNat_add, UInt8.toNat_one]
    omega
  have hlt := Lib.lt_enroll_entityCount hroom
  constructor
  · exact h.ready
  · rfl
  · exact hcount ▸ hroom
  · intro id
    change (Function.update l.entities l.entityCount (registeredSlot B desc) id).used = true ↔
      id < l.entityCount + 1
    rw [hlt]
    by_cases hid : id = l.entityCount
    · subst hid
      simp [registeredSlot]
    · simp [hid, h.used_iff id]
  · intro id hid
    refine h.unlatched id (UInt8.not_lt.mp fun hold ↦ ?_)
    exact UInt8.not_le.mpr ((hlt id).mpr (Or.inr hold)) hid
  · intro id
    change (Function.update l.entities l.entityCount (registeredSlot B desc)
      id).desc.onExhausted ≠ .restart
    by_cases hid : id = l.entityCount
    · subst hid
      simpa [registeredSlot] using hexhausted
    · simpa [Function.update_of_ne hid] using h.exhausted_ne id

theorem Lib.sound_setRecord {l : Lib B} (h : l.Sound) {id : EntityId} (hid : id < l.entityCount)
    {r : Record} (hused : r.slot.used = true) (hdesc : r.slot.desc = (l.entities id).desc) :
    (l.setRecord id r).Sound := by
  constructor
  · exact h.ready
  · exact h.limit_eq
  · exact h.count_le
  · intro other
    change (Function.update l.entities id r.slot other).used = true ↔ other < l.entityCount
    by_cases hother : other = id
    · subst hother
      simp [hused, hid]
    · simp [Function.update_of_ne hother, h.used_iff other]
  · intro other hother
    change Function.update l.health.faultLatched id r.faultLatched other = false
    have hne : other ≠ id := by
      rintro rfl
      exact UInt8.not_le.mpr hid hother
    simpa [Function.update_of_ne hne] using h.unlatched other hother
  · intro other
    change (Function.update l.entities id r.slot other).desc.onExhausted ≠ .restart
    by_cases hother : other = id
    · subst hother
      simpa [hdesc] using h.exhausted_ne other
    · simpa [Function.update_of_ne hother] using h.exhausted_ne other

theorem bumpRestart_used (slot : EntitySlot) (reason : Reason) :
    (bumpRestart slot reason).used = slot.used := by
  unfold bumpRestart
  split_ifs <;> rfl

theorem bumpRestart_desc (slot : EntitySlot) (reason : Reason) :
    (bumpRestart slot reason).desc = slot.desc := by
  unfold bumpRestart
  split_ifs <;> rfl

theorem Record.settle_used (r : Record) (ans : Answers) (action : Action) (reason : Reason) :
    (r.settle ans action reason).1.slot.used = r.slot.used := by
  unfold Record.settle
  split_ifs <;> simp [Record.restore, Record.bump, bumpRestart_used]

theorem Record.settle_desc (r : Record) (ans : Answers) (action : Action) (reason : Reason) :
    (r.settle ans action reason).1.slot.desc = r.slot.desc := by
  unfold Record.settle
  split_ifs <;> simp [Record.restore, Record.bump, bumpRestart_desc]

theorem Lib.sound_handle {l : Lib B} (h : l.Sound) (ans : Answers) (report : FailureReport) :
    (l.handle ans report).Sound := by
  unfold Lib.handle
  split
  · exact h
  · split
    · exact h.congr rfl rfl rfl rfl rfl
    · next hknown =>
      have hid : report.entity < l.entityCount :=
        UInt8.not_le.mp fun hle ↦ hknown (Or.inl hle)
      have hrecord : (l.setRecord report.entity (l.verdict ans report).1).Sound := by
        apply Lib.sound_setRecord h hid
        · rw [Lib.verdict, Record.settle_used]
          exact (h.used_iff _).mpr hid
        · rw [Lib.verdict, Record.settle_desc]
          rfl
      exact hrecord.congr rfl rfl rfl rfl rfl

theorem Lib.aligned_handle {l : Lib B} (h : l.Aligned) (ans : Answers) (report : FailureReport) :
    (l.handle ans report).Aligned := by
  unfold Lib.handle
  split
  · exact h
  · split <;> exact h

theorem Effect.sound {c : Call} {l l' : Lib B} (he : Effect c l l') (h : l.Sound) :
    l'.Sound := by
  cases he with
  | same => exact h
  | enroll desc now _ hroom hexhausted => exact Lib.sound_enroll h hroom hexhausted
  | handle ans report => exact Lib.sound_handle h ans report
  | watch ans id now => exact Lib.sound_handle h ans _
  | dequeue ans report =>
      apply Lib.sound_handle
      exact h.congr rfl rfl rfl rfl rfl
  | enrollSubsystem | supervise | command | raise | review | mark | put | reject =>
      exact h.congr rfl rfl rfl rfl rfl
  | accept report detail =>
      refine h.congr rfl rfl rfl ?_ ?_ <;>
        simp only [Lib.accept, HealthTable.setUnsafe] <;> split <;> rfl
  | heartbeat id now =>
      refine h.congr rfl rfl rfl ?_ ?_ <;>
        simp only [HealthTable.heartbeat] <;> split <;> rfl
  | healthSet id health errorCode detail =>
      refine h.congr rfl rfl rfl ?_ ?_ <;>
        simp only [HealthTable.setUnsafe] <;> split <;> rfl
  | healthReset id now =>
      refine h.congr rfl rfl rfl ?_ ?_ <;>
        simp only [HealthTable.resetUnsafe] <;> split <;> rfl

theorem Effect.aligned {c : Call} {l l' : Lib B} (he : Effect c l l') (h : l.Aligned) :
    l'.Aligned := by
  cases he with
  | enroll => rfl
  | handle ans report => exact Lib.aligned_handle h ans report
  | watch ans id now => exact Lib.aligned_handle h ans _
  | dequeue ans report =>
      apply Lib.aligned_handle
      exact h
  | accept report => exact (setUnsafe_entityLimit _ _ _ _ _).trans h
  | heartbeat id now => exact (heartbeat_entityLimit _ _ _).trans h
  | healthSet id health errorCode => exact (setUnsafe_entityLimit _ _ _ _ _).trans h
  | healthReset id now => exact (resetUnsafe_entityLimit _ _ _).trans h
  | _ => exact h

/-- One effect of call `c` after the other. -/
abbrev Effects (c : Call) : Lib B → Lib B → Prop := Relation.ReflTransGen (Effect c)

/-- The invariant rule for the effects of one call. -/
theorem Effects.invariant {c : Call} (I : Lib B → Prop)
    (hstep : ∀ l l', l.Sound → I l → Effect c l l' → I l') {l l' : Lib B}
    (he : Effects c l l') (hsound : l.Sound) (hinit : I l) : l'.Sound ∧ I l' := by
  induction he with
  | refl => exact ⟨hsound, hinit⟩
  | tail _ hlast ih => exact ⟨hlast.sound ih.1, hstep _ _ ih.1 ih.2 hlast⟩

theorem Effects.sound {c : Call} {l l' : Lib B} (he : Effects c l l') (h : l.Sound) :
    l'.Sound :=
  (he.invariant (fun _ ↦ True) (fun _ _ _ _ _ ↦ trivial) h trivial).1

theorem Effects.aligned {c : Call} {l l' : Lib B} (he : Effects c l l') (h : l.Aligned) :
    l'.Aligned := by
  induction he with
  | refl => exact h
  | tail _ hlast ih => exact hlast.aligned ih

theorem Effect.of_eq {c : Call} {l l' : Lib B} (h : l' = l) : Effect c l l' := h ▸ .same

/-! ## Health writes -/

section Health

variable (l : Lib B) (id other : EntityId)

@[simp] theorem failed_heartbeat (now : UInt32) :
    Lib.failed { l with health := l.health.heartbeat id now } other ↔ l.failed other := by
  simp only [Lib.failed, HealthTable.heartbeat]
  split
  · rfl
  · by_cases hother : other = id
    · subst hother
      simp
    · simp [Function.update_of_ne hother]

theorem failed_enroll {l : Lib B} {id : EntityId} (hid : id ≠ l.entityCount) (desc : EntityDesc)
    (now : UInt32) : (l.enroll desc now).failed id ↔ l.failed id := by
  simp [Lib.failed, Lib.enroll, Function.update_of_ne hid]

theorem failed_accept_of_ne {l : Lib B} {report : FailureReport} {detail : CStr} {id : EntityId}
    (hid : id ≠ report.entity) : (l.accept report detail).failed id ↔ l.failed id := by
  simp only [Lib.failed, Lib.accept, HealthTable.setUnsafe]
  split
  · rfl
  · simp [hid]

theorem failed_accept_self {l : Lib B} {report : FailureReport} {detail : CStr}
    (hlimit : report.entity < l.health.entityLimit) :
    (l.accept report detail).failed report.entity := by
  simp [Lib.failed, Lib.accept, HealthTable.setUnsafe, UInt8.not_le.mpr hlimit]

end Health

/-! ## The sections of the calls -/

theorem entityRegister_lib (s : State B) {desc : EntityDesc}
    (hroom : s.lib.entityCount.toNat < B.entityCap) (hexhausted : desc.onExhausted ≠ .restart) :
    ∃ now, (entityRegister s (some desc) true).2.2.lib = s.lib.enroll desc now := by
  let enrolled := (syncEnter s).write fun l ↦
    { l.setSlot s.lib.entityCount (registeredSlot B desc) with
      entityCount := l.entityCount + 1
      health := l.health.setEntityLimit (l.entityCount + 1) }
  have hcap := B.entityCap_le
  have hnext : s.lib.entityCount < s.lib.entityCount + 1 := by
    rw [UInt8.lt_iff_toNat_lt, UInt8.toNat_add, UInt8.toNat_one]
    omega
  have hid : s.lib.entityCount < enrolled.lib.health.entityLimit := by
    simpa [enrolled, HealthTable.setEntityLimit] using hnext
  have hrun : (entityRegister s (some desc) true).2.2.lib =
      (healthResetUnsafe enrolled s.lib.entityCount).lib := by
    simp only [entityRegister, syncEnter_lib, if_neg (Nat.not_le.mpr hroom), if_neg hexhausted,
      syncExit_lib]
    rfl
  refine ⟨(getNowMs enrolled).1, ?_⟩
  rw [hrun, healthResetUnsafe_lib hid]
  simp [enrolled, Lib.enroll, Lib.setSlot, HealthTable.setEntityLimit, HealthTable.resetUnsafe,
    UInt8.not_le.mpr hnext]

/-- The status of a registration that is refused. -/
def Lib.refusal (l : Lib B) (desc : Option EntityDesc) (outId : Bool) : Status :=
  if desc.isSome ∧ outId ∧ B.entityCap ≤ l.entityCount.toNat then .errFull else .errParam

theorem Lib.refusal_ne_ok (l : Lib B) (desc : Option EntityDesc) (outId : Bool) :
    l.refusal desc outId ≠ .ok := by
  unfold Lib.refusal
  split <;> decide

/-- A registration that is refused only takes and releases the lock. -/
theorem entityRegister_of_refused {s : State B} {desc : Option EntityDesc} {outId : Bool}
    (hrefused : ¬ s.lib.Registers (.entityRegister desc outId)) :
    entityRegister s desc outId = (s.lib.refusal desc outId, none, syncExit (syncEnter s)) := by
  cases desc with
  | none => rfl
  | some desc =>
      cases outId with
      | false => rfl
      | true =>
          by_cases hfull : B.entityCap ≤ s.lib.entityCount.toNat
          · simp [entityRegister, Lib.refusal, hfull]
          · have hexhausted : desc.onExhausted = .restart := by
              by_contra hne
              exact hrefused ⟨desc, rfl, Nat.lt_of_not_le hfull, hne⟩
            simp [entityRegister, Lib.refusal, hfull, hexhausted]

theorem entityRegister_effect (s : State B) (desc : Option EntityDesc) (outId : Bool) :
    Effect (.entityRegister desc outId) s.lib (entityRegister s desc outId).2.2.lib := by
  by_cases haccepted : s.lib.Registers (.entityRegister desc outId)
  · obtain ⟨desc, hcall, hroom, hexhausted⟩ := haccepted
    cases hcall
    obtain ⟨now, hlib⟩ := entityRegister_lib s hroom hexhausted
    rw [hlib]
    exact .enroll desc now rfl hroom hexhausted
  · rw [entityRegister_of_refused haccepted]
    exact .of_eq (by simp)

/-- A registration of a subsystem that the library accepts. -/
def Lib.Enrolls (l : Lib B) (desc : Option SubsystemDesc) (outId : Bool) : Prop :=
  desc.isSome ∧ outId ∧ l.subsystems.subCount.toNat < B.subsystemCap

theorem subsystemRegister_of_room {s : State B}
    (hroom : s.lib.subsystems.subCount.toNat < B.subsystemCap) (desc : SubsystemDesc) :
    subsystemRegister s (some desc) true = (.ok, some s.lib.subsystems.subCount,
      syncExit ((syncEnter s).write fun l ↦ l.enrollSubsystem desc)) := by
  simp only [subsystemRegister, syncEnter_lib, if_neg (Nat.not_le.mpr hroom), State.write,
    Lib.enrollSubsystem, registeredSubsystem]

theorem subsystemRegister_of_refused {s : State B} {desc : Option SubsystemDesc} {outId : Bool}
    (hrefused : ¬ s.lib.Enrolls desc outId) : subsystemRegister s desc outId =
      (if desc.isSome ∧ outId then .errFull else .errParam, none, syncExit (syncEnter s)) := by
  cases desc with
  | none => rfl
  | some desc =>
      cases outId with
      | false => rfl
      | true =>
          have hfull : B.subsystemCap ≤ s.lib.subsystems.subCount.toNat :=
            Nat.not_lt.mp fun hroom ↦ hrefused ⟨rfl, rfl, hroom⟩
          simp [subsystemRegister, hfull]

theorem subsystemRegister_effect (c : Call) (s : State B) (desc : Option SubsystemDesc)
    (outId : Bool) : Effect c s.lib (subsystemRegister s desc outId).2.2.lib := by
  by_cases haccepted : s.lib.Enrolls desc outId
  · obtain ⟨hsome, rfl, hroom⟩ := haccepted
    obtain ⟨desc, rfl⟩ := Option.isSome_iff_exists.mp hsome
    rw [subsystemRegister_of_room hroom, syncExit_lib, State.write_lib, syncEnter_lib]
    exact .enrollSubsystem desc hroom
  · rw [subsystemRegister_of_refused haccepted]
    exact .of_eq (by simp)

theorem setSupervisionEnabled_lib (s : State B) (enabled : UInt8) :
    (setSupervisionEnabled s enabled).2.lib =
      if s.lib.supervisionEnabled = enabled then s.lib else s.lib.supervise enabled := by
  by_cases hsame : s.lib.supervisionEnabled = enabled
  · simp [setSupervisionEnabled, hsame]
  · by_cases hzero : enabled = 0
    · subst hzero
      simp [setSupervisionEnabled, hsame, Lib.supervise]
    · simp [setSupervisionEnabled, hsame, hzero, Lib.supervise]

theorem setSupervisionEnabled_effect (s : State B) (enabled : UInt8) :
    Effect (.setSupervisionEnabled enabled) s.lib (setSupervisionEnabled s enabled).2.lib := by
  rw [setSupervisionEnabled_lib]
  split
  next => exact .same
  next h => exact .supervise enabled rfl h

theorem setSystemMode_effect (s : State B) (mode : ℕ) :
    Effect (.setSystemMode mode) s.lib (setSystemMode s mode).2.lib := by
  unfold setSystemMode
  cases Mode.ofCode? mode with
  | none => exact .of_eq (by simp)
  | some target =>
      cases target with
      | rebootPending => exact .of_eq (by simp)
      | nominal | degraded | safe =>
          simp only [syncExit_lib, setMode_lib, syncEnter_lib]
          exact .command _ (Or.inr ⟨mode, rfl⟩) (by decide)

theorem deescalateSystemMode_effect (s : State B) :
    Effect .deescalateSystemMode s.lib (deescalateSystemMode s).2.lib := by
  unfold deescalateSystemMode
  simp only [syncEnter_lib]
  split_ifs
  · simp only [syncExit_lib, setMode_lib, syncEnter_lib]
    exact .command _ (Or.inl rfl) (by decide)
  · simp only [syncExit_lib, setMode_lib, syncEnter_lib]
    exact .command _ (Or.inl rfl) (by decide)
  · exact .of_eq (by simp)

theorem handleFailure_of_enabled {s : State B} (h : s.lib.supervisionEnabled ≠ 0)
    (report : FailureReport) : handleFailure s (some report) =
      handleFailureLocked (supervisionEnabled s).2 report := by
  simp only [handleFailure, supervisionEnabled_fst, if_neg h]

/-- While supervision is enabled, handling a report has the outcome `Lib.handle`
names. -/
theorem handleFailure_lib (s : State B) (hs : s.lib.Aligned)
    (henabled : s.lib.supervisionEnabled ≠ 0) (report : FailureReport) :
    (handleFailure s (some report)).lib =
      s.lib.handle (answers (raisedState (supervisionEnabled s).2 report) report) report := by
  have hlimit : (supervisionEnabled s).2.lib.Aligned := by
    rwa [supervisionEnabled_lib]
  rw [handleFailure_of_enabled henabled, handleFailureLocked_lib hlimit, supervisionEnabled_lib]

theorem handleFailure_of_disabled {s : State B} (hdisabled : s.lib.supervisionEnabled = 0)
    (report : Option FailureReport) : (handleFailure s report).lib = s.lib := by
  cases report with
  | none => rfl
  | some report => simp [handleFailure, hdisabled]

theorem handleFailure_effect (s : State B) (hs : s.lib.Aligned)
    (report : Option FailureReport) :
    Effect (.handleFailure report) s.lib (handleFailure s report).lib := by
  by_cases henabled : s.lib.supervisionEnabled = 0
  · exact .of_eq (handleFailure_of_disabled henabled report)
  · cases report with
    | none => exact .same
    | some report =>
        rw [handleFailure_lib s hs henabled]
        exact .handle _ report rfl henabled

theorem failureQueuePut_lib (s : State B) (report : FailureReport) :
    (failureQueuePut s report).2.lib =
      { s.lib with queue := (s.lib.queue.putUnsafe report).2 } := by
  simp [failureQueuePut]

theorem submitFailure_effect (s : State B) (report : Option FailureReport) :
    Effect (.submitFailure report) s.lib (submitFailure s report).2.lib := by
  cases report with
  | none => exact .same
  | some report =>
      by_cases henabled : s.lib.supervisionEnabled = 0
      · exact .of_eq (by simp [submitFailure, henabled])
      · have hlib : (submitFailure s (some report)).2.lib =
            { s.lib with queue := (s.lib.queue.putUnsafe report).2 } := by
          simp only [submitFailure, supervisionEnabled_fst, if_neg henabled]
          split <;> simp [failureQueuePut_lib]
        rw [hlib]
        exact .put report rfl henabled

theorem failureQueueGet_of_none {s : State B} (hget : s.lib.queue.getUnsafe.1 = none) :
    failureQueueGet s = (none, syncExit (syncEnter s)) := by
  simp [failureQueueGet, hget]

theorem failureQueueGet_of_some {s : State B} {report : FailureReport}
    (hget : s.lib.queue.getUnsafe.1 = some report) :
    (failureQueueGet s).1 = some report ∧
      (failureQueueGet s).2.lib = { s.lib with queue := s.lib.queue.getUnsafe.2 } := by
  simp [failureQueueGet, hget]

theorem rejectedStatus_ne_ok (flags : UInt8) : rejectedStatus flags ≠ .ok := by
  unfold rejectedStatus
  split <;> decide

/-- The three outcomes of a fault report, as status and static variables. -/
inductive Reported (l : Lib B) (entity : EntityId) (reason : Reason) (flags : UInt8) :
    Status → Lib B → Prop where
  | suppressed (hcause : l.supervisionEnabled = 0 ∨
      l.health.faultIsLatchedUnsafe entity reason = true ∨
      l.health.snapshotFailed entity = true) : Reported l entity reason flags .ok l
  | rejected (report : FailureReport) (hfailed : l.health.snapshotFailed entity = false)
      (hput : (l.queue.putUnsafe report).1 ≠ 0) :
      Reported l entity reason flags (rejectedStatus flags)
        { l with queue := (l.queue.putUnsafe report).2 }
  | accepted (report : FailureReport) (detail : CStr) (hentity : report.entity = entity)
      (hreason : report.reason = reason) (henabled : l.supervisionEnabled ≠ 0)
      (hlatch : l.health.faultIsLatchedUnsafe entity reason = false)
      (hfailed : l.health.snapshotFailed entity = false)
      (hput : (l.queue.putUnsafe report).1 = 0) :
      Reported l entity reason flags .ok (l.accept report detail)

theorem reportFaultImpl_reported (s : State B) (entity : EntityId) (reason : Reason)
    (errorCode : UInt16) (detail : Option CStr) (flags : UInt8) :
    Reported s.lib entity reason flags
      (reportFaultImpl s entity reason errorCode detail flags).1
      (reportFaultImpl s entity reason errorCode detail flags).2.lib := by
  let report : FailureReport := ⟨entity, reason, errorCode, copyDetail B.detailSize detail,
    (getNowMs (syncEnter s)).1, flags⟩
  simp only [reportFaultImpl, syncEnter_lib]
  by_cases henabled : s.lib.supervisionEnabled = 0
  · simp only [henabled, if_true, syncExit_lib, syncEnter_lib]
    exact .suppressed (Or.inl henabled)
  by_cases hlatch : s.lib.health.faultIsLatchedUnsafe entity reason = true
  · simp only [henabled, hlatch, if_true, if_false, syncExit_lib, syncEnter_lib]
    exact .suppressed (Or.inr (Or.inl hlatch))
  by_cases hfailed : s.lib.health.snapshotFailed entity = true
  · rw [if_neg henabled, if_neg hlatch, if_pos hfailed]
    simp only [syncExit_lib, syncEnter_lib]
    exact .suppressed (Or.inr (Or.inr hfailed))
  rw [if_neg henabled, if_neg hlatch, if_neg hfailed]
  rw [Bool.not_eq_true] at hlatch hfailed
  simp only [enqueueFailureUnsafe, getNowMs_lib, syncEnter_lib]
  by_cases hput : (s.lib.queue.putUnsafe report).1 = 0
  · simp only [report] at hput
    simp only [hput, ne_eq, not_true_eq_false, if_false, syncExit_lib, healthSetUnsafe,
      State.write_lib, getNowMs_lib, syncEnter_lib]
    exact .accepted report _ rfl rfl henabled hlatch hfailed hput
  · simp only [report] at hput
    simp only [hput, ne_eq, not_false_eq_true, if_true, rejectedStatus_ne_ok, syncExit_lib,
      State.write_lib, getNowMs_lib, syncEnter_lib]
    exact .rejected report hfailed hput

theorem reportFaultImpl_effect {c : Call} (s : State B) (entity : EntityId) (reason : Reason)
    (hcall : c.reported? = some (entity, reason)) (errorCode : UInt16) (detail : Option CStr)
    (flags : UInt8) :
    Effect c s.lib (reportFaultImpl s entity reason errorCode detail flags).2.lib := by
  generalize hstatus : (reportFaultImpl s entity reason errorCode detail flags).1 = status
  have h := reportFaultImpl_reported s entity reason errorCode detail flags
  rw [hstatus] at h
  generalize (reportFaultImpl s entity reason errorCode detail flags).2.lib = l at h
  cases h with
  | suppressed => exact .same
  | rejected report _ hput => exact .reject report hput
  | accepted report detail hentity hreason henabled hlatch hfailed hput =>
      subst hentity hreason
      exact .accept report detail hcall henabled hlatch hfailed hput

theorem heartbeatNotify_effect (c : Call) (s : State B) (id : EntityId) :
    Effect c s.lib (heartbeatNotify s id).lib := by
  simp only [heartbeatNotify, syncEnter_lib]
  split
  · exact .of_eq (by simp)
  · simp only [syncExit_lib, State.write_lib, stamp_lib, getNowMs_lib, syncEnter_lib]
    exact .heartbeat id _

theorem healthSet_effect (s : State B) (id : EntityId) (health : Health) (errorCode : UInt16)
    (detail : Option CStr) :
    Effect (.healthSet id health errorCode detail) s.lib
      (healthSet s id health errorCode detail).lib := by
  simp only [healthSet, syncEnter_lib]
  split
  · exact .of_eq (by simp)
  · simp only [syncExit_lib, healthSetUnsafe, State.write_lib, syncEnter_lib]
    exact .healthSet id health errorCode detail rfl

theorem healthReset_effect (s : State B) (id : EntityId) :
    Effect (.healthReset id) s.lib (healthReset s id).lib := by
  simp only [healthReset, syncEnter_lib]
  split
  · exact .of_eq (by simp)
  · next hid =>
    rw [syncExit_lib, healthResetUnsafe_lib (by simpa using UInt8.not_le.mp hid), syncEnter_lib]
    exact .healthReset id _ rfl

theorem markSubsystem_effect {c : Call} {id : SubsystemId}
    {mark : SubsystemTable → SubsystemId → SubsystemTable} (hcall : SubsystemMark c id mark)
    (phase : Phase) (detail : CStr) (s : State B) :
    Effect c s.lib (markSubsystem mark phase detail s id).lib := by
  simp only [markSubsystem, syncEnter_lib]
  split
  · simp only [syncExit_lib, emitSubsystemState_lib, State.write_lib, syncEnter_lib]
    exact .mark mark id hcall
  · exact .of_eq (by simp)

theorem workerMayRun_effect (c : Call) (s : State B) (id : EntityId) :
    Effect c s.lib (workerMayRun s id).2.lib := by
  simp only [workerMayRun, systemMode_fst]
  split
  · have h := heartbeatNotify_effect c (systemMode s).2 id
    rwa [systemMode_lib] at h
  · exact .of_eq (by rw [entityMayRun_snd]; simp)

/-! ## The two loops -/

theorem scanLoop_effects {c : Call} (hcall : c = .supervisorTick ∨ c = .checkWatchdogs)
    (nowMs maxAge : UInt32) (rounds i : ℕ) (s : State B)
    (hs : s.lib.Aligned) (henabled : s.lib.supervisionEnabled ≠ 0) :
    Effects c s.lib (scanLoop nowMs maxAge rounds i s).lib := by
  induction rounds generalizing i s with
  | zero => exact .refl
  | succ rounds ih =>
      simp only [scanLoop]
      split
      · split
        next hdue =>
          let handled := handleFailure (syncExit s)
            (some (watchdogReport B (UInt8.ofNat i) nowMs))
          have hlib := handleFailure_lib (syncExit s) (by rwa [syncExit_lib])
            (by rwa [syncExit_lib]) (watchdogReport B (UInt8.ofNat i) nowMs)
          rw [syncExit_lib] at hlib
          have heffect : Effect c s.lib handled.lib := by
            rw [hlib]
            exact .watch _ _ _ _ hcall henabled hdue
          have hnext : handled.lib.supervisionEnabled ≠ 0 := by
            rwa [hlib, Lib.handle_supervisionEnabled]
          have hrest := ih (i + 1) (syncEnter handled)
            (by rw [syncEnter_lib]; exact heffect.aligned hs) (by rwa [syncEnter_lib])
          rw [syncEnter_lib] at hrest
          exact .head heffect hrest
        next => exact ih (i + 1) s hs henabled
      · exact .refl

theorem checkWatchdogs_effects {c : Call} (hcall : c = .supervisorTick ∨ c = .checkWatchdogs)
    (s : State B) (hs : s.lib.Aligned) :
    Effects c s.lib (checkWatchdogs s).lib := by
  by_cases henabled : s.lib.supervisionEnabled = 0
  · exact .single (.of_eq (by simp [checkWatchdogs, henabled]))
  · simp only [checkWatchdogs, supervisionEnabled_fst, getNowMs_lib, if_neg henabled]
    have h := scanLoop_effects hcall (getNowMs s).1 (heartbeatMaxAgeMs s.lib.config) 255 0
      (syncEnter (supervisionEnabled (getNowMs s).2).2) (by simpa using hs)
      (by simpa using henabled)
    simpa using h

theorem drainQueue_effects (rounds : ℕ) (s : State B) (hs : s.lib.Aligned)
    (henabled : s.lib.supervisionEnabled ≠ 0) :
    Effects .supervisorTick s.lib (drainQueue rounds s).lib := by
  induction rounds generalizing s with
  | zero => exact .refl
  | succ rounds ih =>
      simp only [drainQueue]
      cases hget : s.lib.queue.getUnsafe.1 with
      | none =>
          rw [failureQueueGet_of_none hget]
          exact .single (.of_eq (by simp))
      | some report =>
          obtain ⟨hreport, hlib⟩ := failureQueueGet_of_some hget
          simp only [hreport]
          have haligned : (failureQueueGet s).2.lib.Aligned := by
            rwa [hlib]
          have henabled' : (failureQueueGet s).2.lib.supervisionEnabled ≠ 0 := by
            rwa [hlib]
          have hhandle := handleFailure_lib _ haligned henabled' report
          have heffect : Effect .supervisorTick s.lib
              (handleFailure (failureQueueGet s).2 (some report)).lib := by
            rw [hhandle, hlib]
            exact .dequeue _ report rfl henabled hget
          refine .head heffect (ih _ (heffect.aligned hs) ?_)
          rwa [hhandle, Lib.handle_supervisionEnabled]

theorem Effects.supervisionEnabled_eq {c : Call} {l l' : Lib B} (he : Effects c l l')
    (hcall : ∀ enabled, c ≠ .setSupervisionEnabled enabled) :
    l'.supervisionEnabled = l.supervisionEnabled := by
  induction he with
  | refl => rfl
  | tail _ hlast ih =>
      rw [← ih]
      cases hlast with
      | supervise enabled h => exact absurd h (hcall enabled)
      | handle | watch | dequeue => simp
      | _ => rfl

theorem Effects.entityCount_eq {c : Call} {l l' : Lib B} (he : Effects c l l')
    (hcall : ∀ desc, c ≠ .entityRegister (some desc) true) :
    l'.entityCount = l.entityCount := by
  induction he with
  | refl => rfl
  | tail _ hlast ih =>
      rw [← ih]
      cases hlast with
      | enroll desc _ h => exact absurd h (hcall desc)
      | handle | watch | dequeue => simp
      | _ => rfl

theorem supervisorTick_effects (s : State B) (hs : s.lib.Aligned) :
    Effects .supervisorTick s.lib (supervisorTick s).lib := by
  by_cases henabled : s.lib.supervisionEnabled = 0
  · exact .single (.of_eq (by simp [supervisorTick, henabled]))
  · simp only [supervisorTick, supervisionEnabled_fst, if_neg henabled]
    have hdrain := drainQueue_effects 256 (supervisionEnabled s).2 (by simpa using hs)
      (by simpa using henabled)
    rw [supervisionEnabled_lib] at hdrain
    exact hdrain.trans (checkWatchdogs_effects (Or.inl rfl) _ (hdrain.aligned hs))

/-- Every call but the two loops is one effect. -/
theorem after_effect {s : State B} (hs : s.lib.Aligned) {c : Call} (htick : c ≠ .supervisorTick)
    (hscan : c ≠ .checkWatchdogs) : Effect c s.lib (after s c).lib := by
  cases c with
  | query q => exact .of_eq (query_lib s q)
  | entityRegister desc outId => exact entityRegister_effect s desc outId
  | subsystemRegister desc outId => exact subsystemRegister_effect _ s desc outId
  | setSupervisionEnabled enabled => exact setSupervisionEnabled_effect s enabled
  | setSystemMode mode => exact setSystemMode_effect s mode
  | deescalateSystemMode => exact deescalateSystemMode_effect s
  | enterDegradedMode =>
      simp only [after, Call.exec, enterDegradedMode, syncExit_lib, enterDegradedModeUnsafe_lib,
        syncEnter_lib]
      exact .raise _ (fun h ↦ by cases h)
  | enterSafeMode =>
      simp only [after, Call.exec, enterSafeMode, syncExit_lib, enterSafeModeUnsafe_lib,
        syncEnter_lib]
      exact .raise _ (fun h ↦ by cases h)
  | reassessSystemMode =>
      simp only [after, Call.exec, reassessSystemMode, syncExit_lib, evaluateDualPath_lib,
        syncEnter_lib]
      exact .review
  | tryReboot reason =>
      simp only [after, Call.exec, tryReboot, syncExit_lib, tryRebootUnsafe_lib, syncEnter_lib]
      exact .raise _ fun _ ↦ ⟨reason, rfl⟩
  | logNote note => exact .of_eq (by simp [after, Call.exec, logNote])
  | logQueueOverflow queueId overflowDelta depthHighWater =>
      exact .of_eq (by simp [after, Call.exec, logQueueOverflow])
  | supervisorTick => exact absurd rfl htick
  | handleFailure report => exact handleFailure_effect s hs report
  | checkWatchdogs => exact absurd rfl hscan
  | submitFailure report => exact submitFailure_effect s report
  | reportFault entity reason errorCode detail =>
      exact reportFaultImpl_effect s entity reason rfl errorCode detail _
  | reportFaultEx entity reason errorCode detail flags =>
      exact reportFaultImpl_effect s entity reason rfl errorCode detail flags
  | heartbeatNotify id => exact heartbeatNotify_effect _ s id
  | healthSet id health errorCode detail =>
      exact healthSet_effect s id health errorCode detail
  | healthReset id => exact healthReset_effect s id
  | subsystemMarkAvailable id =>
      exact markSubsystem_effect (.available id) _ _ s
  | subsystemMarkUnavailable id =>
      exact markSubsystem_effect (.unavailable id) _ _ s
  | subsystemMarkDegraded id => exact markSubsystem_effect (.degraded id) _ _ s
  | subsystemOnEntityExhausted sub entity report =>
      exact .of_eq (by simp [after, Call.exec])
  | workerMayRun id => exact workerMayRun_effect _ s id

/-- Every call of the interface is a sequence of effects. -/
theorem after_effects {s : State B} (hs : s.lib.Aligned) (c : Call) :
    Effects c s.lib (after s c).lib := by
  by_cases htick : c = .supervisorTick
  · subst htick
    exact supervisorTick_effects s hs
  · by_cases hscan : c = .checkWatchdogs
    · subst hscan
      exact checkWatchdogs_effects (Or.inr rfl) s hs
    · exact .single (after_effect hs htick hscan)

theorem after_sound {s : State B} (hs : s.lib.Sound) (c : Call) : (after s c).lib.Sound :=
  (after_effects hs.limit_eq c).sound hs

theorem Effect.config_eq {c : Call} {l l' : Lib B} (he : Effect c l l') :
    l'.config = l.config := by
  cases he with
  | handle | watch | dequeue => rw [Lib.handle_config]
  | _ => rfl

theorem after_config {s : State B} (hs : s.lib.Sound) (c : Call) :
    (after s c).lib.config = s.lib.config :=
  ((after_effects hs.limit_eq c).invariant (fun l ↦ l.config = s.lib.config)
    (fun _ _ _ hI he ↦ he.config_eq.trans hI) hs rfl).2

/-- A failing `fdir_init` only unbinds the port. -/
theorem fdirInit_of_invalid {s : State B} {config : Option Config} {port : Option Port}
    (hport : ¬ portIsValid port = true) :
    fdirInit s config port = (.errPort, s.write fun l ↦ { l with portReady := false }) := by
  simp [fdirInit, portBind, hport]

theorem fdirInit_of_valid {s : State B} {config : Option Config} {port : Option Port}
    (hport : portIsValid port = true) :
    fdirInit s config port = (.ok,
      (s.write fun l ↦ { l with port := port.getD .zero, portReady := true }).write fun l ↦
        { l with
          config := config.getD configDefault
          health := .init
          subsystems := .init
          queue := .init
          entities := fun _ ↦ .zero
          entityCount := 0
          mode := .nominal
          supervisionEnabled := 1 }) := by
  simp [fdirInit, portBind, hport]

theorem fdirInit_sound (s : State B) (config : Option Config) (lock unlock : Bool) :
    (fdirInit s config (some (.complete lock unlock))).2.lib.Sound where
  ready := rfl
  limit_eq := rfl
  count_le := Nat.zero_le _
  used_iff := by
    intro id
    constructor
    · intro h
      cases h
    · intro h
      exact absurd h UInt8.not_lt_zero
  unlatched := fun _ _ ↦ rfl
  exhausted_ne := by
    intro _ h
    cases h

theorem started_sound (clock : ℕ) (pace : List Obs → ℕ) (config : Option Config)
    (lock unlock : Bool) : (started clock pace config lock unlock : State B).lib.Sound :=
  fdirInit_sound _ config lock unlock

/-! ## Invariants of runs -/

/-- The invariant rule for one call.  The condition `P` on the call is met by the
two loops in every state, so that it need only be judged before the call. -/
theorem after_invariant (I : Lib B → Prop) (P : Lib B → Call → Prop)
    (hstep : ∀ c l l', l.Sound → I l → P l c → Effect c l l' → I l')
    (htick : ∀ l, P l .supervisorTick) (hscan : ∀ l, P l .checkWatchdogs) {s : State B}
    {c : Call} (hs : s.lib.Sound) (hI : I s.lib) (hP : P s.lib c) : I (after s c).lib := by
  by_cases hloop : c = .supervisorTick ∨ c = .checkWatchdogs
  · have hcall : ∀ l, P l c := by
      intro l
      rcases hloop with rfl | rfl
      · exact htick l
      · exact hscan l
    exact ((after_effects hs.limit_eq c).invariant I
      (fun l l' hl hIl he ↦ hstep c l l' hl hIl (hcall l) he) hs hI).2
  · rw [not_or] at hloop
    exact hstep c _ _ hs hI hP (after_effect hs.limit_eq hloop.1 hloop.2)

/-- The invariant rule for runs whose calls all meet `P` when they are made. -/
theorem run_invariant (I : Lib B → Prop) (P : Lib B → Call → Prop)
    (hstep : ∀ c l l', l.Sound → I l → P l c → Effect c l l' → I l')
    (htick : ∀ l, P l .supervisorTick) (hscan : ∀ l, P l .checkWatchdogs) {s : State B}
    {calls : List Call} (hs : s.lib.Sound) (hI : I s.lib)
    (hcalls : Run.Along after (fun s c ↦ P s.lib c) s calls) :
    (Run.run after s calls).lib.Sound ∧ I (Run.run after s calls).lib := by
  refine Run.Along.invariant (fun s : State B ↦ s.lib.Sound ∧ I s.lib) ?_ ⟨hs, hI⟩ hcalls
  intro s c h hP
  exact ⟨after_sound h.1 c, after_invariant I P hstep htick hscan h.1 h.2 hP⟩

/-! ## The queue -/

theorem Effect.valid {c : Call} {l l' : Lib B} (h : l.queue.Valid) (he : Effect c l l') :
    l'.queue.Valid := by
  cases he with
  | supervise enabled =>
      simp only [Lib.supervise]
      split
      · exact FailureQueue.valid_init B.failureQueueCap_pos
      · exact h
  | handle | watch => rwa [Lib.handle_queue]
  | dequeue ans report _ _ hget =>
      rw [Lib.handle_queue]
      exact (FailureQueue.pending_of_getUnsafe h hget).1
  | put report | reject report | accept report => exact h.put report
  | _ => exact h

theorem after_valid {s : State B} (hs : s.lib.Sound) (h : s.lib.queue.Valid) (c : Call) :
    (after s c).lib.queue.Valid :=
  ((after_effects hs.limit_eq c).invariant (fun l ↦ l.queue.Valid)
    (fun _ _ _ h he ↦ he.valid h) hs h).2

theorem run_valid (clock : ℕ) (pace : List Obs → ℕ) (config : Option Config)
    (lock unlock : Bool) (calls : List Call) :
    (Run.run after (started clock pace config lock unlock : State B) calls).lib.Sound ∧
      (Run.run after (started clock pace config lock unlock : State B) calls).lib.queue.Valid :=
  run_invariant (fun l ↦ l.queue.Valid) (fun _ _ ↦ True) (fun _ _ _ _ h _ he ↦ he.valid h)
    (fun _ ↦ trivial) (fun _ ↦ trivial) (started_sound _ _ _ _ _)
    (FailureQueue.valid_init B.failureQueueCap_pos)
    (Run.along_of_forall (fun _ _ _ ↦ trivial) fun _ _ ↦ trivial)

end Fdir
