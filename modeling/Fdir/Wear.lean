import Fdir.Budgets
import Fdir.Escalation
import Fdir.Machine

/-!
# Registrations last, and wear adds up

Under any interleaving an id names the same entity or subsystem from its registration on, and
the restart counters of an entity never fall.  Without a command of ground nothing is relieved
either: the mode only rises and the flags of a subsystem only get worse.
-/

namespace Fdir

open Foundation

variable {B : Build}

/-! ## Registrations -/

/-- `slot'` is `slot` after some more restarts. -/
structure EntitySlot.Lasts (slot slot' : EntitySlot) : Prop where
  desc : slot'.desc = slot.desc
  name : slot'.name = slot.name
  used : slot'.used = slot.used
  counter_le : ∀ watchdog, slot.counter watchdog ≤ slot'.counter watchdog

/-- `slot'` is `slot` apart from its flags. -/
structure SubsystemSlot.Lasts (slot slot' : SubsystemSlot) : Prop where
  desc : slot'.desc = slot.desc
  name : slot'.name = slot.name
  used : slot'.used = slot.used

/-- What is registered in `l` is registered in `l'` under the same id. -/
structure Lib.Lasts (l l' : Lib B) : Prop where
  entityCount_le : l.entityCount ≤ l'.entityCount
  entity : ∀ id < l.entityCount, (l.entities id).Lasts (l'.entities id)
  subCount_le : l.subsystems.subCount ≤ l'.subsystems.subCount
  subsystem : ∀ id < l.subsystems.subCount,
    (l.subsystems.subs id).Lasts (l'.subsystems.subs id)

theorem EntitySlot.Lasts.refl (slot : EntitySlot) : slot.Lasts slot :=
  ⟨rfl, rfl, rfl, fun _ ↦ UInt8.le_refl _⟩

theorem EntitySlot.Lasts.trans {slot slot' slot'' : EntitySlot} (h : slot.Lasts slot')
    (h' : slot'.Lasts slot'') : slot.Lasts slot'' where
  desc := h'.desc.trans h.desc
  name := h'.name.trans h.name
  used := h'.used.trans h.used
  counter_le watchdog := UInt8.le_trans (h.counter_le watchdog) (h'.counter_le watchdog)

theorem SubsystemSlot.Lasts.refl (slot : SubsystemSlot) : slot.Lasts slot := ⟨rfl, rfl, rfl⟩

theorem SubsystemSlot.Lasts.trans {slot slot' slot'' : SubsystemSlot} (h : slot.Lasts slot')
    (h' : slot'.Lasts slot'') : slot.Lasts slot'' :=
  ⟨h'.desc.trans h.desc, h'.name.trans h.name, h'.used.trans h.used⟩

namespace Lib.Lasts

variable {l l' l'' : Lib B}

theorem refl (l : Lib B) : l.Lasts l where
  entityCount_le := UInt8.le_refl _
  entity _ _ := .refl _
  subCount_le := UInt8.le_refl _
  subsystem _ _ := .refl _

theorem trans (h : l.Lasts l') (h' : l'.Lasts l'') : l.Lasts l'' where
  entityCount_le := UInt8.le_trans h.entityCount_le h'.entityCount_le
  entity id hid := (h.entity id hid).trans
    (h'.entity id (UInt8.lt_of_lt_of_le hid h.entityCount_le))
  subCount_le := UInt8.le_trans h.subCount_le h'.subCount_le
  subsystem id hid := (h.subsystem id hid).trans
    (h'.subsystem id (UInt8.lt_of_lt_of_le hid h.subCount_le))

/-- A step that leaves the tables alone. -/
theorem of_eq (hcount : l'.entityCount = l.entityCount) (hentities : l'.entities = l.entities)
    (hsubs : l'.subsystems = l.subsystems) : l.Lasts l' := by
  have h := refl l
  constructor
  · rw [hcount]
    exact h.entityCount_le
  · rw [hentities]
    exact h.entity
  · rw [hsubs]
    exact h.subCount_le
  · rw [hsubs]
    exact h.subsystem

/-- A step that changes flags of one subsystem. -/
theorem of_updateSlot {f : SubsystemSlot → SubsystemSlot}
    (hf : ∀ slot : SubsystemSlot, slot.Lasts (f slot)) (id : SubsystemId) :
    l.Lasts { l with subsystems := l.subsystems.updateSlot id f } where
  entityCount_le := UInt8.le_refl _
  entity _ _ := .refl _
  subCount_le := by
    rw [SubsystemTable.updateSlot_subCount]
    exact UInt8.le_refl _
  subsystem other _ := by
    rw [SubsystemTable.updateSlot_subs]
    split
    · exact hf _
    · exact .refl _

/-- A registered name can be looked up ever after. -/
theorem entityName_eq (h : l.Lasts l') {id : EntityId} (hid : id < l.entityCount) :
    entityName l' id = entityName l id := by
  have hslot := h.entity id hid
  have hid' : id < l'.entityCount := UInt8.lt_of_lt_of_le hid h.entityCount_le
  simp only [entityName, UInt8.not_le.mpr hid, UInt8.not_le.mpr hid', hslot.used, hslot.desc]

end Lib.Lasts

theorem EntitySlot.lasts_bumpRestart (slot : EntitySlot) (reason : Reason) :
    slot.Lasts (bumpRestart slot reason) where
  desc := bumpRestart_desc slot reason
  name := by
    unfold bumpRestart
    split_ifs <;> rfl
  used := bumpRestart_used slot reason
  counter_le watchdog := by
    rw [counter_bumpRestart]
    split
    · next hcount =>
      have hlt := UInt8.lt_iff_toNat_lt.mp hcount.2
      have hmax : (255 : UInt8).toNat = 255 := rfl
      rw [UInt8.le_iff_toNat_le, UInt8.toNat_add, UInt8.toNat_one]
      omega
    · exact UInt8.le_refl _

theorem Record.lasts_settle (r : Record) (ans : Answers) (action : Action) (reason : Reason) :
    r.slot.Lasts (r.settle ans action reason).1.slot := by
  unfold Record.settle
  split_ifs
  · exact r.slot.lasts_bumpRestart reason
  · exact r.slot.lasts_bumpRestart reason
  · exact .refl _
  · exact .refl _

theorem Action.lasts_set (action : Action) (slot : SubsystemSlot) :
    slot.Lasts (action.set slot) := by
  cases action <;> exact ⟨rfl, rfl, rfl⟩

theorem Lib.lasts_strike (l : Lib B) (sub : SubsystemId) (action : Action) :
    l.Lasts (l.strike sub action) := by
  unfold Lib.strike
  split
  · exact .of_eq rfl rfl rfl
  · rw [Action.mark_eq]
    exact (Lib.Lasts.of_updateSlot action.lasts_set sub).trans (.of_eq rfl rfl rfl)

theorem Lib.lasts_handle (l : Lib B) (ans : Answers) (report : FailureReport) :
    l.Lasts (l.handle ans report) := by
  unfold Lib.handle
  split_ifs
  · exact .refl l
  · exact .of_eq rfl rfl rfl
  · have hsettled : l.Lasts (l.setRecord report.entity (l.verdict ans report).1) := by
      refine ⟨UInt8.le_refl _, fun id _ ↦ ?_, UInt8.le_refl _, fun _ _ ↦ .refl _⟩
      by_cases hid : id = report.entity
      · subst hid
        have hslot := ((l.record report.entity).fail B report).lasts_settle ans
          (l.action ans report) report.reason
        change (l.entities report.entity).Lasts (Function.update l.entities _ _ report.entity)
        rw [Function.update_self]
        exact hslot
      · change (l.entities id).Lasts (Function.update l.entities _ _ id)
        rw [Function.update_of_ne hid]
        exact .refl _
    exact (hsettled.trans (Lib.lasts_strike _ _ _)).trans (.of_eq rfl rfl rfl)

theorem Lib.lasts_enroll {l : Lib B} (hroom : l.entityCount.toNat < B.entityCap)
    (desc : EntityDesc) (now : UInt32) : l.Lasts (l.enroll desc now) where
  entityCount_le := by
    have hnext : l.entityCount < l.entityCount + 1 :=
      (Lib.lt_enroll_entityCount hroom _).mpr (Or.inl rfl)
    exact UInt8.le_of_lt hnext
  entity id hid := by
    have hne : id ≠ l.entityCount := UInt8.ne_of_lt hid
    change (l.entities id).Lasts (Function.update l.entities l.entityCount _ id)
    rw [Function.update_of_ne hne]
    exact .refl _
  subCount_le := UInt8.le_refl _
  subsystem _ _ := .refl _

theorem Lib.lasts_enrollSubsystem {l : Lib B} (hcap : B.subsystemCap ≤ 255)
    (hroom : l.subsystems.subCount.toNat < B.subsystemCap) (desc : SubsystemDesc) :
    l.Lasts (l.enrollSubsystem desc) where
  entityCount_le := UInt8.le_refl _
  entity _ _ := .refl _
  subCount_le := by
    change l.subsystems.subCount ≤ l.subsystems.subCount + 1
    rw [UInt8.le_iff_toNat_le, UInt8.toNat_add, UInt8.toNat_one]
    omega
  subsystem id hid := by
    have hne : id ≠ l.subsystems.subCount := UInt8.ne_of_lt hid
    change (l.subsystems.subs id).Lasts (Function.update l.subsystems.subs _ _ id)
    rw [Function.update_of_ne hne]
    exact .refl _

theorem SubsystemMark.eq_updateSlot {c : Call} {id : SubsystemId}
    {mark : SubsystemTable → SubsystemId → SubsystemTable} (h : SubsystemMark c id mark) :
    ∃ f : SubsystemSlot → SubsystemSlot, (∀ t, mark t id = t.updateSlot id f) ∧
      (∀ slot : SubsystemSlot, slot.Lasts (f slot)) := by
  cases h with
  | available => exact ⟨_, fun _ ↦ rfl, fun _ ↦ ⟨rfl, rfl, rfl⟩⟩
  | unavailable => exact ⟨_, fun _ ↦ rfl, fun _ ↦ ⟨rfl, rfl, rfl⟩⟩
  | degraded => exact ⟨_, fun _ ↦ rfl, fun _ ↦ ⟨rfl, rfl, rfl⟩⟩

theorem Effect.lasts (hcap : B.subsystemCap ≤ 255) {c : Call} {l l' : Lib B}
    (he : Effect c l l') : l.Lasts l' := by
  cases he with
  | enroll desc now _ hroom _ => exact Lib.lasts_enroll hroom desc now
  | enrollSubsystem desc hroom => exact Lib.lasts_enrollSubsystem hcap hroom desc
  | mark mark id hcall =>
      obtain ⟨f, hmark, hf⟩ := hcall.eq_updateSlot
      rw [hmark]
      exact .of_updateSlot hf id
  | handle ans report => exact Lib.lasts_handle l ans report
  | watch ans id now => exact Lib.lasts_handle l ans _
  | dequeue ans report =>
      have hdequeued : l.Lasts { l with queue := l.queue.getUnsafe.2 } := .of_eq rfl rfl rfl
      exact hdequeued.trans (Lib.lasts_handle _ ans report)
  | _ => exact .of_eq rfl rfl rfl

theorem Does.lasts {pc : Pc} {l l' : Lib B} (hdoes : Does l pc l') : l.Lasts l' := by
  cases hdoes with
  | handle ans report => exact Lib.lasts_handle l ans report
  | same | put | get | beat => exact .of_eq rfl rfl rfl

theorem Machine.lasts_step (hcap : B.subsystemCap ≤ 255) {m : Machine B}
    (hs : m.state.lib.Sound) (turn : Turn) : m.state.lib.Lasts (m.step turn).state.lib := by
  rcases Machine.does hs.limit_eq turn with ⟨c, heffect⟩ | ⟨thread, -, hdoes⟩
  · exact heffect.lasts hcap
  · exact hdoes.lasts

/-! ## Wear -/

/-- The flags of `slot'` are no better than those of `slot`. -/
structure SubsystemSlot.Worn (slot slot' : SubsystemSlot) : Prop where
  available : slot'.available = true → slot.available = true
  degraded : slot.degraded = true → slot'.degraded = true

/-- Neither the mode nor a subsystem is any better in `l'` than in `l`. -/
structure Lib.Worn (l l' : Lib B) : Prop where
  mode_le : l.mode ≤ l'.mode
  subsystem : ∀ id < l.subsystems.subCount,
    (l.subsystems.subs id).Worn (l'.subsystems.subs id)

/-- The calls that may lower the mode or clear a flag. -/
def Call.relieves (c : Call) : Prop := c.commands ∨ ∃ id, c = .subsystemMarkAvailable id

def Turn.relieves : Turn → Prop
  | .call _ c => c.relieves
  | .advance _ | .elapse _ => False

theorem SubsystemSlot.Worn.refl (slot : SubsystemSlot) : slot.Worn slot := ⟨id, id⟩

namespace Lib.Worn

variable {l l' l'' : Lib B}

theorem of_eq (hmode : l.mode ≤ l'.mode)
    (hsubs : ∀ id < l.subsystems.subCount, l'.subsystems.subs id = l.subsystems.subs id) :
    l.Worn l' := by
  refine ⟨hmode, fun id hid ↦ ?_⟩
  rw [hsubs id hid]
  exact .refl _

theorem refl (l : Lib B) : l.Worn l := of_eq (le_refl _) fun _ _ ↦ rfl

theorem trans (hlasts : l.Lasts l') (h : l.Worn l') (h' : l'.Worn l'') : l.Worn l'' where
  mode_le := h.mode_le.trans h'.mode_le
  subsystem id hid := by
    have hflags := h.subsystem id hid
    have hflags' := h'.subsystem id (UInt8.lt_of_lt_of_le hid hlasts.subCount_le)
    exact ⟨fun ha ↦ hflags.available (hflags'.available ha),
      fun hd ↦ hflags'.degraded (hflags.degraded hd)⟩

theorem of_updateSlot {f : SubsystemSlot → SubsystemSlot}
    (hf : ∀ slot : SubsystemSlot, slot.Worn (f slot)) (id : SubsystemId)
    (hmode : l.mode ≤ l'.mode) (hsubs : l'.subsystems = l.subsystems.updateSlot id f) :
    l.Worn l' := by
  refine ⟨hmode, fun other _ ↦ ?_⟩
  rw [hsubs, SubsystemTable.updateSlot_subs]
  split
  · exact hf _
  · exact .refl _

/-- What is worn does not count for less. -/
theorem criticalUnavailableCount_le (hlasts : l.Lasts l') (h : l.Worn l') :
    l.subsystems.criticalUnavailableCount ≤ l'.subsystems.criticalUnavailableCount := by
  refine SubsystemTable.criticalUnavailableCount_le fun i hi hcritical ↦ ?_
  have hle := UInt8.le_iff_toNat_le.mp hlasts.subCount_le
  have hbound := l.subsystems.subCount.toNat_lt
  have hid : UInt8.ofNat i < l.subsystems.subCount := by
    rw [UInt8.lt_iff_toNat_lt, UInt8.toNat_ofNat', Nat.mod_eq_of_lt (by omega)]
    exact hi
  have hslot := hlasts.subsystem _ hid
  have hworn := h.subsystem _ hid
  refine ⟨by omega, ?_⟩
  simp only [SubsystemTable.criticalUnavailable, hslot.used, hslot.desc, Bool.and_eq_true,
    Bool.not_eq_true'] at hcritical ⊢
  refine ⟨hcritical.1, Bool.eq_false_iff.mpr fun ha ↦ ?_⟩
  rw [hworn.available ha] at hcritical
  exact Bool.noConfusion hcritical.2

end Lib.Worn

theorem Action.worn_set (action : Action) (slot : SubsystemSlot) :
    slot.Worn (action.set slot) := by
  cases action with
  | degrade => exact ⟨id, fun _ ↦ rfl⟩
  | unavailable | safe | reboot => exact ⟨fun h ↦ Bool.noConfusion h, fun _ ↦ rfl⟩
  | none | restart | other code => exact .refl _

theorem Lib.worn_handle (l : Lib B) (ans : Answers) (report : FailureReport) :
    l.Worn (l.handle ans report) := by
  have hmode := Lib.mode_le_handle l ans report
  revert hmode
  unfold Lib.handle
  split_ifs
  · exact fun hmode ↦ .of_eq hmode fun _ _ ↦ rfl
  · exact fun hmode ↦ .of_eq hmode fun _ _ ↦ rfl
  · intro hmode
    by_cases hsub : (l.entities report.entity).desc.linkedSubsystem = subsystemNone
    · refine .of_eq hmode fun id _ ↦ ?_
      simp only [Lib.recover, Lib.review, Lib.strike, if_pos hsub, Lib.setRecord]
    · refine .of_updateSlot (l.verdict ans report).2.worn_set
        (l.entities report.entity).desc.linkedSubsystem hmode ?_
      simp only [Lib.recover, Lib.review, Lib.strike, if_neg hsub, Action.mark_eq, Lib.setRecord]

theorem Effect.worn {c : Call} {l l' : Lib B} (hc : ¬ c.relieves) (he : Effect c l l') :
    l.Worn l' := by
  have hmode : l.mode ≤ l'.mode := he.mode_le fun h ↦ hc (Or.inl h)
  cases he with
  | enrollSubsystem desc hroom =>
      refine .of_eq hmode fun id hid ↦ ?_
      exact Function.update_of_ne (UInt8.ne_of_lt hid) _ _
  | mark mark id hcall =>
      cases hcall with
      | available => exact absurd (Or.inr ⟨id, rfl⟩) hc
      | unavailable => exact .of_updateSlot Action.unavailable.worn_set id hmode rfl
      | degraded => exact .of_updateSlot Action.degrade.worn_set id hmode rfl
  | handle ans report => exact Lib.worn_handle l ans report
  | watch ans id now => exact Lib.worn_handle l ans _
  | dequeue ans report =>
      have hworn := Lib.worn_handle { l with queue := l.queue.getUnsafe.2 } ans report
      exact ⟨hmode, hworn.subsystem⟩
  | _ => exact .of_eq hmode fun _ _ ↦ rfl

theorem Does.worn {pc : Pc} {l l' : Lib B} (hdoes : Does l pc l') : l.Worn l' := by
  cases hdoes with
  | handle ans report => exact Lib.worn_handle l ans report
  | same | put | get | beat => exact .of_eq (le_refl _) fun _ _ ↦ rfl

theorem Machine.worn_step {m : Machine B} (hs : m.state.lib.Sound) {turn : Turn}
    (hturn : ¬ turn.relieves) : m.state.lib.Worn (m.step turn).state.lib := by
  rcases Machine.acts hs.limit_eq turn with
    ⟨thread, c, rfl, -, heffect⟩ | ⟨thread, -, hdoes⟩ | hsame
  · exact heffect.worn hturn
  · exact hdoes.worn
  · rw [hsame]
    exact .refl _

/-- From a successful `fdir_init` on, for every interleaving: between any two moments the
registrations of the first last to the second, and unless ground relieves the system in
between, neither the mode nor any subsystem gets better. -/
theorem wear_adds_up (clock : ℕ) (pace : List Obs → ℕ) (config : Option Config)
    (lock unlock : Bool) (hcap : B.subsystemCap ≤ 255) (turns more : List Turn) :
    let m : Machine B := Run.run Machine.step (.started clock pace config lock unlock) turns
    let l := m.state.lib
    let l' := (Run.run Machine.step m more).state.lib
    l.Lasts l' ∧ (∀ id < l.entityCount, entityName l' id = entityName l id) ∧
      ((∀ turn ∈ more, ¬ turn.relieves) → l.Worn l' ∧
        l.subsystems.criticalUnavailableCount ≤ l'.subsystems.criticalUnavailableCount) := by
  intro m l l'
  have hs : l.Sound := Run.invariant (fun m : Machine B ↦ m.state.lib.Sound)
    (fun m turn h ↦ (m.stride turn).sound h) (started_sound clock pace config lock unlock) turns
  have hlasts : l.Lasts l' := by
    have hkept := Run.invariant (fun m : Machine B ↦ m.state.lib.Sound ∧ l.Lasts m.state.lib)
      (fun m turn h ↦ ⟨(m.stride turn).sound h.1, h.2.trans (m.lasts_step hcap h.1 turn)⟩)
      ⟨hs, .refl l⟩ more
    exact hkept.2
  refine ⟨hlasts, fun id hid ↦ hlasts.entityName_eq hid, fun hmore ↦ ?_⟩
  have hworn : l.Worn l' := by
    have halong : Run.Along Machine.step (fun _ turn ↦ ¬ turn.relieves) m more :=
      Run.along_of_forall (fun _ _ h ↦ h) hmore
    have hkept := halong.invariant
      (fun m : Machine B ↦ m.state.lib.Sound ∧ l.Lasts m.state.lib ∧ l.Worn m.state.lib)
      (fun m turn h hturn ↦ ⟨(m.stride turn).sound h.1,
        h.2.1.trans (m.lasts_step hcap h.1 turn), h.2.2.trans h.2.1 (m.worn_step h.1 hturn)⟩)
      ⟨hs, .refl l, .refl l⟩
    exact hkept.2.2
  exact ⟨hworn, hworn.criticalUnavailableCount_le hlasts⟩

/-- A fault exhausts an entity, and its critical subsystem goes down with it. -/
theorem wear_adds_up_exhausted :
    let critical : SubsystemDesc := { SubsystemDesc.zero with isCriticalPath := true }
    let desc : EntityDesc := { EntityDesc.zero with
      onExhausted := .unavailable
      linkedSubsystem := 0 }
    let turns : List Turn := [.call 0 (.subsystemRegister (some critical) true),
      .call 0 (.entityRegister (some desc) true)]
    let more : List Turn := [.call 0 (.reportFault 0 .timeout 7 none), .call 1 .supervisorTick,
      .advance 1, .advance 1, .advance 1, .advance 1]
    let m : Machine .default :=
      Run.run Machine.step (.started 0 (fun _ ↦ 1) none true true) turns
    let l := m.state.lib
    let l' := (Run.run Machine.step m more).state.lib
    l.Worn l' ∧
      l.subsystems.criticalUnavailableCount ≤ l'.subsystems.criticalUnavailableCount := by
  intro critical desc turns more
  refine (wear_adds_up 0 (fun _ ↦ 1) none true true (by decide) turns more).2.2 ?_
  intro turn hturn
  simp only [more, List.mem_cons, List.not_mem_nil, or_false] at hturn
  rcases hturn with rfl | rfl | rfl | rfl | rfl | rfl <;>
    simp [Turn.relieves, Call.relieves, Call.commands]

end Fdir
