import Fdir.Effects

/-!
# One queue slot per entity

As long as reports enter the queue only as fault reports of registered entities
and leave it only through the supervisor, the queue holds at most one report per
entity: accepting a report makes its entity FAILED, and the entity leaves that
health only after its report was taken off the queue.  A queue with a cell per
registered entity therefore never rejects a report.
-/

namespace Fdir

open Foundation

variable {B : Build}

/-- The calls of such a run: reports name registered entities, and nothing else
enters reports, handles them out of order or writes the health of an entity. -/
def Call.slotted (l : Lib B) : Call → Prop
  | .reportFault entity _ _ _ => entity < l.entityCount
  | .reportFaultEx entity _ _ _ _ => entity < l.entityCount
  | .submitFailure _ | .handleFailure _ | .healthSet _ _ _ _ | .healthReset _ => False
  | _ => True

/-- The pending reports belong to different registered entities, all FAILED. -/
structure Lib.Slotted (l : Lib B) : Prop where
  valid : l.queue.Valid
  nodup : (l.queue.pending.map FailureReport.entity).Nodup
  known : ∀ report ∈ l.queue.pending, report.entity < l.entityCount
  failed : ∀ report ∈ l.queue.pending, l.failed report.entity

theorem length_le_of_nodup {ids : List EntityId} (hnodup : ids.Nodup) (bound : EntityId)
    (hlt : ∀ id ∈ ids, id < bound) : ids.length ≤ bound.toNat := by
  have hinjective : Function.Injective UInt8.toNat := fun _ _ ↦ UInt8.toNat_inj.mp
  have hsubset : ids.map UInt8.toNat ⊆ List.range bound.toNat := by
    intro n hn
    obtain ⟨id, hid, rfl⟩ := List.mem_map.mp hn
    exact List.mem_range.mpr (UInt8.lt_iff_toNat_lt.mp (hlt id hid))
  simpa using ((hnodup.map hinjective).subperm hsubset).length_le

namespace Lib.Slotted

variable {l : Lib B}

theorem lt_count (h : l.Slotted) :
    ∀ id ∈ l.queue.pending.map FailureReport.entity, id < l.entityCount := by
  intro id hid
  obtain ⟨report, hreport, rfl⟩ := List.mem_map.mp hid
  exact h.known report hreport

theorem length_le (h : l.Slotted) : l.queue.pending.length ≤ l.entityCount.toNat := by
  simpa using length_le_of_nodup h.nodup l.entityCount h.lt_count

theorem not_mem_of_not_failed (h : l.Slotted) {id : EntityId} (hid : ¬ l.failed id) :
    id ∉ l.queue.pending.map FailureReport.entity := by
  intro hmem
  obtain ⟨report, hreport, rfl⟩ := List.mem_map.mp hmem
  exact hid (h.failed report hreport)

theorem congr (h : l.Slotted) {l' : Lib B} (hqueue : l'.queue = l.queue)
    (hcount : l.entityCount ≤ l'.entityCount)
    (hfailed : ∀ report ∈ l.queue.pending, l.failed report.entity → l'.failed report.entity) :
    l'.Slotted where
  valid := by rw [hqueue]; exact h.valid
  nodup := by rw [hqueue]; exact h.nodup
  known := by
    rw [hqueue]
    intro report hreport
    have hknown := h.known report hreport
    rw [UInt8.lt_iff_toNat_lt] at hknown ⊢
    rw [UInt8.le_iff_toNat_le] at hcount
    omega
  failed := by
    rw [hqueue]
    exact fun report hreport ↦ hfailed report hreport (h.failed report hreport)

theorem dequeue (h : l.Slotted) {report : FailureReport}
    (hget : l.queue.getUnsafe.1 = some report) (ans : Answers) :
    (Lib.handle { l with queue := l.queue.getUnsafe.2 } ans report).Slotted := by
  obtain ⟨hvalid, hpending⟩ := FailureQueue.pending_of_getUnsafe h.valid hget
  have hnodup := h.nodup
  rw [hpending, List.map_cons, List.nodup_cons] at hnodup
  have hmem : ∀ other ∈ l.queue.getUnsafe.2.pending, other ∈ l.queue.pending := by
    intro other hother
    rw [hpending]
    exact List.mem_cons_of_mem _ hother
  constructor
  · rw [Lib.handle_queue]
    exact hvalid
  · rw [Lib.handle_queue]
    exact hnodup.2
  · rw [Lib.handle_queue, Lib.handle_entityCount]
    exact fun other hother ↦ h.known other (hmem other hother)
  · rw [Lib.handle_queue]
    intro other hother
    have hne : other.entity ≠ report.entity := by
      intro heq
      exact hnodup.1 (heq ▸ List.mem_map_of_mem hother)
    rw [Lib.failed_handle_of_ne _ _ _ hne]
    exact h.failed other (hmem other hother)

theorem accept (h : l.Slotted) (hsound : l.Sound) {report : FailureReport} {detail : CStr}
    (hid : report.entity < l.entityCount)
    (hfailed : l.health.snapshotFailed report.entity = false)
    (hput : (l.queue.putUnsafe report).1 = 0) : (l.accept report detail).Slotted := by
  have hnew : ¬ l.failed report.entity := by
    rw [← hsound.snapshotFailed_iff hid, hfailed]
    exact Bool.false_ne_true
  have hcap := B.entityCap_le
  have hlength := h.length_le
  have hcount := hsound.count_le
  have hroom := (FailureQueue.putUnsafe_fst_eq_zero_iff _ _).mp hput
  obtain ⟨hvalid, hpending⟩ :=
    FailureQueue.putUnsafe_of_room h.valid hroom (by omega) report
  have hlimit : report.entity < l.health.entityLimit := by rwa [hsound.limit_eq]
  constructor
  · exact hvalid
  · change ((l.queue.putUnsafe report).2.pending.map FailureReport.entity).Nodup
    rw [hpending, List.map_append, List.nodup_append]
    refine ⟨h.nodup, List.nodup_singleton _, ?_⟩
    intro id hold id' hid' heq
    rw [List.map_singleton, List.mem_singleton] at hid'
    exact h.not_mem_of_not_failed hnew (hid' ▸ heq ▸ hold)
  · change ∀ other ∈ (l.queue.putUnsafe report).2.pending, other.entity < l.entityCount
    rw [hpending]
    intro other hother
    rcases List.mem_append.mp hother with hold | hlast
    · exact h.known other hold
    · rwa [List.mem_singleton.mp hlast]
  · change ∀ other ∈ (l.queue.putUnsafe report).2.pending, _
    rw [hpending]
    intro other hother
    by_cases hself : other.entity = report.entity
    · exact hself ▸ failed_accept_self hlimit
    · rcases List.mem_append.mp hother with hold | hlast
      · exact (failed_accept_of_ne hself).mpr (h.failed other hold)
      · exact absurd (congrArg FailureReport.entity (List.mem_singleton.mp hlast)) hself

end Lib.Slotted

theorem Call.slotted_reported {l : Lib B} {c : Call} (hc : c.slotted l) {id : EntityId}
    {reason : Reason} (hid : c.reported? = some (id, reason)) : id < l.entityCount := by
  cases c <;> simp only [Call.reported?, reduceCtorEq, Option.some.injEq, Prod.mk.injEq] at hid
  all_goals
    obtain ⟨rfl, -⟩ := hid
    exact hc

theorem Effect.slotted {c : Call} {l l' : Lib B} (hsound : l.Sound) (h : l.Slotted)
    (hc : c.slotted l) (he : Effect c l l') : l'.Slotted := by
  cases he with
  | same => exact h
  | enroll desc now _ hroom =>
      have hcap := B.entityCap_le
      have hnext : l.entityCount ≤ l.entityCount + 1 := by
        rw [UInt8.le_iff_toNat_le, UInt8.toNat_add, UInt8.toNat_one]
        omega
      refine h.congr rfl hnext fun report hreport hfailed ↦ ?_
      have hne : report.entity ≠ l.entityCount := by
        intro heq
        exact UInt8.lt_irrefl _ (heq ▸ h.known report hreport)
      exact (failed_enroll hne desc now).mpr hfailed
  | supervise enabled =>
      by_cases hzero : enabled = 0
      · subst hzero
        have hinit : (l.supervise 0).queue = .init := rfl
        constructor
        · exact hinit ▸ FailureQueue.valid_init B.failureQueueCap_pos
        all_goals simp [hinit]
      · exact h.congr (by simp [Lib.supervise, hzero]) (UInt8.le_refl _) fun _ _ hf ↦ hf
  | enrollSubsystem | command | raise | review | mark =>
      exact h.congr rfl (UInt8.le_refl _) fun _ _ hf ↦ hf
  | handle ans report hcall =>
      subst hcall
      exact hc.elim
  | watch ans id now maxAge _ henabled hdue =>
      refine h.congr (Lib.handle_queue _ _ _) ?_ ?_
      · rw [Lib.handle_entityCount]
        exact UInt8.le_refl _
      · intro report hreport hfailed
        have hne : report.entity ≠ id := by
          rintro rfl
          have hknown := h.known report hreport
          rw [← hsound.snapshotFailed_iff hknown] at hfailed
          simp [watchdogDue, hfailed] at hdue
        exact (Lib.failed_handle_of_ne _ _ _ hne).mpr hfailed
  | put report hcall =>
      subst hcall
      exact hc.elim
  | dequeue ans report _ _ hget => exact h.dequeue hget ans
  | reject report hput =>
      have hfull := Nat.le_of_not_lt fun hroom ↦
        hput ((FailureQueue.putUnsafe_fst_eq_zero_iff _ _).mpr hroom)
      rw [FailureQueue.putUnsafe_of_full hfull]
      exact ⟨⟨h.valid.depth_pos, h.valid.head_lt, h.valid.count_le, h.valid.tail_eq⟩, h.nodup,
        h.known, h.failed⟩
  | accept report detail hcall _ _ hfailed hput =>
      exact h.accept hsound (Call.slotted_reported hc hcall) hfailed hput
  | heartbeat id now =>
      exact h.congr rfl (UInt8.le_refl _) fun _ _ hf ↦ (failed_heartbeat l id _ now).mpr hf
  | healthSet id health errorCode detail hcall =>
      subst hcall
      exact hc.elim
  | healthReset id now hcall =>
      subst hcall
      exact hc.elim

theorem started_slotted (clock : ℕ) (pace : List Obs → ℕ) (config : Option Config)
    (lock unlock : Bool) :
    (started clock pace config lock unlock : State B).lib.Slotted := by
  have hpending : (started clock pace config lock unlock : State B).lib.queue.pending = [] := rfl
  constructor
  · exact FailureQueue.valid_init B.failureQueueCap_pos
  all_goals simp [hpending]

theorem run_slotted {clock : ℕ} {pace : List Obs → ℕ} {config : Option Config}
    {lock unlock : Bool} {calls : List Call}
    (hcalls : Run.Along after (fun s c ↦ c.slotted s.lib)
      (started clock pace config lock unlock : State B) calls) :
    (Run.run after (started clock pace config lock unlock : State B) calls).lib.Sound ∧
      (Run.run after (started clock pace config lock unlock : State B) calls).lib.Slotted :=
  run_invariant Lib.Slotted (fun l c ↦ c.slotted l)
    (fun _ _ _ hsound h hc he ↦ he.slotted hsound h hc) (fun _ ↦ trivial) (fun _ ↦ trivial)
    (started_sound _ _ _ _ _) (started_slotted _ _ _ _ _) hcalls

theorem reportFaultEx_rejected {s : State B} {entity : EntityId} {reason : Reason}
    {errorCode : UInt16} {detail : Option CStr} {flags : UInt8}
    (h : (reportFaultEx s entity reason errorCode detail flags).1 ≠ .ok) :
    s.lib.health.snapshotFailed entity = false ∧
      B.failureQueueCap ≤ s.lib.queue.pending.length := by
  have hreported := reportFaultImpl_reported s entity reason errorCode detail flags
  change (reportFaultImpl s entity reason errorCode detail flags).1 ≠ .ok at h
  generalize (reportFaultImpl s entity reason errorCode detail flags).1 = status at h hreported
  generalize (reportFaultImpl s entity reason errorCode detail flags).2.lib = l at hreported
  cases hreported with
  | suppressed => exact absurd rfl h
  | rejected report hfailed hput =>
      refine ⟨hfailed, Nat.le_of_not_lt fun hroom ↦ ?_⟩
      exact hput ((FailureQueue.putUnsafe_fst_eq_zero_iff _ _).mpr hroom)
  | accepted => exact absurd rfl h

/-- With one queue cell per registered entity no report is rejected. -/
theorem Lib.Slotted.reportFaultEx_ok {s : State B} (hsound : s.lib.Sound)
    (h : s.lib.Slotted) (hcap : s.lib.entityCount.toNat ≤ B.failureQueueCap)
    {entity : EntityId} (hid : entity < s.lib.entityCount) (reason : Reason)
    (errorCode : UInt16) (detail : Option CStr) (flags : UInt8) :
    (reportFaultEx s entity reason errorCode detail flags).1 = .ok := by
  by_contra hstatus
  obtain ⟨hfailed, hfull⟩ := reportFaultEx_rejected hstatus
  have hnew : ¬ s.lib.failed entity := by
    rw [← hsound.snapshotFailed_iff hid, hfailed]
    exact Bool.false_ne_true
  have hnodup : (entity :: s.lib.queue.pending.map FailureReport.entity).Nodup :=
    List.nodup_cons.mpr ⟨h.not_mem_of_not_failed hnew, h.nodup⟩
  have hlength := length_le_of_nodup hnodup s.lib.entityCount <|
    List.forall_mem_cons.mpr ⟨hid, h.lt_count⟩
  rw [List.length_cons, List.length_map] at hlength
  omega

/-- In every run of complete calls in which reports enter only as fault reports of
registered entities and only the supervisor handles them, each entity has at
most one pending report and is FAILED while it has one; as long as the queue has
a cell per registered entity, no such report is rejected. -/
theorem one_slot_per_entity (clock : ℕ) (pace : List Obs → ℕ) (config : Option Config)
    (lock unlock : Bool) (calls : List Call)
    (hcalls : Run.Along after (fun s c ↦ c.slotted s.lib)
      (started clock pace config lock unlock : State B) calls) :
    let s := Run.run after (started clock pace config lock unlock : State B) calls
    (s.lib.queue.pending.map FailureReport.entity).Nodup ∧
      (∀ report ∈ s.lib.queue.pending, s.lib.failed report.entity) ∧
      (s.lib.entityCount.toNat ≤ B.failureQueueCap →
        ∀ entity reason errorCode detail flags, entity < s.lib.entityCount →
          (reportFaultEx s entity reason errorCode detail flags).1 ≠ .errBusy ∧
          (reportFaultEx s entity reason errorCode detail flags).1 ≠ .errState) := by
  intro s
  obtain ⟨hsound, hslotted⟩ := run_slotted hcalls
  refine ⟨hslotted.nodup, hslotted.failed, ?_⟩
  intro hcap entity reason errorCode detail flags hid
  rw [hslotted.reportFaultEx_ok hsound hcap hid]
  exact ⟨by decide, by decide⟩

/-- The rule on a run in which a registered entity reports twice before the tick. -/
theorem one_slot_per_entity_reported :
    let calls : List Call := [.entityRegister (some .zero) true, .reportFault 0 .timeout 7 none,
      .reportFault 0 .ioError 8 none]
    let s := Run.run after (started 0 (fun _ ↦ 1) none true true : State .default) calls
    (s.lib.queue.pending.map FailureReport.entity).Nodup ∧
      (∀ report ∈ s.lib.queue.pending, s.lib.failed report.entity) ∧
      (s.lib.entityCount.toNat ≤ Build.default.failureQueueCap →
        ∀ entity reason errorCode detail flags, entity < s.lib.entityCount →
          (reportFaultEx s entity reason errorCode detail flags).1 ≠ .errBusy ∧
          (reportFaultEx s entity reason errorCode detail flags).1 ≠ .errState) :=
  one_slot_per_entity 0 (fun _ ↦ 1) none true true _
    ⟨trivial, (by decide : (0 : UInt8) < 1), (by decide : (0 : UInt8) < 1), trivial⟩

end Fdir
