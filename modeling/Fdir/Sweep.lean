import Fdir.Aftermath

/-!
# The watchdog loop

The loop rereads the state after every recovery.  A recovery changes the record of
its own entity only, so that the loop handles exactly the entities that are due
when it starts, in the order of their ids.
-/

namespace Fdir

variable {B : Build}

/-! ## Entities that are due -/

theorem watchdogDue_congr {l l' : Lib B} {id : EntityId}
    (hlimit : l'.health.entityLimit = l.health.entityLimit) (hrecord : l'.record id = l.record id)
    (now maxAge : UInt32) : watchdogDue l' now maxAge id = watchdogDue l now maxAge id := by
  have hslot : l'.entities id = l.entities id := congrArg Record.slot hrecord
  have hsnapshot : l'.health.health id = l.health.health id := congrArg Record.snapshot hrecord
  have hreason : l'.health.latchedReason id = l.health.latchedReason id :=
    congrArg Record.latchedReason hrecord
  have hlatched : l'.health.faultLatched id = l.health.faultLatched id :=
    congrArg Record.faultLatched hrecord
  simp only [watchdogDue, HealthTable.faultIsLatchedUnsafe, HealthTable.snapshotFailed,
    HealthTable.isStale, HealthTable.snapshot, hlimit, hslot, hsnapshot, hreason, hlatched]

/-- The entities due from index `i` on. -/
def Lib.dueFrom (l : Lib B) (now maxAge : UInt32) (i : ℕ) : List EntityId :=
  ((List.range' i (l.entityCount.toNat - i)).map UInt8.ofNat).filter (watchdogDue l now maxAge)

section DueFrom

variable {l : Lib B} {now maxAge : UInt32} {i : ℕ}

theorem Lib.dueFrom_of_ge (h : l.entityCount.toNat ≤ i) : l.dueFrom now maxAge i = [] := by
  rw [Lib.dueFrom, Nat.sub_eq_zero_of_le h]
  rfl

theorem Lib.dueFrom_of_lt (h : i < l.entityCount.toNat) :
    l.dueFrom now maxAge i =
      if watchdogDue l now maxAge (UInt8.ofNat i) then
        UInt8.ofNat i :: l.dueFrom now maxAge (i + 1)
      else l.dueFrom now maxAge (i + 1) := by
  obtain ⟨n, hn⟩ := Nat.exists_eq_add_of_lt h
  have hlength : l.entityCount.toNat - i = n + 1 := by omega
  have hlength' : l.entityCount.toNat - (i + 1) = n := by omega
  rw [Lib.dueFrom, Lib.dueFrom, hlength, hlength', List.range'_succ, List.map_cons,
    List.filter_cons]

theorem Lib.mem_dueFrom {id : EntityId} :
    id ∈ l.dueFrom now maxAge i ↔
      i ≤ id.toNat ∧ id < l.entityCount ∧ watchdogDue l now maxAge id = true := by
  rw [Lib.dueFrom, List.mem_filter, List.mem_map, ← and_assoc]
  refine and_congr_left fun _ ↦ ?_
  have hcount := l.entityCount.toNat_lt
  rw [UInt8.lt_iff_toNat_lt]
  constructor
  · rintro ⟨j, hj, rfl⟩
    rw [List.mem_range'_1] at hj
    rw [UInt8.toNat_ofNat']
    omega
  · rintro ⟨hlow, hhigh⟩
    refine ⟨id.toNat, ?_, UInt8.ofNat_toNat⟩
    rw [List.mem_range'_1]
    omega

theorem Lib.pairwise_dueFrom : (l.dueFrom now maxAge i).Pairwise (· < ·) := by
  refine List.Pairwise.filter _ ?_
  rw [List.pairwise_map]
  have hcount := l.entityCount.toNat_lt
  refine List.Pairwise.imp_of_mem (fun hj hk hlt ↦ ?_) List.pairwise_lt_range'
  rw [List.mem_range'_1] at hj hk
  rw [UInt8.lt_iff_toNat_lt, UInt8.toNat_ofNat', UInt8.toNat_ofNat']
  omega

theorem Lib.dueFrom_congr {l' : Lib B} (hcount : l'.entityCount = l.entityCount)
    (hlimit : l'.health.entityLimit = l.health.entityLimit)
    (hrecord : ∀ id, i ≤ id.toNat → l'.record id = l.record id) :
    l'.dueFrom now maxAge i = l.dueFrom now maxAge i := by
  rw [Lib.dueFrom, Lib.dueFrom, hcount]
  refine List.filter_congr fun id hid ↦ watchdogDue_congr hlimit (hrecord id ?_) now maxAge
  obtain ⟨j, hj, rfl⟩ := List.mem_map.mp hid
  have hlt := l.entityCount.toNat_lt
  rw [List.mem_range'_1] at hj
  rw [UInt8.toNat_ofNat']
  omega

end DueFrom

/-! ## Restarts under a watchdog report -/

/-- Between `s` and `s'` entity `id` was restarted under a WATCHDOG report. -/
def State.WatchdogRestarted (s s' : State B) (id : EntityId) : Prop :=
  ∃ new, s'.restarts = s.restarts ++ new ∧ (id, .watchdog, 0) ∈ new

theorem State.WatchdogRestarted.extend {P : Obs → Prop} {s s' s'' : State B} {id : EntityId}
    (h : s.WatchdogRestarted s' id) (h' : Evolves P s' s'') : s.WatchdogRestarted s'' id := by
  obtain ⟨new, hnew, hmem⟩ := h
  obtain ⟨more, hmore⟩ := h'.restarts_append
  exact ⟨new ++ more, by rw [hmore, hnew, List.append_assoc], List.mem_append_left _ hmem⟩

theorem State.WatchdogRestarted.precede {P : Obs → Prop} {s s' s'' : State B} {id : EntityId}
    (h : Evolves P s s') (h' : s'.WatchdogRestarted s'' id) : s.WatchdogRestarted s'' id := by
  obtain ⟨old, hold⟩ := h.restarts_append
  obtain ⟨new, hnew, hmem⟩ := h'
  exact ⟨old ++ new, by rw [hnew, hold, List.append_assoc], List.mem_append_right _ hmem⟩

/-! ## What the recoveries leave behind -/

/-- The anomalies raised so far. -/
def State.raised (s : State B) : List (EntityId × Reason × Phase) :=
  s.anomalies.filter fun anomaly ↦ anomaly.2.2 = .raised

/-- Entity `id` is FAILED with WATCHDOG latched, or was restarted. -/
def State.Ended (s s' : State B) (now : UInt32) (id : EntityId) : Prop :=
  s'.lib.Condemned (watchdogReport B id now) ∨
    s.WatchdogRestarted s' id ∧ s'.lib.health.faultLatched id = false ∧
      (s'.lib.health.health id).health = .ok

/-- The recoveries of different entities. -/
structure Swept (now : UInt32) (ids : List EntityId) (s s' : State B) : Prop where
  evolves : Evolves (fun _ ↦ True) s s'
  raised : s'.raised = s.raised ++ ids.map fun id ↦ (id, .watchdog, .raised)
  ended : ∀ id ∈ ids, s.Ended s' now id
  other : ∀ id ∉ ids, s'.lib.record id = s.lib.record id

theorem State.Ended.served {s s' : State B} {now : UInt32} {id : EntityId}
    (h : s.Ended s' now id) : s'.lib.failed id ∨ s.WatchdogRestarted s' id :=
  h.imp (fun hcondemned ↦ hcondemned.health) fun hrestarted ↦ hrestarted.1

theorem State.raised_of_silent {s s' : State B} (h : Evolves Obs.silent s s') :
    s'.raised = s.raised := by
  rw [State.raised, h.anomalies_eq, State.raised]

theorem State.Ended.keep {s s' s'' : State B} {now : UInt32} {id : EntityId}
    (h : s.Ended s' now id) (hevolves : Evolves (fun _ ↦ True) s' s'')
    (hrecord : s''.lib.record id = s'.lib.record id) : s.Ended s'' now id := by
  have hsnapshot : s''.lib.health.health id = s'.lib.health.health id :=
    congrArg Record.snapshot hrecord
  have hlatched : s''.lib.health.faultLatched id = s'.lib.health.faultLatched id :=
    congrArg Record.faultLatched hrecord
  have hreason : s''.lib.health.latchedReason id = s'.lib.health.latchedReason id :=
    congrArg Record.latchedReason hrecord
  rcases h with hcondemned | ⟨hrestarted, hunlatched, hhealth⟩
  · left
    constructor
    · exact hlatched.trans hcondemned.latched
    · exact hreason.trans hcondemned.reason
    · exact (congrArg HealthSnapshot.health hsnapshot).trans hcondemned.health
    · exact (congrArg HealthSnapshot.errorCode hsnapshot).trans hcondemned.errorCode
    · exact (congrArg HealthSnapshot.detail hsnapshot).trans hcondemned.detail
  · right
    refine ⟨hrestarted.extend hevolves, hlatched.trans hunlatched, ?_⟩
    rw [hsnapshot, hhealth]

theorem State.Ended.precede {P : Obs → Prop} {s s' s'' : State B} {now : UInt32} {id : EntityId}
    (h : Evolves P s s') (h' : s'.Ended s'' now id) : s.Ended s'' now id :=
  h'.imp_right fun ⟨hrestarted, hrest⟩ ↦ ⟨hrestarted.precede h, hrest⟩

theorem Swept.append {now : UInt32} {ids ids' : List EntityId} {s s' s'' : State B}
    (h : Swept now ids s s') (h' : Swept now ids' s' s'') (hdisjoint : ids.Disjoint ids') :
    Swept now (ids ++ ids') s s'' where
  evolves := h.evolves.trans h'.evolves
  raised := by rw [h'.raised, h.raised, List.map_append, List.append_assoc]
  ended := by
    refine List.forall_mem_append.mpr ⟨fun id hid ↦ ?_, fun id hid ↦ ?_⟩
    · exact (h.ended id hid).keep h'.evolves (h'.other id (hdisjoint hid))
    · exact (h'.ended id hid).precede h.evolves
  other := by
    intro id hid
    rw [List.mem_append, not_or] at hid
    rw [h'.other id hid.2, h.other id hid.1]

/-! ## One recovery -/

/-- One recovery of the scan, with the lock released around it. -/
def scanned (now : UInt32) (s : State B) (id : EntityId) : State B :=
  syncEnter (handleFailure (syncExit s) (some (watchdogReport B id now)))

theorem scanned_eq {s : State B} (henabled : s.lib.supervisionEnabled ≠ 0) (now : UInt32)
    (id : EntityId) : scanned now s id =
      syncEnter (handleFailureLocked (supervisionEnabled (syncExit s)).2
        (watchdogReport B id now)) := by
  rw [scanned, handleFailure_of_enabled (by rwa [syncExit_lib])]

theorem scanned_swept {s : State B} (hs : s.lib.Sound)
    (henabled : s.lib.supervisionEnabled ≠ 0) {id : EntityId} (hid : id < s.lib.entityCount)
    {now maxAge : UInt32} (hdue : watchdogDue s.lib now maxAge id = true) :
    Swept now [id] s (scanned now s id) := by
  let report := watchdogReport B id now
  let called := (supervisionEnabled (syncExit s)).2
  have hcalled : called.lib = s.lib := by
    rw [supervisionEnabled_lib, syncExit_lib]
  have hcalls : Evolves Obs.silent s called :=
    (silent_syncExit s).trans (silent_supervisionEnabled _)
  have hs' : called.lib.Sound := hcalled ▸ hs
  have hraises : called.lib.raises report := by
    have hlatch := hdue
    simp only [watchdogDue, Bool.and_eq_true, Bool.not_eq_true'] at hlatch
    rw [hcalled]
    exact hlatch.1.1.1.2
  have henter := silent_syncEnter (handleFailureLocked called report)
  obtain ⟨hevolves, -, hanomalies⟩ := handleFailureLocked_world hs' report
  rw [scanned_eq henabled]
  constructor
  · exact hcalls.any.trans (hevolves.trans henter.any)
  · rw [State.raised_of_silent henter, State.raised, hanomalies, hcalls.anomalies_eq,
      Lib.phases, if_pos hraises, List.filter_append]
    congr 1
    split <;> rfl
  · rw [List.forall_mem_singleton]
    refine State.Ended.keep ?_ henter.any (by rw [syncEnter_lib])
    rcases handleFailureLocked_settled hs' hraises (by rwa [hcalled]) with hrestored | hcondemned
    · right
      obtain ⟨now', -, -, hhealth, -⟩ := hrestored.health
      have hrestarted : called.WatchdogRestarted (handleFailureLocked called report) id :=
        ⟨_, hrestored.called, List.mem_singleton_self _⟩
      refine ⟨hrestarted.precede hcalls, hrestored.unlatched, ?_⟩
      exact congrArg HealthSnapshot.health hhealth
    · exact Or.inl hcondemned
  · intro other hother
    rw [syncEnter_lib, handleFailureLocked_lib hs'.limit_eq, hcalled]
    exact Lib.record_handle_of_ne _ _ _ fun heq ↦ hother (List.mem_singleton.mpr heq)

/-- The recovery the scan starts for an entity that is due. -/
structure Recovered (id : EntityId) (s s' : State B) : Prop where
  sound : s'.lib.Sound
  enabled : s'.lib.supervisionEnabled ≠ 0
  count : s'.lib.entityCount = s.lib.entityCount
  other : ∀ other, other ≠ id → s'.lib.record other = s.lib.record other
  evolves : Evolves (fun _ ↦ True) s s'
  served : s'.lib.failed id ∨ s.WatchdogRestarted s' id

theorem recovered_scan {s : State B} (hs : s.lib.Sound)
    (henabled : s.lib.supervisionEnabled ≠ 0) {id : EntityId} (hid : id < s.lib.entityCount)
    {now maxAge : UInt32} (hdue : watchdogDue s.lib now maxAge id = true) :
    Recovered id s (scanned now s id) := by
  have hswept := scanned_swept hs henabled hid hdue
  have hlib : ∃ ans, (scanned now s id).lib = s.lib.handle ans (watchdogReport B id now) := by
    have hcalled : (supervisionEnabled (syncExit s)).2.lib = s.lib := by
      rw [supervisionEnabled_lib, syncExit_lib]
    rw [scanned_eq henabled, syncEnter_lib,
      handleFailureLocked_lib (by rw [hcalled, hs.limit_eq]), hcalled]
    exact ⟨_, rfl⟩
  obtain ⟨ans, hlib⟩ := hlib
  constructor
  · rw [hlib]
    exact Lib.sound_handle hs _ _
  · rwa [hlib, Lib.handle_supervisionEnabled]
  · rw [hlib, Lib.handle_entityCount]
  · exact fun other hother ↦ hswept.other other (List.mem_singleton.not.mpr hother)
  · exact hswept.evolves
  · exact (hswept.ended id (List.mem_singleton_self id)).served

/-! ## The loop as a fold -/

/-- The loop handles what is due when it starts. -/
theorem scanLoop_eq {s : State B} (hs : s.lib.Sound) (henabled : s.lib.supervisionEnabled ≠ 0)
    (now maxAge : UInt32) (rounds i : ℕ) (hrounds : s.lib.entityCount.toNat ≤ rounds + i) :
    scanLoop now maxAge rounds i s = (s.lib.dueFrom now maxAge i).foldl (scanned now) s := by
  induction rounds generalizing i s with
  | zero =>
      rw [Lib.dueFrom_of_ge (by omega)]
      rfl
  | succ rounds ih =>
      by_cases hlt : i < s.lib.entityCount.toNat
      · have hcount := s.lib.entityCount.toNat_lt
        have hindex : (UInt8.ofNat i).toNat = i := by
          rw [UInt8.toNat_ofNat']
          omega
        simp only [scanLoop, if_pos hlt]
        rw [Lib.dueFrom_of_lt hlt]
        split
        · next hdue =>
          have hstep := recovered_scan hs henabled
            (UInt8.lt_iff_toNat_lt.mpr (hindex.symm ▸ hlt)) hdue
          have hlimit := hstep.sound.limit_eq.trans (hstep.count.trans hs.limit_eq.symm)
          have hahead : ∀ id : EntityId, i + 1 ≤ id.toNat →
              (scanned now s (UInt8.ofNat i)).lib.record id = s.lib.record id := by
            intro id hid
            refine hstep.other id fun heq ↦ ?_
            rw [heq, hindex] at hid
            omega
          rw [List.foldl_cons, ← Lib.dueFrom_congr hstep.count hlimit hahead]
          exact ih hstep.sound hstep.enabled (i + 1) (by rw [hstep.count]; omega)
        · exact ih hs henabled (i + 1) (by omega)
      · simp only [scanLoop, if_neg hlt]
        rw [Lib.dueFrom_of_ge (Nat.le_of_not_lt hlt)]
        rfl

theorem foldl_scanned_swept {s : State B} (hs : s.lib.Sound)
    (henabled : s.lib.supervisionEnabled ≠ 0) (now maxAge : UInt32) {ids : List EntityId}
    (hnodup : ids.Nodup)
    (hdue : ∀ id ∈ ids, id < s.lib.entityCount ∧ watchdogDue s.lib now maxAge id = true) :
    Swept now ids s (ids.foldl (scanned now) s) := by
  induction ids generalizing s with
  | nil =>
      refine ⟨.refl s, ?_, List.forall_mem_nil _, fun _ _ ↦ rfl⟩
      rw [List.map_nil, List.append_nil]
      rfl
  | cons id ids ih =>
      obtain ⟨hid, hfirst⟩ := hdue id List.mem_cons_self
      obtain ⟨hnew, hnodup⟩ := List.nodup_cons.mp hnodup
      have hstep := recovered_scan hs henabled hid hfirst
      have hlimit := hstep.sound.limit_eq.trans (hstep.count.trans hs.limit_eq.symm)
      have hrest : Swept now ids (scanned now s id)
          (ids.foldl (scanned now) (scanned now s id)) := by
        refine ih hstep.sound hstep.enabled hnodup fun other hother ↦ ?_
        obtain ⟨hknown, hother'⟩ := hdue other (List.mem_cons_of_mem _ hother)
        have hne : other ≠ id := fun heq ↦ hnew (heq ▸ hother)
        refine ⟨by rwa [hstep.count], ?_⟩
        rwa [watchdogDue_congr hlimit (hstep.other other hne)]
      exact (scanned_swept hs henabled hid hfirst).append hrest (List.singleton_disjoint.mpr hnew)

/-- The scan recovers what is due when it starts. -/
theorem checkWatchdogs_swept {s : State B} (hs : s.lib.Sound)
    (henabled : s.lib.supervisionEnabled ≠ 0) :
    let now := (getNowMs s).1
    let due := s.lib.dueFrom now (heartbeatMaxAgeMs s.lib.config) 0
    checkWatchdogs s = syncExit (due.foldl (scanned now)
        (syncEnter (supervisionEnabled (getNowMs s).2).2)) ∧
      Swept now due s (checkWatchdogs s) := by
  intro now due
  let entered := syncEnter (supervisionEnabled (getNowMs s).2).2
  let maxAge := heartbeatMaxAgeMs s.lib.config
  have hentered : entered.lib = s.lib := by
    simp [entered]
  have hworld : Evolves Obs.silent s entered :=
    (silent_getNowMs s).trans ((silent_supervisionEnabled _).trans (silent_syncEnter _))
  have hsound : entered.lib.Sound := hentered ▸ hs
  have henabled' : entered.lib.supervisionEnabled ≠ 0 := hentered ▸ henabled
  have hrun : checkWatchdogs s = syncExit (due.foldl (scanned now) entered) := by
    have hcount := s.lib.entityCount.toNat_lt
    have hloop := scanLoop_eq hsound henabled' now maxAge 255 0 (by rw [hentered]; omega)
    rw [hentered] at hloop
    rw [← hloop]
    simp only [checkWatchdogs, supervisionEnabled_fst, getNowMs_lib, if_neg henabled]
    rfl
  have hswept : Swept now due entered (due.foldl (scanned now) entered) := by
    refine foldl_scanned_swept hsound henabled' now maxAge Lib.pairwise_dueFrom.nodup
      fun id hid ↦ ?_
    rw [hentered]
    exact (Lib.mem_dueFrom.mp hid).2
  have hexit := silent_syncExit (due.foldl (scanned now) entered)
  refine ⟨hrun, ?_⟩
  rw [hrun]
  constructor
  · exact hworld.any.trans (hswept.evolves.trans hexit.any)
  · rw [State.raised_of_silent hexit, hswept.raised, State.raised_of_silent hworld]
  · intro id hid
    exact ((hswept.ended id hid).keep hexit.any (by rw [syncExit_lib])).precede hworld
  · intro id hid
    rw [syncExit_lib, hswept.other id hid, hentered]

end Fdir
