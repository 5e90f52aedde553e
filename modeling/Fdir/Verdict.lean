import Fdir.Handling

/-!
# The two outcomes of a recovery

A recovery either restores its entity, when the restart callback was called and
answered 0, or leaves it FAILED with the fault of the report latched.
-/

namespace Fdir

variable {B : Build}

/-- The recovery of the entity calls its restart callback and gets 0. -/
def Lib.restores (l : Lib B) (ans : Answers) (report : FailureReport) : Prop :=
  l.attempts ans report ∧ ans.restart = 0

instance (l : Lib B) (ans : Answers) (report : FailureReport) :
    Decidable (l.restores ans report) := inferInstanceAs (Decidable (_ ∧ _))

theorem Lib.verdict_of_restores {l : Lib B} {ans : Answers} {report : FailureReport}
    (h : l.restores ans report) :
    l.verdict ans report =
      (((l.record report.entity).bump report.reason).restore ans.now, .restart) := by
  obtain ⟨⟨haction, hrestart⟩, hanswer⟩ := h
  have hsome : ((l.record report.entity).fail B report).slot.desc.restart.isSome := hrestart
  simp only [Lib.verdict, haction, Record.settle, if_true, hsome, hanswer]
  rfl

/-- A recovery that does not restore leaves health and latch of the failure. -/
theorem Lib.verdict_of_not_restores {l : Lib B} {ans : Answers} {report : FailureReport}
    (h : ¬ l.restores ans report) :
    (l.verdict ans report).1.snapshot = ((l.record report.entity).fail B report).snapshot ∧
      (l.verdict ans report).1.latchedReason = report.reason ∧
      (l.verdict ans report).1.faultLatched = true := by
  simp only [Lib.verdict, Record.settle]
  split_ifs with haction hrestart hanswer
  · exact absurd ⟨⟨haction, hrestart⟩, hanswer⟩ h
  all_goals exact ⟨rfl, rfl, rfl⟩

section Handled

variable {l : Lib B} (hs : l.Sound) {report : FailureReport} (hraises : l.raises report)
  (hid : report.entity < l.entityCount)

include hs hraises hid

theorem Lib.record_handle_of_restores {ans : Answers} (h : l.restores ans report) :
    (l.handle ans report).record report.entity =
      ((l.record report.entity).bump report.reason).restore ans.now := by
  rw [Lib.record_handle_self l ans report hraises (hs.known hid), Lib.verdict_of_restores h]

theorem Lib.record_handle_of_not_restores {ans : Answers} (h : ¬ l.restores ans report) :
    (l.handle ans report).health.health report.entity =
        { l.health.health report.entity with
          health := .failed
          errorCode := report.errorCode
          detail := copyDetail B.detailSize (some report.detail) } ∧
      (l.handle ans report).health.latchedReason report.entity = report.reason ∧
      (l.handle ans report).health.faultLatched report.entity = true := by
  have hrecord := Lib.record_handle_self l ans report hraises (hs.known hid)
  obtain ⟨hsnapshot, hreason, hlatched⟩ := Lib.verdict_of_not_restores h
  exact ⟨(congrArg Record.snapshot hrecord).trans hsnapshot,
    (congrArg Record.latchedReason hrecord).trans hreason,
    (congrArg Record.faultLatched hrecord).trans hlatched⟩

end Handled

end Fdir
