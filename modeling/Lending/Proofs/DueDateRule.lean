/-
What a rule for due dates decides.

A rule that gives no due date names one violation (`dueDate_eq_failed`): no failure is silent. A due date that a rule
gives has a zone if its schedule and its date of reference have one (`Aware.dueDate`).
-/
import Lending.DueDateRule
import Lending.Proofs.Period
import Lending.Proofs.Schedule

namespace Lending.DueDateRule

variable {rule : DueDateRule} {errorFor : Text → Violation} {l : Loan}

/-! ## Failures -/

/-- a renewal has no date to count from for one of two reasons -/
theorem renewalBase_failed_cases {systemDate : Option DateTime} {renewFromId : Option Text} {c : Cause}
    (h : renewalBase systemDate renewFromId errorFor l = .failed c) :
    c = .violations [⟨loanHasNoDueDate, [("loanId", some l.id)], .rule⟩] ∨
      c = .violations [(errorFor cannotDetermineRenewFrom).asConfiguration] := by
  unfold renewalBase at h
  split at h
  · split at h
    · cases h
    · cases h
      exact .inl rfl
  · split at h
    · cases h
    · cases h
      exact .inr rfl
  · cases h
    exact .inr rfl

theorem renewalBase_eq_failed {systemDate : Option DateTime} {renewFromId : Option Text} {c : Cause}
    (h : renewalBase systemDate renewFromId errorFor l = .failed c) : ∃ v, c = .violations [v] := by
  rcases renewalBase_failed_cases h with rfl | rfl
  · exact ⟨_, rfl⟩
  · exact ⟨_, rfl⟩

theorem scheduledDue_eq_failed {s : Schedule} {d : Option DateTime} {outside : Violation} {c : Cause}
    (h : scheduledDue s d outside = .ok (.failed c)) : c = .violations [outside] := by
  simp only [scheduledDue, bind_eq_ok] at h
  obtain ⟨due, -, h⟩ := h
  cases due with
  | some due => cases h
  | none =>
    cases h
    rfl

theorem addTo_failed {p : Period} {base : Option DateTime} {field : Option Text} {c : Cause}
    (h : p.addTo base errorFor field = .ok (.failed c)) : ∃ v, c = .violations [v] := by
  obtain ⟨problem, message, -, -, rfl⟩ := Period.addTo_eq_failed.1 h
  exact ⟨_, rfl⟩

/-- a rule that gives no due date says why in one violation -/
theorem dueDate_eq_failed {c : Cause} (h : rule.dueDate errorFor l = .ok (.failed c)) : ∃ v, c = .violations [v] := by
  cases rule with
  | rollingCheckOut period limit =>
    rcases Outcome.andThen_eq_failed.1 h with h | ⟨due, -, h⟩
    · exact addTo_failed h
    · exact ⟨_, Schedule.truncate_eq_failed h⟩
  | fixedCheckOut schedule => exact ⟨_, scheduledDue_eq_failed h⟩
  | rollingRenewal systemDate renewFromId period limit skipTruncation =>
    rcases Outcome.andThen_eq_failed.1 h with h | ⟨base, -, h⟩
    · exact renewalBase_eq_failed (Except.ok.inj h)
    · cases skipTruncation with
      | true =>
        simp only [if_true] at h
        exact addTo_failed h
      | false =>
        rcases Outcome.andThen_eq_failed.1 h with h | ⟨due, -, h⟩
        · exact addTo_failed h
        · exact ⟨_, Schedule.truncate_eq_failed h⟩
  | fixedRenewal schedule systemDate => exact ⟨_, scheduledDue_eq_failed h⟩
  | unknown profileId isRenewal =>
    cases h
    exact ⟨_, rfl⟩

/-! ## Zones -/

/-- whether every date that a rule holds has a zone -/
def Aware : DueDateRule → Prop
  | rollingCheckOut _ limit => limit.Aware
  | fixedCheckOut schedule => schedule.Aware
  | rollingRenewal systemDate _ _ limit _ => Zoned systemDate ∧ limit.Aware
  | fixedRenewal schedule systemDate => Zoned systemDate ∧ schedule.Aware
  | unknown _ _ => True

theorem renewalBase_aware {systemDate : Option DateTime} (hnow : Zoned systemDate) {renewFromId : Option Text}
    {base : DateTime} (h : renewalBase systemDate renewFromId errorFor l = .ok base) : base.isAware = true := by
  unfold renewalBase at h
  split at h
  · split at h
    · next due hdue =>
      cases h
      exact l.dueDateZoned _ hdue
    · cases h
  · split at h
    · cases h
      exact hnow _ rfl
    · cases h
  · cases h

theorem scheduledDue_aware {s : Schedule} (hs : s.Aware) {d : Option DateTime} {outside : Violation} {due : DateTime}
    (h : scheduledDue s d outside = .ok (.ok due)) : due.isAware = true := by
  simp only [scheduledDue, bind_eq_ok] at h
  obtain ⟨found, hfound, h⟩ := h
  cases found with
  | none => cases h
  | some due' =>
    cases h
    exact hs.dueFor hfound

theorem addTo_aware {p : Period} {base : Option DateTime} (hbase : Zoned base) {field : Option Text} {d : DateTime}
    (h : p.addTo base errorFor field = .ok (.ok d)) : d.isAware = true := by
  obtain ⟨b, hb, hz⟩ := Period.addTo_zone h
  rw [DateTime.isAware, hz]
  exact hbase b hb

/-- **Due dates have a zone.** The due date that a rule gives has a zone if all dates that the rule holds have one;
those of a loan always do. -/
theorem Aware.dueDate (hr : rule.Aware) {d : DateTime} (h : rule.dueDate errorFor l = .ok (.ok d)) :
    d.isAware = true := by
  cases rule with
  | rollingCheckOut period limit =>
    obtain ⟨due, hdue, h⟩ := Outcome.andThen_eq_ok.1 h
    exact Schedule.Aware.truncate hr (addTo_aware l.loanDateZoned hdue) h
  | fixedCheckOut schedule => exact scheduledDue_aware hr h
  | rollingRenewal systemDate renewFromId period limit skipTruncation =>
    obtain ⟨base, hbase, h⟩ := Outcome.andThen_eq_ok.1 h
    have hb : Zoned (some base) := fun x hx => by
      cases hx
      exact renewalBase_aware hr.1 (Except.ok.inj hbase)
    cases skipTruncation with
    | true =>
      simp only [if_true] at h
      exact addTo_aware hb h
    | false =>
      obtain ⟨due, hdue, h⟩ := Outcome.andThen_eq_ok.1 h
      exact hr.2.truncate (addTo_aware hb hdue) h
  | fixedRenewal schedule systemDate => exact scheduledDue_aware hr.2 h
  | unknown profileId isRenewal => cases h

end Lending.DueDateRule
