/-
Which violations blame a period.

A period whose interval is unknown or whose duration is no positive whole number is blamed in a message of its own
(`BlamesPeriod`), which begins like no other message of a loan policy. So of the violations that a policy may tell, one
blames a period only if that has both parts and cannot be used (`PeriodsUsable.sparesPeriods`).
-/
import Mathlib.Tactic
import Lending.Proofs.LoanPolicy.Violations

namespace Lending

/-! ## Messages -/

/-- whether a message blames a period for its interval or its duration -/
def BlamesPeriod (message : Text) : Prop :=
  ∃ (problem : PeriodProblem) (field : Option Text), problem ≠ .incomplete ∧ problem.message field = .ok message

namespace BlamesPeriod

variable {t : Text}

/-- such a message begins with "the i" or "the d" -/
theorem starts (h : BlamesPeriod t) :
    t.points.head? = some (.char 't') ∧ (t.points[4]? = some (.char 'i') ∨ t.points[4]? = some (.char 'd')) := by
  obtain ⟨problem, field, hproblem, hmessage⟩ := h
  cases problem with
  | incomplete => exact absurd rfl hproblem
  | interval id =>
    cases hmessage
    simp only [Text.points_append, List.append_assoc]
    exact ⟨rfl, .inl rfl⟩
  | duration value =>
    simp only [PeriodProblem.message, bind_eq_ok, pure_eq_ok] at hmessage
    obtain ⟨shown, -, rfl⟩ := hmessage
    simp only [Text.points_append, List.append_assoc]
    exact ⟨rfl, .inr rfl⟩

theorem reportsPolicyData (h : BlamesPeriod t) : LoanPolicy.ReportsPolicyData t := by
  obtain ⟨problem, field, -, hmessage⟩ := h
  exact .period hmessage

theorem not_of_head (h : t.points.head? ≠ some (.char 't')) : ¬ BlamesPeriod t := fun ht => h ht.starts.1

/-- a missing part is reported in other words -/
theorem not_incomplete {field : Option Text} (h : PeriodProblem.incomplete.message field = .ok t) : ¬ BlamesPeriod t := by
  intro ht
  simp only [PeriodProblem.message] at h
  split at h
  · cases h
    have hfifth := ht.starts.2
    simp only [Text.points_append, List.append_assoc] at hfifth
    rcases hfifth with h | h <;> cases h
  · cases h
    exact absurd ht.starts.2 (by decide)

end BlamesPeriod

/-! ## Operations -/

namespace LoanPolicy

variable {p : LoanPolicy}

/-- whether every period of a policy that has both parts can be used -/
def PeriodsUsable (p : LoanPolicy) : Prop :=
  ∀ slot period, p.periodAt slot = some period → period.IsComplete → period.IsUsable

/-- a violation that a policy tells blames a period only if one has both parts and cannot be used -/
theorem PeriodsUsable.not_blamesPeriod (h : p.PeriodsUsable) {l : Loan} {e : Violation} (he : p.Issued l e) :
    ¬ BlamesPeriod e.message := by
  have hother := not_reportsPolicyData
  cases he with
  | @period slot period problem field message hslot hcheck hmessage =>
    by_cases hp : problem = .incomplete
    · subst hp
      exact BlamesPeriod.not_incomplete hmessage
    · obtain ⟨hcomplete, hnot⟩ := Period.check_eq_error hcheck hp
      exact absurd (h slot period hslot hcomplete) hnot
  | profile profileId isRenewal =>
    refine BlamesPeriod.not_of_head ?_
    cases isRenewal <;> exact fun h => absurd (Option.some.inj h) (by decide)
  | renewFrom => exact BlamesPeriod.not_of_head fun h => absurd (Option.some.inj h) (by decide)
  | @rule message hmem =>
    exact fun ht => hother message (List.mem_cons_of_mem _ (List.mem_cons_of_mem _ hmem)) ht.reportsPolicyData
  | loanWithoutDueDate => exact fun ht => hother _ List.mem_cons_self ht.reportsPolicyData
  | dateRequired => exact fun ht => hother _ (List.mem_cons_of_mem _ List.mem_cons_self) ht.reportsPolicyData

/-- whether no operation of a policy blames a period, whatever it is given -/
structure SparesPeriods (p : LoanPolicy) : Prop where
  checkOut : ∀ l q, ∀ e ∈ (p.calculateInitialDueDate l q).value.errors, ¬ BlamesPeriod e.message
  renew : ∀ l systemDate, ∀ e ∈ (p.renew l systemDate).value.errors, ¬ BlamesPeriod e.message
  overrideRenewal : ∀ l systemDate dueDate comment,
    ∀ e ∈ (p.overrideRenewal l systemDate dueDate comment).value.errors, ¬ BlamesPeriod e.message
  callBack : ∀ l systemDate, ∀ e ∈ (p.callBack l systemDate).value.errors, ¬ BlamesPeriod e.message

/-- **No period is blamed.** If every period of a policy that has both parts can be used, then no operation ever blames a
period for its interval or its duration. -/
theorem PeriodsUsable.sparesPeriods (h : p.PeriodsUsable) : p.SparesPeriods where
  checkOut l q e he := h.not_blamesPeriod ((p.issues_initialDueDate l q).settle e he)
  renew l _ e he := h.not_blamesPeriod ((p.issues_renewal l _).settle e he)
  overrideRenewal l _ _ comment e he := h.not_blamesPeriod ((p.issues_overriding l _ _ comment).settle e he)
  callBack l _ e he := h.not_blamesPeriod ((p.issues_callingBack l _).settle e he)

end LoanPolicy

end Lending
