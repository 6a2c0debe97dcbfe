/-
What can stop the operations of a loan policy.

A policy that comes from documents has a zone for every date in its schedules (`schedulesAware_of_ofDocuments`), a loan has
one for each of its dates, and the dates that an operation is given get one before anything else. So no operation compares
dates that have no order or counts from a date that is not there: a server error reports a fault of arithmetic
(`operations_fault_by_arithmetic`).
-/
import Lending.Proofs.Arithmetic
import Lending.Proofs.LoanPolicy.Override
import Lending.Proofs.LoanPolicy.Recall

namespace Lending.LoanPolicy

variable {p : LoanPolicy} {l : Loan} {lent now : DateTime}

/-! ## Policies from documents -/

theorem ofDocument_schedules {doc : LoanPolicyDocument} {checkout alternate : Schedule}
    (h : ofDocument doc checkout alternate = .ok p) :
    p.checkoutSchedule = checkout ∧ p.alternateRenewalSchedule = alternate := by
  simp only [ofDocument, bind_eq_ok, pure_eq_ok] at h
  obtain ⟨-, -, -, -, -, -, -, -, -, -, -, -, rfl⟩ := h
  exact ⟨rfl, rfl⟩

/-- the schedules of a policy from documents have a zone for every date -/
theorem schedulesAware_of_ofDocuments {policy checkout alternate : Value} {z : Zone}
    (h : ofDocuments policy checkout alternate z = .ok p) : p.SchedulesAware := by
  simp only [ofDocuments, bind_eq_ok, mapError_eq_ok] at h
  obtain ⟨doc, -, checkout, hcheckout, alternate, halternate, h⟩ := h
  obtain ⟨rfl, rfl⟩ := ofDocument_schedules h
  exact ⟨Schedule.ofDocument_aware hcheckout, Schedule.ofDocument_aware halternate⟩

/-! ## Check-outs -/

/-- the rule for a check-out goes by the profile, and stays within the one schedule for check-outs -/
theorem checkOutRule_cases (p : LoanPolicy) (q : Option Queue) :
    p.checkOutRule q = .rollingCheckOut (p.checkOutPeriod q) p.checkoutSchedule ∨
      p.checkOutRule q = .fixedCheckOut p.checkoutSchedule ∨
      ∃ profileId, p.checkOutRule q = .unknown profileId false := by
  unfold checkOutRule
  split
  · exact .inr (.inr ⟨_, rfl⟩)
  · split
    · exact .inl rfl
    · split
      · exact .inl rfl
      · exact .inr (.inl rfl)
    · exact .inr (.inr ⟨_, rfl⟩)

/-- a rule for a check-out holds the dates of its schedule only, and does not ask about the date of a renewal -/
theorem SchedulesAware.checkOutRule (hp : p.SchedulesAware) (q : Option Queue) :
    (p.checkOutRule q).Aware ∧ (p.checkOutRule q).Dated := by
  rcases p.checkOutRule_cases q with h | h | ⟨profileId, h⟩
  · rw [h]
    exact ⟨hp.1, trivial⟩
  · rw [h]
    exact ⟨hp.1, trivial⟩
  · rw [h]
    exact ⟨trivial, trivial⟩

theorem SchedulesAware.orderly_initialDueDate (hp : p.SchedulesAware) (hl : l.loanDate = some lent)
    (q : Option Queue) : Orderly (p.initialDueDate l q) :=
  (hp.checkOutRule q).1.orderly_dueDate (hp.checkOutRule q).2 hl

/-! ## Renewals -/

theorem dated_renewalRule (p : LoanPolicy) (now : DateTime) : (p.renewalRule (some now)).Dated := by
  rcases p.renewalRule_cases (some now) with h | h | ⟨profileId, h⟩
  · rw [h]
    trivial
  · rw [h]
    rfl
  · rw [h]
    trivial

theorem SchedulesAware.orderly_renewalDueDate (hp : p.SchedulesAware) (hl : l.loanDate = some lent)
    (hnow : now.isAware = true) : Orderly (p.renewalDueDate l (some now)) :=
  (hp.renewalRule (zoned_some hnow)).orderly_dueDate (p.dated_renewalRule now) hl

theorem SchedulesAware.orderly_renewal (hp : p.SchedulesAware) (hl : l.loanDate = some lent)
    (hnow : now.isAware = true) : Orderly (p.renewal l (some now)) := by
  unfold renewal
  split_ifs
  · exact .refused _
  · exact .refused _
  have hdue := hp.orderly_renewalDueDate hl hnow
  refine .bind hdue.arithmeticFaults fun proposed hproposed => ?_
  obtain ⟨objections, -, hdate⟩ := dueDateErrors_eq hp (zoned_some hnow) hproposed
  rw [renewalErrors_eq hdate, ok_bind]
  split_ifs
  · exact .refused _
  cases proposed with
  | ok due => exact .value _
  | failed c =>
    rw [hproposed] at hdue
    exact hdue

/-! ## Overrides -/

theorem orderly_overrideByRule {calculated : Outcome DateTime} (hc : Orderly (.ok calculated))
    (hz : ∀ due, calculated = .ok due → due.isAware = true) (comment : Option Text) :
    Orderly (p.overrideByRule l calculated comment) := by
  refine .andThen hc fun due hdue => ?_
  rcases isSameOrBefore_cases l (hz due (Except.ok.inj hdue)) with ⟨hs, -⟩ | ⟨hs, -⟩
  · rw [hs]
    exact .value _
  · rw [hs]
    exact .refused _

theorem SchedulesAware.orderly_overriding (hp : p.SchedulesAware) (hl : l.loanDate = some lent)
    (hnow : now.isAware = true) (override : Option DateTime) (comment : Option Text) :
    Orderly (p.overriding l (some now) override comment) := by
  have hzoned := zoned_some hnow
  by_cases hneeds : p.NeedsDate l (some now)
  · rw [overriding_needsDate hneeds]
    cases override with
    | none => exact .refused _
    | some given => exact .value _
  obtain ⟨hlends, hrenews, hfixed⟩ := not_needsDate hneeds
  have hdue := hp.orderly_renewalDueDate hl hnow
  rcases hproposed : p.renewalDueDate l (some now) with f | due | c
  · rw [overriding_fault hlends hrenews hproposed]
    exact hdue.arithmeticFaults f hproposed
  · rw [overriding_proposed hlends hrenews hproposed]
    split_ifs
    · refine orderly_overrideByRule (.value due) (fun due' hdue' => ?_) comment
      cases hdue'
      exact hp.renewalDueDate hzoned hproposed
    · exact .refused _
  · rw [overriding_failed hlends hrenews hproposed (hfixed c hproposed)]
    split_ifs
    · have hrule : Orderly ((p.overrideRule (some now)).dueDate p.violation l) :=
        (hp.overrideRule hzoned).orderly_dueDate trivial hl
      refine .bind hrule.arithmeticFaults fun calculated hcalculated => ?_
      rw [hcalculated] at hrule
      exact orderly_overrideByRule hrule (fun due hd => (hp.overrideRule hzoned).dueDate (hd ▸ hcalculated)) comment
    · exact .refused _

/-! ## Recalls -/

theorem orderly_recallDate (period : Option Period) (field : String) (d : DateTime) (default : Option DateTime) :
    Orderly (p.recallDate period field (some d) default) := by
  cases period with
  | none => exact .value _
  | some q => exact .andThen (q.orderly_addTo d p.violation (some field)) fun _ _ => .value _

theorem recallDate_zoned {period : Option Period} {field : String} {base default found : Option DateTime}
    (hbase : Zoned base) (hdefault : Zoned default) (h : p.recallDate period field base default = .ok (.ok found)) :
    Zoned found := by
  rcases recallDate_eq_ok.1 h with ⟨-, rfl⟩ | ⟨q, d, -, hd, rfl⟩
  · exact hdefault
  · exact zoned_some (DueDateRule.addTo_aware hbase hd)

/-- a date of return is there if the date of the recall is -/
theorem returnDate_isSome {found : Option DateTime} (h : p.returnDate (some now) = .ok (.ok found)) :
    ∃ wanted, found = some wanted := by
  rcases recallDate_eq_ok.1 h with ⟨-, rfl⟩ | ⟨q, d, -, -, rfl⟩
  · exact ⟨now, rfl⟩
  · exact ⟨d, rfl⟩

theorem orderly_callingBack (hl : l.loanDate = some lent) (hnow : now.isAware = true) :
    Orderly (p.callingBack l (some now)) := by
  have hguaranteed : Orderly (p.guaranteedDate l) := by
    rw [guaranteedDate, hl]
    exact orderly_recallDate _ _ _ _
  have hwanted : Orderly (p.returnDate (some now)) := orderly_recallDate _ _ _ _
  refine .bind hguaranteed.arithmeticFaults fun guaranteed hg => ?_
  refine .bind hwanted.arithmeticFaults fun wanted hw => ?_
  rw [hg] at hguaranteed
  rw [hw] at hwanted
  dsimp only
  split_ifs
  · exact .refused _
  cases guaranteed with
  | failed c => exact hguaranteed
  | ok g =>
    cases wanted with
    | failed c => exact hwanted
    | ok w =>
      obtain ⟨wanted, rfl⟩ := returnDate_isSome hw
      have haware := recallDate_zoned (zoned_some hnow) (zoned_some hnow) hw wanted rfl
      have hearlier := recallDate_zoned l.loanDateZoned zoned_none hg
      exact .bind (.of_ok ⟨_, laterDate_eq hearlier haware⟩) fun _ _ => .value _

/-! ## All operations -/

/-- **Only arithmetic faults.** Whatever documents a policy comes from and whatever dates, with or without a zone, its
operations are given: if one of them ends in a server error for a loan with a date of lending, then that error reports a
date, span or number beyond its limits, and its class is one of two. How deep a duration may be nested before a program with
a bounded stack cannot write it into a message any more is not modelled. -/
theorem operations_fault_by_arithmetic (policy checkout alternate : Value) (z : Zone) (p : LoanPolicy)
    (hp : ofDocuments policy checkout alternate z = .ok p) (l : Loan) (lent : DateTime) (hl : l.loanDate = some lent)
    (q : Option Queue) (systemDate : DateTime) (override : Option DateTime) (comment : Option Text) :
    (p.calculateInitialDueDate l q).value.FaultsByArithmetic ∧
      (p.renew l (some systemDate)).value.FaultsByArithmetic ∧
      (p.overrideRenewal l (some systemDate) override comment).value.FaultsByArithmetic ∧
      (p.callBack l (some systemDate)).value.FaultsByArithmetic := by
  have haware := schedulesAware_of_ofDocuments hp
  have hnow : systemDate.ensureAware.isAware = true := systemDate.isAware_ensureAware _
  refine ⟨?_, ?_, ?_, ?_⟩
  · exact (haware.orderly_initialDueDate hl q).settle
  · exact (haware.orderly_renewal hl hnow).settle
  · exact (haware.orderly_overriding hl hnow _ comment).settle
  · exact (orderly_callingBack hl hnow).settle

/-- a document for loans of three million days within a schedule -/
def longLoansDocument : Value :=
  .mapping [(.text "id", .text "policy-1"), (.text "loanable", .bool true), (.text "renewable", .bool true),
    (.text "loansPolicy", .mapping [(.text "profileId", .text "Rolling"),
      (.text "period", .mapping [(.text "duration", .int 3000000), (.text "intervalId", .text "Days")])]),
    (.text "renewalsPolicy", .mapping [(.text "numberAllowed", .int 2), (.text "renewFromId", .text "SYSTEM_DATE")])]

/-- a document for the schedule of a school year, whose dates have no zone -/
def schoolYearDocument : Value :=
  .mapping [(.text "schedules", .list [.mapping [(.text "from", .text "2023-09-01"), (.text "to", .text "2024-08-31"),
    (.text "due", .text "2024-09-15")]])]

/-- the policy of these documents, read in UTC -/
def longLoansPolicy : LoanPolicy :=
  { id := some "policy-1", loanable := true, renewable := true, profileId := some "Rolling",
    checkoutPeriod := .of .days 3000000, renewalLimit := 2, renewFromId := some "SYSTEM_DATE",
    checkoutSchedule := .configured none none [⟨.utcDay 2023 9 1, .utcDay 2024 8 31, .utcDay 2024 9 15⟩] }

/-- a renewal by three million days, at a date without a zone, leaves the calendar -/
theorem renew_long_loan :
    ofDocuments longLoansDocument schoolYearDocument .null .utc = .ok longLoansPolicy ∧
      marchLoan.loanDate = some (.utcDay 2024 3 1) ∧
      (longLoansPolicy.renew marchLoan (some { DateTime.utcDay 2024 3 10 with zone := none })).value =
        .failed (.serverError "OverflowError: date value out of range") ∧
      ∃ f : Fault, f.isArithmetic = true ∧ (f.kind = .overflow ∨ f.kind = .value) ∧
        Text.ofString "OverflowError: date value out of range" = f.report := by
  have hp : ofDocuments longLoansDocument schoolYearDocument .null .utc = .ok longLoansPolicy := rfl
  have hrenewed : (longLoansPolicy.renew marchLoan (some { DateTime.utcDay 2024 3 10 with zone := none })).value =
      .failed (.serverError "OverflowError: date value out of range") := rfl
  obtain ⟨-, hrenew, -, -⟩ := operations_fault_by_arithmetic longLoansDocument schoolYearDocument .null .utc
    longLoansPolicy hp marchLoan (.utcDay 2024 3 1) rfl none { DateTime.utcDay 2024 3 10 with zone := none } none none
  exact ⟨hp, rfl, hrenewed, hrenew _ hrenewed⟩

end Lending.LoanPolicy
