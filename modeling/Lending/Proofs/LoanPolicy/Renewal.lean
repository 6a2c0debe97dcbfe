/-
How a renewal is decided.

`renew_decides`: a policy that lends and renews refuses a renewal for exactly the rules against it, all of them and in
order, and grants it when there is none. The rules against it are those of the calculation, if it gives no due date,
or that the date does not lengthen the loan; after them comes the limit on renewals.
-/
import Lending.LoanPolicy.Operations
import Lending.Proofs.DueDateRule

namespace Lending

theorem zoned_none : Zoned none := fun _ h => by cases h

theorem zoned_some {d : DateTime} (h : d.isAware = true) : Zoned (some d) := fun x hx => by
  cases hx
  exact h

namespace Loan

/-- the loan renewed once more to a due date; what is not named here stays as it was -/
def renewedTo (l : Loan) (due : DateTime) (h : due.isAware = true) (policyId : Option Text) (action : Text)
    (comment : Option Text) : Loan :=
  { l with
    dueDate := some due
    dueDateZoned := zoned_some h
    renewalCount := l.renewalCount + 1
    action := some action
    actionComment := comment
    loanPolicyId := policyId }

theorem withDueDate_eq (l : Loan) {due : DateTime} (h : due.isAware = true) :
    l.withDueDate (some due) = { l with dueDate := some due, dueDateZoned := zoned_some h } := by
  simp only [withDueDate, Option.map_some, DateTime.ensureAware_of_isAware h]

theorem renew_eq (l : Loan) {due : DateTime} (h : due.isAware = true) (policyId : Option Text) :
    l.renew due policyId = l.renewedTo due h policyId "renewed" none := by
  simp only [renew, renewedTo, withDueDate_eq l h]

theorem overrideRenewal_eq (l : Loan) {due : DateTime} (h : due.isAware = true) (policyId comment : Option Text) :
    l.overrideRenewal due policyId comment = l.renewedTo due h policyId "renewedThroughOverride" comment := by
  simp only [overrideRenewal, renewedTo, withDueDate_eq l h]

/-- whether a date is later than the due date of a loan, if it has one -/
def LengthenedBy (l : Loan) (due : DateTime) : Prop := ∀ old, l.dueDate = some old → old.Before due

end Loan

namespace LoanPolicy

/-! ## Policies whose schedules hold dates with a zone -/

/-- whether every date in the schedules of a policy has a zone -/
def SchedulesAware (p : LoanPolicy) : Prop := p.checkoutSchedule.Aware ∧ p.alternateRenewalSchedule.Aware

instance (p : LoanPolicy) : Decidable p.SchedulesAware := by unfold SchedulesAware; infer_instance

variable {p : LoanPolicy} {l : Loan} {now : Option DateTime}

theorem SchedulesAware.renewalLimitSchedule (hp : p.SchedulesAware) : p.renewalLimitSchedule.Aware := by
  unfold LoanPolicy.renewalLimitSchedule
  split
  · exact hp.2
  · exact hp.1

theorem SchedulesAware.renewalFixedSchedule (hp : p.SchedulesAware) : p.renewalFixedSchedule.Aware := by
  unfold LoanPolicy.renewalFixedSchedule
  split
  · exact hp.2
  · exact hp.1

/-- the rule for a renewal goes by the profile -/
theorem renewalRule_cases (p : LoanPolicy) (now : Option DateTime) :
    p.renewalRule now = .rollingRenewal now p.renewFromId p.renewalPeriod p.renewalLimitSchedule false ∨
      p.renewalRule now = .fixedRenewal p.renewalFixedSchedule now ∨
      ∃ profileId, p.renewalRule now = .unknown profileId true := by
  unfold renewalRule
  split
  · exact .inr (.inr ⟨_, rfl⟩)
  · split
    · exact .inl rfl
    · exact .inr (.inl rfl)
    · exact .inr (.inr ⟨_, rfl⟩)

theorem SchedulesAware.renewalRule (hp : p.SchedulesAware) (hnow : Zoned now) : (p.renewalRule now).Aware := by
  rcases p.renewalRule_cases now with h | h | ⟨profileId, h⟩
  · rw [h]
    exact ⟨hnow, hp.renewalLimitSchedule⟩
  · rw [h]
    exact ⟨hnow, hp.renewalFixedSchedule⟩
  · rw [h]
    trivial

theorem SchedulesAware.overrideRule (hp : p.SchedulesAware) (hnow : Zoned now) : (p.overrideRule now).Aware :=
  ⟨hnow, hp.renewalLimitSchedule⟩

theorem SchedulesAware.renewalDueDate (hp : p.SchedulesAware) (hnow : Zoned now) {due : DateTime}
    (h : p.renewalDueDate l now = .ok (.ok due)) : due.isAware = true :=
  (hp.renewalRule hnow).dueDate h

/-- a proposed date either lengthens a loan or does not; the comparison never faults -/
theorem isSameOrBefore_cases (l : Loan) {due : DateTime} (h : due.isAware = true) :
    (isSameOrBefore l due = .ok false ∧ l.LengthenedBy due) ∨
      (isSameOrBefore l due = .ok true ∧ ∃ old, l.dueDate = some old ∧ due.NotAfter old) := by
  unfold isSameOrBefore
  cases hd : l.dueDate with
  | none => exact .inl ⟨rfl, fun old ho => by rw [hd] at ho; cases ho⟩
  | some old =>
    have ho : old.isAware = true := l.dueDateZoned old hd
    simp only [DateTime.notAfter_eq h ho]
    by_cases hle : due.NotAfter old
    · exact .inr ⟨by simp [hle], old, rfl, hle⟩
    · refine .inl ⟨by simp [hle], fun old' ho' => ?_⟩
      rw [hd] at ho'
      cases ho'
      exact (DateTime.not_notAfter h ho).1 hle

theorem isSameOrBefore_eq_false_iff {due : DateTime} : isSameOrBefore l due = .ok false ↔ l.LengthenedBy due := by
  unfold isSameOrBefore Loan.LengthenedBy
  cases l.dueDate with
  | none => simp
  | some old => simp [DateTime.notAfter_eq_false_iff]

theorem isSameOrBefore_eq_true_iff {due : DateTime} :
    isSameOrBefore l due = .ok true ↔ ∃ old, l.dueDate = some old ∧ due.NotAfter old := by
  unfold isSameOrBefore DateTime.NotAfter
  cases l.dueDate with
  | none => simp
  | some old => simp

/-! ## The rules against a renewal -/

/-- what stands against a proposed due date: why there is none, or that it does not lengthen the loan -/
inductive DateObjections (p : LoanPolicy) (l : Loan) : Outcome DateTime → List Violation → Prop
  | refused {errors : List Violation} :
    errors ≠ [] → DateObjections p l (.failed (.violations errors)) errors
  | notLonger {due old : DateTime} :
    l.dueDate = some old → due.NotAfter old → DateObjections p l (.ok due) [p.violation renewalChangesNothing]
  | longer {due : DateTime} : l.LengthenedBy due → DateObjections p l (.ok due) []

/-- what the limit on renewals says against one more -/
def limitObjections (p : LoanPolicy) (l : Loan) : List Violation :=
  if p.unlimitedRenewals = false ∧ p.renewalLimit ≤ l.renewalCount then [p.violation renewalLimitReached] else []

theorem dueDateErrors_eq_ok {due : DateTime} {b : Bool} (h : isSameOrBefore l due = .ok b) :
    p.dueDateErrors l (.ok due) = .ok (if b then [p.violation renewalChangesNothing] else []) := by
  simp only [dueDateErrors, h]
  rfl

theorem dueDateErrors_eq (hp : p.SchedulesAware) (hnow : Zoned now) {proposed : Outcome DateTime}
    (h : p.renewalDueDate l now = .ok proposed) :
    ∃ objections, p.DateObjections l proposed objections ∧ p.dueDateErrors l proposed = .ok objections := by
  cases proposed with
  | failed c =>
    obtain ⟨v, rfl⟩ := DueDateRule.dueDate_eq_failed h
    exact ⟨[v], .refused (List.cons_ne_nil v []), rfl⟩
  | ok due =>
    rcases isSameOrBefore_cases l (hp.renewalDueDate hnow h) with ⟨hs, hlong⟩ | ⟨hs, old, hold, hle⟩
    · exact ⟨[], .longer hlong, dueDateErrors_eq_ok hs⟩
    · exact ⟨_, .notLonger hold hle, dueDateErrors_eq_ok hs⟩

theorem renewalErrors_eq {proposed : Outcome DateTime} {objections : List Violation}
    (h : p.dueDateErrors l proposed = .ok objections) :
    p.renewalErrors l proposed = .ok (objections ++ p.limitObjections l) := by
  have hl : (if p.reachedRenewalLimit l then [p.violation renewalLimitReached] else []) = p.limitObjections l := by
    simp [limitObjections, reachedRenewalLimit]
  simp only [renewalErrors, h, hl]
  rfl

/-! ## The decision -/

theorem renewByRule_refused {proposed : Outcome DateTime} {errors : List Violation}
    (h : p.renewalDueDate l now = .ok proposed) (he : p.renewalErrors l proposed = .ok errors) (hne : errors ≠ []) :
    p.renewByRule l now = .ok (.failed (.violations errors)) := by
  simp [renewByRule, h, he, hne]

theorem renewByRule_granted {due : DateTime} (h : p.renewalDueDate l now = .ok (.ok due))
    (he : p.renewalErrors l (.ok due) = .ok []) : p.renewByRule l now = .ok (.ok (l.renew due p.id)) := by
  simp [renewByRule, h, he]

theorem renewByRule_fault {f : Fault} (h : p.renewalDueDate l now = .error f) : p.renewByRule l now = .error f := by
  simp [renewByRule, h]

/-- nothing stands against a date that lengthens the loan while the limit is not reached -/
theorem renewalErrors_eq_nil_iff {due : DateTime} :
    p.renewalErrors l (.ok due) = .ok [] ↔ l.LengthenedBy due ∧ p.reachedRenewalLimit l = false := by
  rw [← isSameOrBefore_eq_false_iff]
  rcases h : isSameOrBefore l due with f | same
  · simp [renewalErrors, dueDateErrors, h]
  · cases same <;> simp [renewalErrors, dueDateErrors_eq_ok h]

/-- whatever the schedules hold, a renewal by rule needs a date that lengthens the loan, and a limit not yet reached -/
theorem renewByRule_eq_ok {l' : Loan} :
    p.renewByRule l now = .ok (.ok l') ↔
      ∃ due, p.renewalDueDate l now = .ok (.ok due) ∧ l.LengthenedBy due ∧ p.reachedRenewalLimit l = false ∧
        l' = l.renew due p.id := by
  constructor
  · intro h
    obtain ⟨proposed, hproposed, h⟩ := bind_eq_ok.1 h
    obtain ⟨errors, herrors, h⟩ := bind_eq_ok.1 h
    cases errors with
    | cons e es => cases h
    | nil =>
      cases proposed with
      | failed c => cases h
      | ok due =>
        obtain ⟨hlong, hlimit⟩ := renewalErrors_eq_nil_iff.1 herrors
        cases h
        exact ⟨due, hproposed, hlong, hlimit, rfl⟩
  · rintro ⟨due, hproposed, hlong, hlimit, rfl⟩
    exact renewByRule_granted hproposed (renewalErrors_eq_nil_iff.2 ⟨hlong, hlimit⟩)

theorem renewal_eq_renewByRule (hl : p.loanable = true) (hr : p.renewable = true) :
    p.renewal l now = p.renewByRule l now := by
  simp [renewal, hl, hr]

/-- **When a renewal succeeds.** The policy lends and renews, proposes a date that lengthens the loan, and its limit is
not yet reached; the loan then takes that date. -/
theorem renewal_eq_ok {l' : Loan} :
    p.renewal l now = .ok (.ok l') ↔
      p.loanable = true ∧ p.renewable = true ∧
        ∃ due, p.renewalDueDate l now = .ok (.ok due) ∧ l.LengthenedBy due ∧ p.reachedRenewalLimit l = false ∧
          l' = l.renew due p.id := by
  rw [← renewByRule_eq_ok]
  unfold renewal
  cases p.loanable <;> cases p.renewable <;> simp

/-- **A renewal is refused for exactly the rules against it.** A policy that does not lend says so and nothing else,
then one that does not renew. Otherwise the refusal lists what stands against the due date and then the limit, and with
an empty list the loan is renewed to the proposed date. A fault of the calculation is a server error. -/
theorem renew_decides (p : LoanPolicy) (hp : p.SchedulesAware) (l : Loan) (systemDate : Option DateTime) :
    let now := systemDate.map DateTime.ensureAware
    let result := (p.renew l systemDate).value
    (p.loanable = false → result = .failed (.violations [p.violation itemNotLoanable])) ∧
    (p.loanable = true → p.renewable = false → result = .failed (.violations [p.violation loanNotRenewable])) ∧
    (p.loanable = true → p.renewable = true →
      (∀ f, p.renewalDueDate l now = .error f → result = .failed (.serverError f.report)) ∧
      ∀ proposed, p.renewalDueDate l now = .ok proposed →
        ∃ objections, p.DateObjections l proposed objections ∧
          (objections ++ p.limitObjections l ≠ [] →
            result = .failed (.violations (objections ++ p.limitObjections l))) ∧
          (objections ++ p.limitObjections l = [] →
            ∃ due h, proposed = .ok due ∧ result = .ok (l.renewedTo due h p.id "renewed" none))) := by
  intro now result
  have hnow : Zoned now := zoned_map_ensureAware systemDate
  have hresult : result = Outcome.settle (p.renewal l now) := rfl
  refine ⟨fun hl => ?_, fun hl hr => ?_, fun hl hr => ?_⟩
  · simp [hresult, renewal, hl]
  · simp [hresult, renewal, hl, hr]
  · rw [renewal_eq_renewByRule hl hr] at hresult
    refine ⟨fun f hf => ?_, fun proposed hproposed => ?_⟩
    · rw [hresult, renewByRule_fault hf, Outcome.settle_error]
    · obtain ⟨objections, hobj, hdate⟩ := dueDateErrors_eq hp hnow hproposed
      have herrors := renewalErrors_eq hdate
      refine ⟨objections, hobj, fun hne => ?_, fun hnil => ?_⟩
      · rw [hresult, renewByRule_refused hproposed herrors hne, Outcome.settle_ok]
      · rw [hnil] at herrors
        -- without objections the calculation gave a due date: a failure would have been one
        cases hobj with
        | refused hne => exact absurd (List.append_eq_nil_iff.1 hnil).1 hne
        | notLonger hold hle => cases (List.append_eq_nil_iff.1 hnil).1
        | longer hlong =>
          have hdue := hp.renewalDueDate hnow hproposed
          exact ⟨_, hdue, rfl, by
            rw [hresult, renewByRule_granted hproposed herrors, Outcome.settle_ok, l.renew_eq hdue]⟩

/-- a rolling policy for loans of January 2024, which renews once -/
def januaryPolicy : LoanPolicy :=
  { id := some "policy-1", loanable := true, renewable := true, profileId := some "Rolling",
    checkoutPeriod := .of .days 14, renewalLimit := 1, renewFromId := some "CURRENT_DUE_DATE",
    checkoutSchedule := .configured none none
      [⟨.utcDay 2024 1 1, .utcDay 2024 1 31, .utcDay 2024 2 15⟩] }

/-- a loan of March 2024 that was renewed once -/
def marchLoan : Loan :=
  { Loan.of "loan-1" "item-1" "user-1" (some (.utcDay 2024 3 1)) (some (.utcDay 2024 3 15)) none with
    renewalCount := 1 }

/-- both rules are told: the loan lies outside the schedule, and it is at the limit -/
theorem renew_january_march :
    januaryPolicy.SchedulesAware ∧
      (januaryPolicy.renew marchLoan (some (.utcDay 2024 3 10))).value =
        .failed (.violations [januaryPolicy.violation DueDateRule.renewalOutsideSchedule,
          januaryPolicy.violation renewalLimitReached]) := by
  have hp : januaryPolicy.SchedulesAware := by decide
  refine ⟨hp, ?_⟩
  obtain ⟨-, -, h⟩ := renew_decides januaryPolicy hp marchLoan (some (.utcDay 2024 3 10))
  have hproposed : januaryPolicy.renewalDueDate marchLoan (some (.utcDay 2024 3 10)) =
      .ok (.failed (.violations [januaryPolicy.violation DueDateRule.renewalOutsideSchedule])) := by decide +kernel
  obtain ⟨objections, hobj, hrefused, -⟩ := (h rfl rfl).2 _ hproposed
  cases hobj
  exact hrefused (by simp)

end LoanPolicy

end Lending
