/-
How a renewal at an operator's word is decided.

`overrideRenewal_decides`: such a renewal succeeds in three cases only (`OverridesTo`). The operator's date is taken
where the policy has no renewals or no date of its own, a rolling policy leaves its schedule aside, and a date that only
the limit on renewals stood against is granted.
-/
import Lending.Proofs.LoanPolicy.Renewal

namespace Lending.LoanPolicy

variable {p : LoanPolicy} {l l' : Loan} {now override : Option DateTime} {comment : Option Text}

/-! ## The cases -/

/-- whether only the operator can give the due date: the policy does not lend or does not renew, or it is fixed and its
schedule gives none -/
def NeedsDate (p : LoanPolicy) (l : Loan) (now : Option DateTime) : Prop :=
  p.loanable = false ∨ p.renewable = false ∨
    (p.isFixed = true ∧ ∃ c, p.renewalDueDate l now = .ok (.failed c))

/-- the due dates to which an operator's word renews a loan -/
inductive OverridesTo (p : LoanPolicy) (l : Loan) (now override : Option DateTime) : DateTime → Prop
  | toGivenDate {given : DateTime} :
    p.NeedsDate l now → override = some given → OverridesTo p l now override given.ensureAware
  | pastSchedule {due : DateTime} {c : Cause} :
    p.loanable = true → p.renewable = true → p.isRolling = true → p.renewalDueDate l now = .ok (.failed c) →
    (p.overrideRule now).dueDate p.violation l = .ok (.ok due) → l.LengthenedBy due → OverridesTo p l now override due
  | pastLimit {due : DateTime} :
    p.loanable = true → p.renewable = true → p.renewalDueDate l now = .ok (.ok due) → p.unlimitedRenewals = false →
    p.renewalLimit ≤ l.renewalCount → l.LengthenedBy due → OverridesTo p l now override due

/-- a profile is one or the other -/
theorem isFixed_of_isRolling (h : p.isRolling = true) : p.isFixed = false := by
  simp only [isRolling, Bool.and_eq_true, decide_eq_true_eq] at h
  simp [isFixed, h.2]

theorem reachedRenewalLimit_iff :
    p.reachedRenewalLimit l = true ↔ p.unlimitedRenewals = false ∧ p.renewalLimit ≤ l.renewalCount := by
  simp [reachedRenewalLimit]

/-- where an override is not left to the operator, the policy lends, renews and is not a fixed one without a date -/
theorem not_needsDate (h : ¬ p.NeedsDate l now) :
    p.loanable = true ∧ p.renewable = true ∧ ∀ c, p.renewalDueDate l now = .ok (.failed c) → p.isFixed = false := by
  simp only [NeedsDate, not_or, not_and, not_exists, Bool.not_eq_false] at h
  exact ⟨h.1, h.2.1, fun c hc => Bool.eq_false_iff.2 fun hf => h.2.2 hf c hc⟩

/-! ## The branches -/

theorem overrideTo_eq_ok :
    p.overrideTo l (override.map DateTime.ensureAware) comment = .ok l' ↔
      ∃ given, override = some given ∧
        l' = l.renewedTo given.ensureAware (given.isAware_ensureAware _) p.id "renewedThroughOverride" comment := by
  cases override with
  | none => simp [overrideTo]
  | some given =>
    simp [overrideTo, l.overrideRenewal_eq (given.isAware_ensureAware .utc), eq_comm]

theorem overrideByRule_granted {due : DateTime} (h : isSameOrBefore l due = .ok false) :
    p.overrideByRule l (.ok due) comment = .ok (.ok (l.overrideRenewal due p.id comment)) := by
  simp [overrideByRule, Outcome.andThen_ok, h]

theorem overrideByRule_refused {due : DateTime} (h : isSameOrBefore l due = .ok true) :
    p.overrideByRule l (.ok due) comment = .ok (.violation (p.violation renewalChangesNothing)) := by
  simp [overrideByRule, Outcome.andThen_ok, h]

/-- whatever the schedules hold, a calculated date is taken exactly if it lengthens the loan -/
theorem overrideByRule_eq_ok {calculated : Outcome DateTime} :
    p.overrideByRule l calculated comment = .ok (.ok l') ↔
      ∃ due, calculated = .ok due ∧ l.LengthenedBy due ∧ l' = l.overrideRenewal due p.id comment := by
  cases calculated with
  | failed c => simp [overrideByRule, Outcome.andThen_ok]
  | ok due =>
    simp only [← isSameOrBefore_eq_false_iff]
    rcases h : isSameOrBefore l due with f | same
    · simp [overrideByRule, Outcome.andThen_ok, h]
    · cases same
      · simp [overrideByRule_granted h, h, eq_comm]
      · simp [overrideByRule_refused h, h]

/-- a calculated date that lengthens the loan is taken -/
theorem overrideByRule_longer {due : DateTime} (h : due.isAware = true) (hlong : l.LengthenedBy due) :
    p.overrideByRule l (.ok due) comment =
      .ok (.ok (l.renewedTo due h p.id "renewedThroughOverride" comment)) :=
  overrideByRule_eq_ok.2 ⟨due, rfl, hlong, (l.overrideRenewal_eq h p.id comment).symm⟩

/-- a calculated date that is taken lengthens the loan -/
theorem longer_of_overrideByRule {calculated : Outcome DateTime}
    (hz : ∀ due, calculated = .ok due → due.isAware = true)
    (hok : p.overrideByRule l calculated comment = .ok (.ok l')) :
    ∃ due h, calculated = .ok due ∧ l.LengthenedBy due ∧
      l' = l.renewedTo due h p.id "renewedThroughOverride" comment := by
  obtain ⟨due, rfl, hlong, rfl⟩ := overrideByRule_eq_ok.1 hok
  exact ⟨due, hz due rfl, rfl, hlong, l.overrideRenewal_eq (hz due rfl) p.id comment⟩

/-- an override that is left to the operator takes the date that the operator gives -/
theorem overriding_needsDate (hneeds : p.NeedsDate l now) :
    p.overriding l now override comment = .ok (p.overrideTo l override comment) := by
  unfold overriding
  by_cases hlr : (!p.loanable || !p.renewable) = true
  · rw [if_pos hlr]
  · rw [if_neg hlr]
    simp only [Bool.or_eq_true, Bool.not_eq_true', not_or, Bool.not_eq_false] at hlr
    rcases hneeds with hl | hr | ⟨hf, c, hc⟩
    · rw [hl] at hlr
      cases hlr.1
    · rw [hr] at hlr
      cases hlr.2
    · simp [hc, hf]

/-- where the policy lends and renews, a proposed date goes by the limit alone -/
theorem overriding_proposed {due : DateTime} (hl : p.loanable = true) (hr : p.renewable = true)
    (h : p.renewalDueDate l now = .ok (.ok due)) :
    p.overriding l now override comment =
      if p.reachedRenewalLimit l then p.overrideByRule l (.ok due) comment
      else .ok (.violation (p.violation overrideUnexpected)) := by
  simp [overriding, hl, hr, h]

/-- where the policy lends, renews and proposes no date, a rolling one calculates again without its schedule -/
theorem overriding_failed {c : Cause} (hl : p.loanable = true) (hr : p.renewable = true)
    (h : p.renewalDueDate l now = .ok (.failed c)) (hf : p.isFixed = false) :
    p.overriding l now override comment =
      if p.isRolling then do p.overrideByRule l (← (p.overrideRule now).dueDate p.violation l) comment
      else .ok (.violation (p.violation overrideUnexpected)) := by
  simp [overriding, hl, hr, h, hf]

theorem overriding_fault {f : Fault} (hl : p.loanable = true) (hr : p.renewable = true)
    (h : p.renewalDueDate l now = .error f) : p.overriding l now override comment = .error f := by
  simp [overriding, hl, hr, h]

/-- an override that succeeds renews the loan to some date -/
theorem exists_due_of_overriding (h : p.overriding l now override comment = .ok (.ok l')) :
    ∃ due, l' = l.overrideRenewal due p.id comment := by
  by_cases hneeds : p.NeedsDate l now
  · rw [overriding_needsDate hneeds] at h
    cases override with
    | none => cases h
    | some given =>
      cases h
      exact ⟨given, rfl⟩
  obtain ⟨hl, hr, hfixed⟩ := not_needsDate hneeds
  rcases hproposed : p.renewalDueDate l now with f | due | c
  · rw [overriding_fault hl hr hproposed] at h
    cases h
  · rw [overriding_proposed hl hr hproposed] at h
    split at h
    · obtain ⟨due, -, -, rfl⟩ := overrideByRule_eq_ok.1 h
      exact ⟨due, rfl⟩
    · cases h
  · rw [overriding_failed hl hr hproposed (hfixed c hproposed)] at h
    split at h
    · obtain ⟨calculated, -, h⟩ := bind_eq_ok.1 h
      obtain ⟨due, -, -, rfl⟩ := overrideByRule_eq_ok.1 h
      exact ⟨due, rfl⟩
    · cases h

/-! ## The decision -/

/-- each case of `OverridesTo` renews the loan once more -/
theorem overriding_of_overridesTo {due : DateTime} (hcase : p.OverridesTo l now override due)
    (h : due.isAware = true) :
    p.overriding l now (override.map DateTime.ensureAware) comment =
      .ok (.ok (l.renewedTo due h p.id "renewedThroughOverride" comment)) := by
  cases hcase with
  | toGivenDate hneeds ho =>
    rw [overriding_needsDate hneeds]
    exact congrArg Except.ok (overrideTo_eq_ok.2 ⟨_, ho, rfl⟩)
  | pastSchedule hl hr hrolling hfailed hdue hlong =>
    rw [overriding_failed hl hr hfailed (isFixed_of_isRolling hrolling), if_pos hrolling, hdue]
    exact overrideByRule_longer h hlong
  | pastLimit hl hr hproposed hunlimited hlimit hlong =>
    rw [overriding_proposed hl hr hproposed, if_pos (reachedRenewalLimit_iff.2 ⟨hunlimited, hlimit⟩)]
    exact overrideByRule_longer h hlong

/-- an override succeeds in the cases of `OverridesTo` only, and renews the loan once more -/
theorem overridesTo_of_overriding (hp : p.SchedulesAware) (hnow : Zoned now)
    (h : p.overriding l now (override.map DateTime.ensureAware) comment = .ok (.ok l')) :
    ∃ due h, p.OverridesTo l now override due ∧
      l' = l.renewedTo due h p.id "renewedThroughOverride" comment := by
  by_cases hneeds : p.NeedsDate l now
  · rw [overriding_needsDate hneeds] at h
    obtain ⟨given, ho, rfl⟩ := overrideTo_eq_ok.1 (Except.ok.inj h)
    exact ⟨_, _, .toGivenDate hneeds ho, rfl⟩
  -- the policy lends and renews: what the ordinary calculation says chooses the branch
  obtain ⟨hl, hr, hfixed⟩ := not_needsDate hneeds
  cases hproposed : p.renewalDueDate l now with
  | error f =>
    rw [overriding_fault hl hr hproposed] at h
    cases h
  | ok proposed =>
    cases proposed with
    | ok due =>
      rw [overriding_proposed hl hr hproposed] at h
      split at h
      · next hreached =>
        obtain ⟨_, hdue, hd, hlong, rfl⟩ :=
          longer_of_overrideByRule (fun d hd => by cases hd; exact hp.renewalDueDate hnow hproposed) h
        cases hd
        obtain ⟨hunlimited, hlimit⟩ := reachedRenewalLimit_iff.1 hreached
        exact ⟨_, hdue, .pastLimit hl hr hproposed hunlimited hlimit hlong, rfl⟩
      · cases h
    | failed c =>
      rw [overriding_failed hl hr hproposed (hfixed c hproposed)] at h
      split at h
      · next hrolling =>
        obtain ⟨calculated, hcalculated, h⟩ := bind_eq_ok.1 h
        obtain ⟨due, hdue, rfl, hlong, rfl⟩ :=
          longer_of_overrideByRule (fun d hd => (hp.overrideRule hnow).dueDate (hd ▸ hcalculated)) h
        exact ⟨due, hdue, .pastSchedule hl hr hrolling hproposed hcalculated hlong, rfl⟩
      · cases h

/-- every case of `OverridesTo` gives a date with a zone -/
theorem OverridesTo.isAware (hp : p.SchedulesAware) (hnow : Zoned now) {due : DateTime}
    (h : p.OverridesTo l now override due) : due.isAware = true := by
  cases h with
  | toGivenDate _ _ => exact DateTime.isAware_ensureAware _ _
  | pastSchedule _ _ _ _ hdue _ => exact (hp.overrideRule hnow).dueDate hdue
  | pastLimit _ _ hdue _ _ _ => exact hp.renewalDueDate hnow hdue

/-! ## The limit on renewals -/

/-- the same policy without a limit on renewals -/
def unlimited (p : LoanPolicy) : LoanPolicy := { p with unlimitedRenewals := true }

theorem limitObjections_unlimited : p.unlimited.limitObjections l = [] := rfl

/-- beyond the limit, an override gives the date, or the refusal, of a renewal that knows no limit -/
theorem overriding_pastLimit (hp : p.SchedulesAware) (hnow : Zoned now) {due : DateTime} (hl : p.loanable = true)
    (hr : p.renewable = true) (hproposed : p.renewalDueDate l now = .ok (.ok due))
    (hreached : p.reachedRenewalLimit l = true) :
    (·.dueDate) <$> Outcome.settle (p.overriding l now override comment) =
      (·.dueDate) <$> Outcome.settle (p.unlimited.renewByRule l now) := by
  rw [overriding_proposed hl hr hproposed, if_pos hreached]
  have hfree : p.unlimited.renewalDueDate l now = .ok (.ok due) := hproposed
  rcases isSameOrBefore_cases l (hp.renewalDueDate hnow hproposed) with ⟨hs, hlong⟩ | ⟨hs, -⟩
  · have herrors : p.unlimited.renewalErrors l (.ok due) = .ok [] := by
      rw [renewalErrors_eq (dueDateErrors_eq_ok hs), limitObjections_unlimited, List.append_nil]
      rfl
    rw [overrideByRule_granted hs, renewByRule_granted hfree herrors]
    rfl
  · have herrors : p.unlimited.renewalErrors l (.ok due) = .ok [p.violation renewalChangesNothing] := by
      rw [renewalErrors_eq (dueDateErrors_eq_ok hs), limitObjections_unlimited, List.append_nil]
      rfl
    rw [overrideByRule_refused hs, renewByRule_refused hfree herrors (List.cons_ne_nil _ _)]
    rfl

/-- **An override succeeds in its three cases and in no other.** It renews the loan to a date exactly if `OverridesTo`
has that date, and changes what a renewal changes. Where the limit stood against a renewal, the date or the refusal is
that of the policy without the limit. -/
theorem overrideRenewal_decides (p : LoanPolicy) (hp : p.SchedulesAware) (l : Loan)
    (systemDate override : Option DateTime) (comment : Option Text) :
    let now := systemDate.map DateTime.ensureAware
    let result := (p.overrideRenewal l systemDate override comment).value
    (∀ due, (∃ l', result = .ok l' ∧ l'.dueDate = some due) ↔ p.OverridesTo l now override due) ∧
    (∀ l', result = .ok l' → ∃ due h, l' = l.renewedTo due h p.id "renewedThroughOverride" comment) ∧
    ∀ due, p.loanable = true → p.renewable = true → p.renewalDueDate l now = .ok (.ok due) →
      p.unlimitedRenewals = false → p.renewalLimit ≤ l.renewalCount →
      (·.dueDate) <$> result = (·.dueDate) <$> (p.unlimited.renew l systemDate).value := by
  intro now result
  have hnow : Zoned now := zoned_map_ensureAware systemDate
  have hresult : ∀ l', result = .ok l' →
      p.overriding l now (override.map DateTime.ensureAware) comment = .ok (.ok l') :=
    fun l' h => Outcome.settle_eq_ok.1 h
  refine ⟨fun due => ⟨?_, fun hcase => ?_⟩, fun l' hl' => ?_, fun due hl hr hproposed hunlimited hlimit => ?_⟩
  · rintro ⟨l', hl', hdue⟩
    obtain ⟨due', h, hcase, rfl⟩ := overridesTo_of_overriding hp hnow (hresult l' hl')
    cases hdue
    exact hcase
  · have h := hcase.isAware hp hnow
    exact ⟨_, Outcome.settle_eq_ok.2 (overriding_of_overridesTo hcase h), rfl⟩
  · obtain ⟨due, h, -, rfl⟩ := overridesTo_of_overriding hp hnow (hresult l' hl')
    exact ⟨due, h, rfl⟩
  · have hfree : p.unlimited.renewal l now = p.unlimited.renewByRule l now := renewal_eq_renewByRule hl hr
    have hreached := reachedRenewalLimit_iff.2 ⟨hunlimited, hlimit⟩
    refine (overriding_pastLimit hp hnow hl hr hproposed hreached).trans ?_
    rw [← hfree]
    rfl

/-- a loan outside the schedule of a rolling policy is renewed past it -/
theorem overrideRenewal_january_march :
    januaryPolicy.SchedulesAware ∧
      ∃ l', (januaryPolicy.overrideRenewal marchLoan (some (.utcDay 2024 3 10)) none none).value = .ok l' ∧
        l'.dueDate = some (.utcDay 2024 3 29) := by
  have hp : januaryPolicy.SchedulesAware := by decide
  obtain ⟨h, -, -⟩ := overrideRenewal_decides januaryPolicy hp marchLoan (some (.utcDay 2024 3 10)) none none
  have hfailed : januaryPolicy.renewalDueDate marchLoan (some (.utcDay 2024 3 10)) =
      .ok (.failed (.violations [januaryPolicy.violation DueDateRule.renewalOutsideSchedule])) := by decide +kernel
  have hdue : (januaryPolicy.overrideRule (some (.utcDay 2024 3 10))).dueDate januaryPolicy.violation
      marchLoan = .ok (.ok (.utcDay 2024 3 29)) := by decide +kernel
  refine ⟨hp, (h _).2 (.pastSchedule rfl rfl (by decide) hfailed hdue fun old hold => ?_)⟩
  cases hold
  decide +kernel

/-- a policy for two weeks that no longer lends -/
def unlentPolicy : LoanPolicy := { januaryPolicy with loanable := false, checkoutSchedule := .unconfigured }

/-- a longer due date beyond the limit does not renew a loan of a policy that does not lend: the operator has to give
the date -/
theorem overrideRenewal_unlent :
    unlentPolicy.SchedulesAware ∧
      unlentPolicy.renewalDueDate marchLoan (some (.utcDay 2024 3 10)) =
        .ok (.ok (.utcDay 2024 3 29)) ∧
      unlentPolicy.unlimitedRenewals = false ∧ unlentPolicy.renewalLimit ≤ marchLoan.renewalCount ∧
      marchLoan.LengthenedBy (.utcDay 2024 3 29) ∧
      (unlentPolicy.overrideRenewal marchLoan (some (.utcDay 2024 3 10)) none none).value =
        .refuse overrideDateRequired "dueDate" (some "null") := by
  refine ⟨by decide, by decide +kernel, rfl, by decide, fun old hold => ?_, rfl⟩
  cases hold
  decide +kernel

end Lending.LoanPolicy
