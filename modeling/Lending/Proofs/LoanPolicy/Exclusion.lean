/-
Renewal and override of one loan.

Both ask the same calculation and the same limit. A loan that can be renewed is never renewed by an override, whatever date
the operator gives (`renew_excludes_override`). The converse has exceptions: an override is turned away as unexpected where
a renewal succeeds, and besides where neither of the two helps (`overrideRenewal_unexpected_iff`), because the profile is
unknown or the proposed date does not lengthen a loan that is below its limit.
-/
import Lending.Proofs.LoanPolicy.Override

namespace Lending.LoanPolicy

variable {p : LoanPolicy} {l l' : Loan} {now override : Option DateTime} {comment : Option Text}

/-! ## A renewal leaves no case for an override -/

/-- where a renewal succeeds, an override finds none of its cases -/
theorem overriding_of_renewal (h : p.renewal l now = .ok (.ok l')) (override : Option DateTime)
    (comment : Option Text) :
    p.overriding l now override comment = .ok (.violation (p.violation overrideUnexpected)) := by
  obtain ⟨hl, hr, due, hproposed, -, hlimit, -⟩ := renewal_eq_ok.1 h
  rw [overriding_proposed hl hr hproposed, hlimit]
  rfl

/-- **A loan is renewed in one way only.** Where a renewal succeeds, an override is refused with the single violation that
it is unexpected, for every date and comment of the operator; so the two never both succeed. -/
theorem renew_excludes_override (p : LoanPolicy) (l : Loan) (systemDate override : Option DateTime)
    (comment : Option Text) :
    let renewed := (p.renew l systemDate).value
    let overridden := (p.overrideRenewal l systemDate override comment).value
    (renewed.isOk = true → overridden = .failed (.violations [p.violation overrideUnexpected])) ∧
    ¬ (renewed.isOk = true ∧ overridden.isOk = true) := by
  intro renewed overridden
  have hrefused : renewed.isOk = true → overridden = .failed (.violations [p.violation overrideUnexpected]) := by
    intro hok
    obtain ⟨l', hl'⟩ := Outcome.settle_isOk_iff.1 hok
    exact Outcome.settle_eq_violations.2 (overriding_of_renewal hl' _ comment)
  refine ⟨hrefused, ?_⟩
  rintro ⟨hrenewed, hoverridden⟩
  rw [hrefused hrenewed] at hoverridden
  cases hoverridden

/-- a policy for two weeks that renews twice and has no schedule -/
def twoWeekPolicy : LoanPolicy := { januaryPolicy with checkoutSchedule := .unconfigured, renewalLimit := 2 }

/-- a loan that can be renewed is not renewed by an override, not even to a date that the operator gives -/
theorem overrideRenewal_march_renewable :
    (twoWeekPolicy.renew marchLoan (some (.utcDay 2024 3 10))).value.isOk = true ∧
      (twoWeekPolicy.overrideRenewal marchLoan (some (.utcDay 2024 3 10)) (some (.utcDay 2024 4 30)) none).value =
        .failed (.violations [twoWeekPolicy.violation overrideUnexpected]) := by
  obtain ⟨h, -⟩ := renew_excludes_override twoWeekPolicy marchLoan (some (.utcDay 2024 3 10))
    (some (.utcDay 2024 4 30)) none
  have hok : (twoWeekPolicy.renew marchLoan (some (.utcDay 2024 3 10))).value.isOk = true := by decide +kernel
  exact ⟨hok, h hok⟩

/-! ## Loans that neither of the two renews -/

/-- why a policy that lends and renews turns an override away as unexpected although a renewal fails -/
inductive RefusesBoth (p : LoanPolicy) (l : Loan) (now : Option DateTime) : Prop
  | unknownProfile : p.isRolling = false → p.isFixed = false → RefusesBoth p l now
  | notLonger {due old : DateTime} :
    p.renewalDueDate l now = .ok (.ok due) → p.reachedRenewalLimit l = false → l.dueDate = some old →
    due.NotAfter old → RefusesBoth p l now
  | unordered {due : DateTime} {f : Fault} :
    p.renewalDueDate l now = .ok (.ok due) → p.reachedRenewalLimit l = false → isSameOrBefore l due = .error f →
    RefusesBoth p l now

/-- a policy without a known profile proposes no date -/
theorem renewalDueDate_unknownProfile (hr : p.isRolling = false) (hf : p.isFixed = false) (l : Loan)
    (now : Option DateTime) : ∃ c, p.renewalDueDate l now = .ok (.failed c) := by
  unfold renewalDueDate renewalRule
  simp only [isRolling, isFixed] at hr hf
  cases hs : p.hasLoansSection with
  | false => exact ⟨_, rfl⟩
  | true =>
    cases hp : p.profile? with
    | none => exact ⟨_, rfl⟩
    | some profile => cases profile <;> simp [hs, hp] at hr hf

/-- where a renewal proposes a date and the limit is not reached, either the renewal succeeds or neither of the two -/
theorem renewal_or_refusesBoth {due : DateTime} (hl : p.loanable = true) (hr : p.renewable = true)
    (hproposed : p.renewalDueDate l now = .ok (.ok due)) (hlimit : p.reachedRenewalLimit l = false) :
    (∃ l', p.renewal l now = .ok (.ok l')) ∨ p.RefusesBoth l now := by
  rcases h : isSameOrBefore l due with f | same
  · exact .inr (.unordered hproposed hlimit h)
  · cases same with
    | false => exact .inl ⟨_, renewal_eq_ok.2 ⟨hl, hr, due, hproposed, isSameOrBefore_eq_false_iff.1 h, hlimit, rfl⟩⟩
    | true =>
      obtain ⟨old, hold, hle⟩ := isSameOrBefore_eq_true_iff.1 h
      exact .inr (.notLonger hproposed hlimit hold hle)

/-- a loan that neither of the two renews is not renewed -/
theorem RefusesBoth.renewal_ne_ok (h : p.RefusesBoth l now) : p.renewal l now ≠ .ok (.ok l') := by
  intro hok
  obtain ⟨-, -, due, hdue, hlong, -, -⟩ := renewal_eq_ok.1 hok
  have hsame := isSameOrBefore_eq_false_iff.2 hlong
  cases h with
  | unknownProfile hr hf =>
    obtain ⟨c, hc⟩ := renewalDueDate_unknownProfile hr hf l now
    rw [hc] at hdue
    cases hdue
  | notLonger hproposed hlimit hold hle =>
    rw [hdue] at hproposed
    cases hproposed
    rw [isSameOrBefore_eq_true_iff.2 ⟨_, hold, hle⟩] at hsame
    cases hsame
  | unordered hproposed hlimit hfault =>
    rw [hdue] at hproposed
    cases hproposed
    rw [hfault] at hsame
    cases hsame

theorem RefusesBoth.overriding (h : p.RefusesBoth l now) (hl : p.loanable = true) (hr : p.renewable = true) :
    p.overriding l now override comment = .ok (.violation (p.violation overrideUnexpected)) := by
  cases h with
  | unknownProfile hrolling hf =>
    obtain ⟨c, hc⟩ := renewalDueDate_unknownProfile hrolling hf l now
    rw [overriding_failed hl hr hc hf, hrolling]
    rfl
  | notLonger hproposed hlimit _ _ =>
    rw [overriding_proposed hl hr hproposed, hlimit]
    rfl
  | unordered hproposed hlimit _ =>
    rw [overriding_proposed hl hr hproposed, hlimit]
    rfl

/-! ## When an override is unexpected -/

/-- the calculation without the schedule has other reasons for giving no date -/
theorem overrideRule_failed_ne {c : Cause} (h : (p.overrideRule now).dueDate p.violation l = .ok (.failed c)) :
    c ≠ .violations [p.violation overrideUnexpected] := by
  rcases Outcome.andThen_eq_failed.1 h with h | ⟨base, -, h⟩
  · rcases DueDateRule.renewalBase_failed_cases (Except.ok.inj h) with rfl | rfl
    · simp [violation]
    · simp [violation, Violation.asConfiguration]
  · simp only [if_true] at h
    obtain ⟨problem, message, -, -, rfl⟩ := Period.addTo_eq_failed.1 h
    simp [violation, Violation.asConfiguration]

/-- the two messages begin with different letters -/
theorem renewalChangesNothing_ne : Text.ofString renewalChangesNothing ≠ Text.ofString overrideUnexpected := by
  have hr : (Text.ofString (renewalChangesNothing ++ "")).points.head? = some (.char 'r') := Text.head?_ofString rfl _
  have ho : (Text.ofString overrideUnexpected).points.head? = some (.char 'O') := Text.head?_ofString rfl _
  rw [String.append_empty] at hr
  intro h
  rw [h, ho] at hr
  cases hr

theorem overrideByRule_ne_unexpected {calculated : Outcome DateTime}
    (hc : ∀ c, calculated = .failed c → c ≠ .violations [p.violation overrideUnexpected]) :
    p.overrideByRule l calculated comment ≠ .ok (.violation (p.violation overrideUnexpected)) := by
  cases calculated with
  | failed c => simpa [overrideByRule, Outcome.andThen_ok] using hc c rfl
  | ok due =>
    rcases h : isSameOrBefore l due with f | same
    · simp [overrideByRule, Outcome.andThen_ok, h]
    · cases same
      · simp [overrideByRule_granted h]
      · simp [overrideByRule_refused h, violation, renewalChangesNothing_ne]

/-- an override that is refused as unexpected comes from a policy that lends and renews, where a renewal succeeds or
neither of the two does -/
theorem renewal_or_refusesBoth_of_overriding
    (h : p.overriding l now override comment = .ok (.violation (p.violation overrideUnexpected))) :
    (∃ l', p.renewal l now = .ok (.ok l')) ∨ p.loanable = true ∧ p.renewable = true ∧ p.RefusesBoth l now := by
  by_cases hneeds : p.NeedsDate l now
  · rw [overriding_needsDate hneeds] at h
    cases override <;> simp [overrideTo, Outcome.refuse, violation] at h
  obtain ⟨hl, hr, hfixed⟩ := not_needsDate hneeds
  rcases hproposed : p.renewalDueDate l now with f | due | c
  · rw [overriding_fault hl hr hproposed] at h
    cases h
  · rw [overriding_proposed hl hr hproposed] at h
    split at h
    · exact absurd h (overrideByRule_ne_unexpected fun c hc => by cases hc)
    · next hlimit =>
      exact (renewal_or_refusesBoth hl hr hproposed (Bool.eq_false_iff.2 hlimit)).imp_right fun hb => ⟨hl, hr, hb⟩
  · rw [overriding_failed hl hr hproposed (hfixed c hproposed)] at h
    split at h
    · obtain ⟨calculated, hcalculated, h⟩ := bind_eq_ok.1 h
      refine absurd h (overrideByRule_ne_unexpected fun c' hc' => ?_)
      exact overrideRule_failed_ne (hc' ▸ hcalculated)
    · next hrolling =>
      exact .inr ⟨hl, hr, .unknownProfile (Bool.eq_false_iff.2 hrolling) (hfixed c hproposed)⟩

/-- **When an override is turned away as unexpected.** Exactly where a renewal of the loan succeeds, or where the policy
lends and renews and refuses both; in the latter case no renewal succeeds. -/
theorem overrideRenewal_unexpected_iff (p : LoanPolicy) (l : Loan) (systemDate override : Option DateTime)
    (comment : Option Text) :
    let now := systemDate.map DateTime.ensureAware
    let renewed := (p.renew l systemDate).value
    ((p.overrideRenewal l systemDate override comment).value =
        .failed (.violations [p.violation overrideUnexpected]) ↔
      renewed.isOk = true ∨ p.loanable = true ∧ p.renewable = true ∧ p.RefusesBoth l now) ∧
    ¬ (renewed.isOk = true ∧ p.RefusesBoth l now) := by
  intro now renewed
  have hrenewed : renewed.isOk = true ↔ ∃ l', p.renewal l now = .ok (.ok l') := Outcome.settle_isOk_iff
  have hoverridden : (p.overrideRenewal l systemDate override comment).value =
      .failed (.violations [p.violation overrideUnexpected]) ↔
        p.overriding l now (override.map DateTime.ensureAware) comment =
          .ok (.violation (p.violation overrideUnexpected)) := Outcome.settle_eq_violations
  rw [hoverridden, hrenewed]
  refine ⟨⟨renewal_or_refusesBoth_of_overriding, ?_⟩, ?_⟩
  · rintro (⟨l', hl'⟩ | ⟨hl, hr, hboth⟩)
    · exact overriding_of_renewal hl' _ comment
    · exact hboth.overriding hl hr
  · rintro ⟨⟨l', hl'⟩, hboth⟩
    exact hboth.renewal_ne_ok hl'

/-- a policy for two weeks whose profile is not known -/
def indefinitePolicy : LoanPolicy := { twoWeekPolicy with profileId := some "Indefinite" }

/-- a policy that renews for one day from the day of the renewal -/
def oneDayPolicy : LoanPolicy :=
  { twoWeekPolicy with checkoutPeriod := .of .days 1, renewFromId := some "SYSTEM_DATE" }

/-- an override is turned away as unexpected where a renewal fails as well: for the unknown profile, and for a date
before the one on which the loan is due -/
theorem overrideRenewal_renew_refused :
    (indefinitePolicy.overrideRenewal marchLoan (some (.utcDay 2024 3 10)) (some (.utcDay 2024 4 30)) none).value =
        .failed (.violations [indefinitePolicy.violation overrideUnexpected]) ∧
      (indefinitePolicy.renew marchLoan (some (.utcDay 2024 3 10))).value =
        .failed (.violations [(indefinitePolicy.violation
          (DueDateRule.unknownProfile (some "Indefinite") true)).asConfiguration]) ∧
      (oneDayPolicy.overrideRenewal marchLoan (some (.utcDay 2024 3 10)) (some (.utcDay 2024 4 30)) none).value =
        .failed (.violations [oneDayPolicy.violation overrideUnexpected]) ∧
      (oneDayPolicy.renew marchLoan (some (.utcDay 2024 3 10))).value =
        .failed (.violations [oneDayPolicy.violation renewalChangesNothing]) := by
  exact ⟨rfl, rfl, rfl, rfl⟩

end Lending.LoanPolicy
