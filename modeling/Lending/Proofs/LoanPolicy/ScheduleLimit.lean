/-
The date by which a schedule limits a loan.

`scheduleLimit` finds, apart from the rules for due dates, the schedule and the date that they go by. It agrees with them
(`scheduleLimit_agrees`): a due date that a rule gives is not after the limit, and is the limit itself under a fixed rule;
where there is no limit, only a rolling rule without a schedule gives a due date.
-/
import Lending.Proofs.LoanPolicy.Exclusion
import Lending.Proofs.LoanPolicy.InitialDueDate

namespace Lending

theorem Zoned.map_ensureAware {d : Option DateTime} (h : Zoned d) : d.map DateTime.ensureAware = d := by
  cases d with
  | none => rfl
  | some x => rw [Option.map_some, DateTime.ensureAware_of_isAware (h x rfl)]

namespace DueDateRule

variable {errorFor : Text → Violation} {l : Loan} {d : DateTime}

/-- whether a rule adds a period and has its schedule for a limit only -/
def isRolling : DueDateRule → Bool
  | rollingCheckOut _ _ | rollingRenewal _ _ _ _ _ => true
  | _ => false

/-- whether a rule takes the due date from its schedule outright -/
def isFixed : DueDateRule → Bool
  | fixedCheckOut _ | fixedRenewal _ _ => true
  | _ => false

/-! ## Due dates within a schedule -/

/-- whether a date is within what a schedule allows for a date of reference: only without a schedule every date is -/
def Within (s : Schedule) (reference : Option DateTime) (d : DateTime) : Prop :=
  s = .unconfigured ∨ ∃ last, s.dueFor reference = .ok (some last) ∧ d.NotAfter last

theorem scheduledDue_eq_ok {s : Schedule} {reference : Option DateTime} {outside : Violation} :
    scheduledDue s reference outside = .ok (.ok d) ↔ s.dueFor reference = .ok (some d) := by
  unfold scheduledDue
  rcases s.dueFor reference with f | _ | due <;> simp

theorem rollingCheckOut_within {period : Period} {limit : Schedule}
    (h : (rollingCheckOut period limit).dueDate errorFor l = .ok (.ok d)) : Within limit l.loanDate d := by
  obtain ⟨due, -, h⟩ := Outcome.andThen_eq_ok.1 h
  exact Schedule.truncate_notAfter h

theorem rollingRenewal_within {now : Option DateTime} {renewFromId : Option Text} {period : Period} {limit : Schedule}
    (h : (rollingRenewal now renewFromId period limit false).dueDate errorFor l = .ok (.ok d)) :
    Within limit l.loanDate d := by
  obtain ⟨base, -, h⟩ := Outcome.andThen_eq_ok.1 h
  obtain ⟨due, -, h⟩ := Outcome.andThen_eq_ok.1 h
  exact Schedule.truncate_notAfter h

end DueDateRule

/-! ## Agreement -/

/-- whether a limit agrees with the due dates that are given by a rule, within the schedule that governs: no due date is
after the limit, and the lack of a limit refuses all of them unless no schedule governs a rolling rule -/
structure LimitAgrees (rule : DueDateRule) (governing : Schedule) (limit : Except Fault (Option DateTime))
    (Gives : DateTime → Prop) : Prop where
  within : ∀ d, Gives d →
    (∃ last, limit = .ok (some last) ∧ d.NotAfter last ∧ (rule.isFixed = true → d = last)) ∨
      (limit = .ok none ∧ governing.isConfigured = false ∧ rule.isRolling = true)
  refused : limit = .ok none → governing.isConfigured = true ∨ rule.isFixed = true → ∀ d, ¬ Gives d

namespace LimitAgrees

variable {rule : DueDateRule} {governing s : Schedule} {limit : Except Fault (Option DateTime)}
  {reference : Option DateTime} {Gives : DateTime → Prop}

/-- a rolling rule agrees with the limit that its schedule sets -/
theorem of_rolling (hr : rule.isRolling = true) (hf : rule.isFixed = false)
    (hwithin : ∀ d, Gives d → DueDateRule.Within s reference d) : LimitAgrees rule s (s.dueFor reference) Gives where
  within d hd := by
    rcases hwithin d hd with rfl | ⟨last, hlast, hle⟩
    · exact .inr ⟨Schedule.dueFor_unconfigured reference, rfl, hr⟩
    · exact .inl ⟨last, hlast, hle, fun h => by rw [hf] at h; cases h⟩
  refused hnone hgoverned d hd := by
    rcases hwithin d hd with rfl | ⟨last, hlast, -⟩
    · rcases hgoverned with hs | hfixed
      · cases hs
      · rw [hf] at hfixed
        cases hfixed
    · rw [hnone] at hlast
      cases hlast

/-- a fixed rule agrees with the limit that its schedule sets, which is the only due date it gives -/
theorem of_fixed (hgives : ∀ d, Gives d → s.dueFor reference = .ok (some d)) :
    LimitAgrees rule governing (s.dueFor reference) Gives where
  within d hd := .inl ⟨d, hgives d hd, d.notAfter_refl, fun _ => rfl⟩
  refused hnone _ d hd := by
    have hsome := hgives d hd
    rw [hnone] at hsome
    cases hsome

/-- a rule that gives no due date agrees with any limit -/
theorem of_refused (hnone : ∀ d, ¬ Gives d) : LimitAgrees rule governing limit Gives where
  within d hd := absurd hd (hnone d)
  refused _ _ := hnone

end LimitAgrees

namespace LoanPolicy

variable {p : LoanPolicy} {l : Loan} {q : Option Queue} {lent now : DateTime} {systemDate : Option DateTime}

/-! ## The schedule and the date of a limit -/

theorem TakesPeriod.profile {period : Period} (h : p.TakesPeriod q period) : p.isRolling = true ∨ p.isFixed = true := by
  cases h with
  | usual hr _ => exact .inl hr
  | alternate hprofile _ _ => exact hprofile

theorem scheduleLimit_checkOut (h : p.isRolling = true ∨ p.isFixed = true) :
    p.scheduleLimit l.loanDate false systemDate = p.checkoutSchedule.dueFor l.loanDate := by
  simp only [scheduleLimit, l.loanDateZoned.map_ensureAware]
  rcases h with hr | hf
  · simp [hr]
  · simp [hf]

theorem scheduleLimit_rollingRenewal (h : p.isRolling = true) :
    p.scheduleLimit l.loanDate true systemDate = p.renewalLimitSchedule.dueFor l.loanDate := by
  simp [scheduleLimit, l.loanDateZoned.map_ensureAware, h]

theorem scheduleLimit_fixedRenewal (h : p.isFixed = true) (hnow : Zoned systemDate) :
    p.scheduleLimit l.loanDate true systemDate = p.renewalFixedSchedule.dueFor systemDate := by
  have hr : p.isRolling = false := Bool.eq_false_iff.2 fun hr => by simp [isFixed_of_isRolling hr] at h
  simp [scheduleLimit, hnow.map_ensureAware, h, hr]

theorem renewalRule_rolling (h : p.isRolling = true) (systemDate : Option DateTime) :
    p.renewalRule systemDate =
      .rollingRenewal systemDate p.renewFromId p.renewalPeriod p.renewalLimitSchedule false := by
  obtain ⟨hs, hp⟩ := isRolling_iff.1 h
  simp [renewalRule, hs, hp]

theorem renewalRule_fixed (h : p.isFixed = true) (systemDate : Option DateTime) :
    p.renewalRule systemDate = .fixedRenewal p.renewalFixedSchedule systemDate := by
  obtain ⟨hs, hp⟩ := isFixed_iff.1 h
  simp [renewalRule, hs, hp]

/-- a limit is found wherever the dates to be compared have a zone -/
theorem SchedulesAware.exists_scheduleLimit (hp : p.SchedulesAware) (hl : l.loanDate = some lent)
    (hnow : now.isAware = true) (isRenewal : Bool) :
    ∃ limit, p.scheduleLimit l.loanDate isRenewal (some now) = .ok limit := by
  have hlent : lent.isAware = true := l.loanDateZoned lent hl
  cases hr : p.isRolling with
  | true =>
    cases isRenewal with
    | false =>
      rw [scheduleLimit_checkOut (.inl hr), hl]
      exact hp.1.exists_dueFor hlent
    | true =>
      rw [scheduleLimit_rollingRenewal hr, hl]
      exact hp.renewalLimitSchedule.exists_dueFor hlent
  | false =>
    cases hf : p.isFixed with
    | true =>
      cases isRenewal with
      | false =>
        rw [scheduleLimit_checkOut (.inr hf), hl]
        exact hp.1.exists_dueFor hlent
      | true =>
        rw [scheduleLimit_fixedRenewal hf (zoned_some hnow)]
        exact hp.renewalFixedSchedule.exists_dueFor hnow
    | false => exact ⟨none, by simp [scheduleLimit, hr, hf]⟩

/-! ## The limit and the rules -/

theorem scheduleLimit_agrees_checkOut (p : LoanPolicy) (l : Loan) (q : Option Queue) (systemDate : Option DateTime) :
    LimitAgrees (p.checkOutRule q) p.checkoutSchedule (p.scheduleLimit l.loanDate false systemDate)
      fun d => p.initialDueDate l q = .ok (.ok d) := by
  rcases p.checkOut_cases q with h | ⟨h, hprofile⟩ | ⟨hf, hnot⟩ | ⟨period, hperiod⟩
  · refine .of_refused fun d hd => ?_
    rw [initialDueDate_noProfile h] at hd
    cases hd
  · refine .of_refused fun d hd => ?_
    rw [initialDueDate_unknownProfile h hprofile] at hd
    cases hd
  · rw [scheduleLimit_checkOut (.inr hf)]
    refine .of_fixed fun d hd => ?_
    rw [initialDueDate_scheduled hf hnot] at hd
    exact DueDateRule.scheduledDue_eq_ok.1 hd
  · -- a fixed policy that lends for the alternate period has a rolling rule, within the same schedule
    rw [scheduleLimit_checkOut hperiod.profile, initialDueDate, hperiod.checkOutRule_eq]
    exact .of_rolling rfl rfl fun d => DueDateRule.rollingCheckOut_within

theorem scheduleLimit_agrees_renewal (p : LoanPolicy) (l : Loan) (hnow : Zoned systemDate) :
    LimitAgrees (p.renewalRule systemDate) p.renewalLimitSchedule (p.scheduleLimit l.loanDate true systemDate)
      fun d => p.renewalDueDate l systemDate = .ok (.ok d) := by
  cases hr : p.isRolling with
  | true =>
    rw [scheduleLimit_rollingRenewal hr, renewalDueDate, renewalRule_rolling hr]
    exact .of_rolling rfl rfl fun d => DueDateRule.rollingRenewal_within
  | false =>
    cases hf : p.isFixed with
    | true =>
      rw [scheduleLimit_fixedRenewal hf hnow, renewalDueDate, renewalRule_fixed hf]
      exact .of_fixed fun d => DueDateRule.scheduledDue_eq_ok.1
    | false =>
      refine .of_refused fun d hd => ?_
      obtain ⟨name, hname⟩ := renewalDueDate_unknownProfile hr hf l systemDate
      rw [hname] at hd
      cases hd

/-- **The limit of a schedule agrees with the rules.** For check-outs and for renewals, under any policy and for any loan
and queue: a due date is not after the limit, and is the limit where the rule is fixed; where there is no limit, the
schedule that governs is not there and the rule is rolling, or there is no due date. Where the dates of the schedules
have a zone and the loan has a date of lending, finding the limit meets no fault. -/
theorem scheduleLimit_agrees (p : LoanPolicy) (l : Loan) (q : Option Queue) (now : DateTime)
    (hnow : now.isAware = true) :
    LimitAgrees (p.checkOutRule q) p.checkoutSchedule (p.scheduleLimit l.loanDate false (some now))
      (fun d => (p.calculateInitialDueDate l q).value = .ok d) ∧
    LimitAgrees (p.renewalRule (some now)) p.renewalLimitSchedule (p.scheduleLimit l.loanDate true (some now))
      (fun d => (p.renewalRule (some now)).dueDate p.violation l = .ok (.ok d)) ∧
    (p.SchedulesAware → ∀ lent, l.loanDate = some lent → ∀ isRenewal,
      ∃ limit, p.scheduleLimit l.loanDate isRenewal (some now) = .ok limit) := by
  refine ⟨?_, p.scheduleLimit_agrees_renewal l (zoned_some hnow),
    fun hp lent hl isRenewal => hp.exists_scheduleLimit hl hnow isRenewal⟩
  have hvalue : ∀ d, (p.calculateInitialDueDate l q).value = .ok d ↔ p.initialDueDate l q = .ok (.ok d) :=
    fun d => Outcome.settle_eq_ok
  simp only [hvalue]
  exact p.scheduleLimit_agrees_checkOut l q (some now)

/-- a fixed policy that lends for a period, because a hold waits, still keeps to the limit -/
theorem scheduleLimit_hold_january :
    (DateTime.utcDay 2024 1 20).isAware = true ∧
      (fixedJanuaryPolicy.calculateInitialDueDate januaryLoan (some holdBehindRecall)).value =
        .ok (.utcDay 2024 2 15) ∧
      ∃ last, fixedJanuaryPolicy.scheduleLimit januaryLoan.loanDate false (some (.utcDay 2024 1 20)) =
        .ok (some last) ∧ (DateTime.utcDay 2024 2 15).NotAfter last := by
  have hdue : (fixedJanuaryPolicy.calculateInitialDueDate januaryLoan (some holdBehindRecall)).value =
      .ok (.utcDay 2024 2 15) := by decide +kernel
  obtain ⟨hcheckOut, -, -⟩ :=
    scheduleLimit_agrees fixedJanuaryPolicy januaryLoan (some holdBehindRecall) (.utcDay 2024 1 20) rfl
  rcases hcheckOut.within _ hdue with ⟨last, hlast, hle, -⟩ | ⟨-, hnone, -⟩
  · exact ⟨rfl, hdue, last, hlast, hle⟩
  · cases hnone

end LoanPolicy

end Lending
