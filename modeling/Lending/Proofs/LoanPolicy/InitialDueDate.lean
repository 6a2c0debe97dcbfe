/-
The due date of a check-out.

`SelectionTable` lists, row by row, what a check-out comes to: by the profile, by whether a hold waits behind the first
request, by the state of the period and by the state of the schedule. The calculation gives the one row that applies
(`calculateInitialDueDate_eq_iff`); where the dates of the schedule have a zone, nothing stops it but adding the period
to the date of lending.
-/
import Lending.Proofs.LoanPolicy.Faults
import Lending.Proofs.Schedule.Governing

namespace Lending

namespace LoanPolicy

/-! ## The table -/

/-- whether a period is configured for loans behind which a hold waits, and the second request of the queue is one that
is not yet filled -/
def HoldWaits (p : LoanPolicy) (q : Option Queue) : Prop :=
  p.alternateCheckoutPeriod ≠ none ∧ ∃ first second rest, q = some ⟨first :: second :: rest⟩ ∧
    second.type = .hold ∧ second.status = .openNotYetFilled

/-- the period after which a loan falls due, where its due date is not taken from a schedule outright: a rolling policy
has one for every loan, a fixed policy for those behind which a hold waits -/
inductive TakesPeriod (p : LoanPolicy) (q : Option Queue) : Period → Prop
  | usual : p.isRolling = true → ¬ p.HoldWaits q → TakesPeriod p q p.checkoutPeriod
  | alternate {period : Period} :
    p.isRolling = true ∨ p.isFixed = true → p.HoldWaits q → p.alternateCheckoutPeriod = some period →
    TakesPeriod p q period

/-- a check-out refused because the date of lending is in no range of the schedule -/
def outsideSchedule (p : LoanPolicy) : Outcome DateTime :=
  .violation (p.violation DueDateRule.checkOutOutsideSchedule)

/-- a check-out refused because of a profile, by its name -/
def profileRefused (p : LoanPolicy) (name : Option Text) : Outcome DateTime :=
  .violation (p.violation (DueDateRule.unknownProfile name false)).asConfiguration

/-- what a check-out comes to: a due date or the one rule against it -/
inductive SelectionTable (p : LoanPolicy) (q : Option Queue) (lent : DateTime) : Outcome DateTime → Prop
  | noProfile : p.hasLoansSection = false → SelectionTable p q lent (p.profileRefused (some {}))
  | unknownProfile :
    p.hasLoansSection = true → p.profile? = none → SelectionTable p q lent (p.profileRefused p.profileId)
  | scheduled {r : ScheduleRange} :
    p.isFixed = true → ¬ p.HoldWaits q → p.checkoutSchedule.governing? lent = some r → SelectionTable p q lent (.ok r.due)
  | unscheduled :
    p.isFixed = true → ¬ p.HoldWaits q → p.checkoutSchedule.governing? lent = none →
    SelectionTable p q lent p.outsideSchedule
  | badPeriod {period : Period} {problem : PeriodProblem} {message : Text} :
    p.TakesPeriod q period → period.check = .error problem → problem.message none = .ok message →
    SelectionTable p q lent (.violation (p.violation message).asConfiguration)
  | unlimited {period : Period} {due : DateTime} :
    p.TakesPeriod q period → period.Adds lent due → p.checkoutSchedule.isConfigured = false →
    SelectionTable p q lent (.ok due)
  | limited {period : Period} {due : DateTime} {r : ScheduleRange} :
    p.TakesPeriod q period → period.Adds lent due → p.checkoutSchedule.isConfigured = true →
    p.checkoutSchedule.governing? lent = some r → SelectionTable p q lent (.ok (earlierOf r.due due))
  | outside {period : Period} {due : DateTime} :
    p.TakesPeriod q period → period.Adds lent due → p.checkoutSchedule.isConfigured = true →
    p.checkoutSchedule.governing? lent = none → SelectionTable p q lent p.outsideSchedule

variable {p : LoanPolicy} {l : Loan} {lent : DateTime} {q : Option Queue} {period : Period} {o o' : Outcome DateTime}

/-! ## The choice of a rule -/

theorem isRolling_iff : p.isRolling = true ↔ p.hasLoansSection = true ∧ p.profile? = some .rolling := by
  simp [isRolling]

theorem isFixed_iff : p.isFixed = true ↔ p.hasLoansSection = true ∧ p.profile? = some .fixed := by
  simp [isFixed]

theorem usesAlternatePeriod_iff : p.usesAlternatePeriod q = true ↔ p.HoldWaits q := by
  have hwaits : q.any (·.hasWaitingHold) = true ↔ ∃ first second rest, q = some ⟨first :: second :: rest⟩ ∧
      second.type = .hold ∧ second.status = .openNotYetFilled := by
    rcases q with _ | ⟨_ | ⟨first, _ | ⟨second, rest⟩⟩⟩ <;> simp [Queue.hasWaitingHold]
  rw [usesAlternatePeriod, Bool.and_eq_true, hwaits, Option.isSome_iff_ne_none, HoldWaits]

/-- the period of a check-out goes by whether a hold waits -/
theorem TakesPeriod.checkOutPeriod_eq (h : p.TakesPeriod q period) : p.checkOutPeriod q = period := by
  unfold checkOutPeriod
  cases h with
  | usual _ hnot => rw [if_neg fun hu => hnot (usesAlternatePeriod_iff.1 hu)]
  | alternate _ hwaits hperiod => rw [if_pos (usesAlternatePeriod_iff.2 hwaits), hperiod, Option.getD_some]

theorem checkOutRule_noProfile (h : p.hasLoansSection = false) : p.checkOutRule q = .unknown (some {}) false := by
  simp [checkOutRule, h]

theorem checkOutRule_unknownProfile (h : p.hasLoansSection = true) (hp : p.profile? = none) :
    p.checkOutRule q = .unknown p.profileId false := by
  simp [checkOutRule, h, hp]

theorem checkOutRule_scheduled (h : p.isFixed = true) (hnot : ¬ p.HoldWaits q) :
    p.checkOutRule q = .fixedCheckOut p.checkoutSchedule := by
  obtain ⟨hs, hp⟩ := isFixed_iff.1 h
  have hu : p.usesAlternatePeriod q = false := Bool.eq_false_iff.2 fun hu => hnot (usesAlternatePeriod_iff.1 hu)
  simp [checkOutRule, hs, hp, hu]

theorem TakesPeriod.checkOutRule_eq (h : p.TakesPeriod q period) :
    p.checkOutRule q = .rollingCheckOut period p.checkoutSchedule := by
  rw [← h.checkOutPeriod_eq]
  unfold checkOutRule
  cases h with
  | usual hr _ =>
    obtain ⟨hs, hp⟩ := isRolling_iff.1 hr
    simp [hs, hp]
  | alternate hprofile hwaits _ =>
    have hu := usesAlternatePeriod_iff.2 hwaits
    rcases hprofile with hr | hf
    · obtain ⟨hs, hp⟩ := isRolling_iff.1 hr
      simp [hs, hp]
    · obtain ⟨hs, hp⟩ := isFixed_iff.1 hf
      simp [hs, hp, hu]

/-- a policy has no profile that is known, or takes the due date from its schedule, or takes a period -/
theorem checkOut_cases (p : LoanPolicy) (q : Option Queue) :
    p.hasLoansSection = false ∨ (p.hasLoansSection = true ∧ p.profile? = none) ∨
      (p.isFixed = true ∧ ¬ p.HoldWaits q) ∨ ∃ period, p.TakesPeriod q period := by
  cases hs : p.hasLoansSection with
  | false => exact .inl rfl
  | true =>
    refine .inr ?_
    by_cases hwaits : p.HoldWaits q
    · obtain ⟨period, hperiod⟩ := Option.ne_none_iff_exists'.1 hwaits.1
      rcases hp : p.profile? with _ | _ | _
      · exact .inl ⟨rfl, rfl⟩
      · exact .inr (.inr ⟨period, .alternate (.inl (isRolling_iff.2 ⟨hs, hp⟩)) hwaits hperiod⟩)
      · exact .inr (.inr ⟨period, .alternate (.inr (isFixed_iff.2 ⟨hs, hp⟩)) hwaits hperiod⟩)
    · rcases hp : p.profile? with _ | _ | _
      · exact .inl ⟨rfl, rfl⟩
      · exact .inr (.inr ⟨_, .usual (isRolling_iff.2 ⟨hs, hp⟩) hwaits⟩)
      · exact .inr (.inl ⟨isFixed_iff.2 ⟨hs, hp⟩, hwaits⟩)

/-! ## The calculation -/

theorem initialDueDate_noProfile (h : p.hasLoansSection = false) :
    p.initialDueDate l q = .ok (p.profileRefused (some {})) := by
  rw [initialDueDate, checkOutRule_noProfile h]
  rfl

theorem initialDueDate_unknownProfile (h : p.hasLoansSection = true) (hp : p.profile? = none) :
    p.initialDueDate l q = .ok (p.profileRefused p.profileId) := by
  rw [initialDueDate, checkOutRule_unknownProfile h hp]
  rfl

theorem initialDueDate_scheduled (h : p.isFixed = true) (hnot : ¬ p.HoldWaits q) :
    p.initialDueDate l q = DueDateRule.scheduledDue p.checkoutSchedule l.loanDate
      (p.violation DueDateRule.checkOutOutsideSchedule) := by
  rw [initialDueDate, checkOutRule_scheduled h hnot]
  rfl

theorem TakesPeriod.initialDueDate_eq (h : p.TakesPeriod q period) :
    p.initialDueDate l q = Outcome.andThen (period.addTo l.loanDate p.violation) fun due =>
      p.checkoutSchedule.truncate due l.loanDate (p.violation DueDateRule.checkOutOutsideSchedule) := by
  rw [initialDueDate, h.checkOutRule_eq]
  rfl

/-- a due date taken from the schedule outright is that of the range that governs the date of lending -/
theorem scheduledDue_eq {outside : Violation} {s : Schedule}
    (h : DueDateRule.scheduledDue s (some lent) outside = .ok o) :
    o = match s.governing? lent with
      | some r => .ok r.due
      | none => .violation outside := by
  simp only [DueDateRule.scheduledDue, bind_eq_ok] at h
  obtain ⟨found, hfound, h⟩ := h
  rw [Schedule.dueFor_eq hfound] at h
  cases hr : s.governing? lent with
  | none =>
    rw [hr] at h
    exact (Except.ok.inj h).symm
  | some r =>
    rw [hr] at h
    exact (Except.ok.inj h).symm

/-- a period taken, and the date that it gives, decide by the schedule -/
theorem initialDueDate_of_adds {due : DateTime} (hl : l.loanDate = some lent) (hperiod : p.TakesPeriod q period)
    (hadds : period.Adds lent due) :
    p.initialDueDate l q = p.checkoutSchedule.truncate due (some lent)
      (p.violation DueDateRule.checkOutOutsideSchedule) := by
  rw [hperiod.initialDueDate_eq, hl, (Period.addTo_some_eq_ok _).2 hadds, Outcome.andThen_ok]

/-- a calculation that no fault stops comes to a row of the table -/
theorem selectionTable_of_initialDueDate (hl : l.loanDate = some lent) (h : p.initialDueDate l q = .ok o) :
    p.SelectionTable q lent o := by
  rcases p.checkOut_cases q with hs | ⟨hs, hp⟩ | ⟨hf, hnot⟩ | ⟨period, hperiod⟩
  · rw [initialDueDate_noProfile hs] at h
    cases h
    exact .noProfile hs
  · rw [initialDueDate_unknownProfile hs hp] at h
    cases h
    exact .unknownProfile hs hp
  · rw [initialDueDate_scheduled hf hnot, hl] at h
    rw [scheduledDue_eq h]
    cases hr : p.checkoutSchedule.governing? lent with
    | none => exact .unscheduled hf hnot hr
    | some r => exact .scheduled hf hnot hr
  · rcases hadd : period.addTo (some lent) p.violation with f | due | c
    · rw [hperiod.initialDueDate_eq, hl, hadd] at h
      cases h
    · have hadds := (Period.addTo_some_eq_ok _).1 hadd
      rw [initialDueDate_of_adds hl hperiod hadds] at h
      cases hs : p.checkoutSchedule.isConfigured with
      | false =>
        rw [Schedule.truncate_unconfigured hs] at h
        cases h
        exact .unlimited hperiod hadds hs
      | true =>
        rw [Schedule.truncate_eq hs h]
        cases hr : p.checkoutSchedule.governing? lent with
        | none => exact .outside hperiod hadds hs hr
        | some r => exact .limited hperiod hadds hs hr
    · rw [hperiod.initialDueDate_eq, hl, hadd] at h
      cases h
      obtain ⟨problem, message, hcheck, hmessage, rfl⟩ := Period.addTo_eq_failed.1 hadd
      exact .badPeriod hperiod hcheck hmessage

/-- no calculation comes to anything but the row of the table that applies -/
theorem SelectionTable.eq (hrow : p.SelectionTable q lent o') (hl : l.loanDate = some lent)
    (h : p.initialDueDate l q = .ok o) : o = o' := by
  cases hrow with
  | noProfile hs =>
    rw [initialDueDate_noProfile hs] at h
    exact (Except.ok.inj h).symm
  | unknownProfile hs hp =>
    rw [initialDueDate_unknownProfile hs hp] at h
    exact (Except.ok.inj h).symm
  | scheduled hf hnot hr =>
    rw [initialDueDate_scheduled hf hnot, hl] at h
    rw [scheduledDue_eq h, hr]
  | unscheduled hf hnot hr =>
    rw [initialDueDate_scheduled hf hnot, hl] at h
    rw [scheduledDue_eq h, hr]
    rfl
  | @badPeriod period problem message hperiod hcheck hmessage =>
    have hadd : period.addTo l.loanDate p.violation = .ok (.violation (p.violation message).asConfiguration) :=
      Period.addTo_eq_failed.2 ⟨problem, message, hcheck, hmessage, rfl⟩
    rw [hperiod.initialDueDate_eq, hadd] at h
    cases h
    rfl
  | unlimited hperiod hadds hs =>
    rw [initialDueDate_of_adds hl hperiod hadds, Schedule.truncate_unconfigured hs] at h
    exact (Except.ok.inj h).symm
  | limited hperiod hadds hs hr =>
    rw [initialDueDate_of_adds hl hperiod hadds] at h
    rw [Schedule.truncate_eq hs h, hr]
  | outside hperiod hadds hs hr =>
    rw [initialDueDate_of_adds hl hperiod hadds] at h
    rw [Schedule.truncate_eq hs h, hr]
    rfl

/-- where the dates of the schedule have a zone, only adding the period can stop a calculation -/
theorem SchedulesAware.initialDueDate_eq_error_iff (hp : p.SchedulesAware) (hl : l.loanDate = some lent) {f : Fault} :
    p.initialDueDate l q = .error f ↔
      ∃ period, p.TakesPeriod q period ∧ period.addTo (some lent) p.violation = .error f := by
  have hlent : lent.isAware = true := l.loanDateZoned lent hl
  constructor
  · intro h
    rcases p.checkOut_cases q with hs | ⟨hs, hprofile⟩ | ⟨hf, hnot⟩ | ⟨period, hperiod⟩
    · rw [initialDueDate_noProfile hs] at h
      cases h
    · rw [initialDueDate_unknownProfile hs hprofile] at h
      cases h
    · obtain ⟨found, hfound⟩ := hp.1.exists_dueFor hlent
      rw [initialDueDate_scheduled hf hnot, hl, DueDateRule.scheduledDue, hfound, ok_bind] at h
      cases found <;> cases h
    · refine ⟨period, hperiod, ?_⟩
      rcases hadd : period.addTo (some lent) p.violation with f' | due | c
      · rw [hperiod.initialDueDate_eq, hl, hadd] at h
        exact h
      · have hdue : due.isAware = true := DueDateRule.addTo_aware (zoned_some hlent) hadd
        obtain ⟨o, ho⟩ := hp.1.exists_truncate hdue hlent (p.violation DueDateRule.checkOutOutsideSchedule)
        rw [initialDueDate_of_adds hl hperiod ((Period.addTo_some_eq_ok _).1 hadd), ho] at h
        cases h
      · rw [hperiod.initialDueDate_eq, hl, hadd] at h
        cases h
  · rintro ⟨period, hperiod, hadd⟩
    rw [hperiod.initialDueDate_eq, hl, hadd]
    rfl

/-- **The due date of a check-out is that of the table.** For every policy, loan and queue: a calculation that no fault
stops gives the row of the table that applies, and no other; a fault is a server error. Where the dates of the schedule
have a zone, the fault is one of adding the period that applies to the date of lending. -/
theorem calculateInitialDueDate_eq_iff (p : LoanPolicy) (l : Loan) (lent : DateTime) (hl : l.loanDate = some lent)
    (q : Option Queue) :
    let result := (p.calculateInitialDueDate l q).value
    (∀ o, p.initialDueDate l q = .ok o → ∀ o', result = o' ↔ p.SelectionTable q lent o') ∧
    (∀ f, p.initialDueDate l q = .error f → result = .failed (.serverError f.report)) ∧
    (p.SchedulesAware → ∀ f, p.initialDueDate l q = .error f ↔
      ∃ period, p.TakesPeriod q period ∧ period.addTo (some lent) p.violation = .error f) := by
  intro result
  have hresult : result = Outcome.settle (p.initialDueDate l q) := rfl
  refine ⟨fun o ho o' => ?_, fun f hf => ?_, fun hp f => hp.initialDueDate_eq_error_iff hl⟩
  · rw [hresult, ho, Outcome.settle_ok]
    constructor
    · rintro rfl
      exact selectionTable_of_initialDueDate hl ho
    · intro hrow
      exact hrow.eq hl ho
  · rw [hresult, hf, Outcome.settle_error]

/-- a fixed policy for loans of January 2024, which lends for forty days where a hold waits -/
def fixedJanuaryPolicy : LoanPolicy :=
  { januaryPolicy with profileId := some " FIXED ", alternateCheckoutPeriod := some (.of .days 40) }

/-- a loan of January 2024 that has no due date yet -/
def januaryLoan : Loan := Loan.of "loan-1" "item-1" "user-1" (some (.utcDay 2024 1 10)) none none

/-- a recall that is served first, and a hold that waits behind it -/
def holdBehindRecall : Queue :=
  ⟨[{ id := "request-1", itemId := "item-1", requesterId := "user-2", type := .callBack },
    { id := "request-2", itemId := "item-1", requesterId := "user-3", type := .hold }]⟩

/-- the alternate period of a fixed policy ends after the due date of the schedule, which counts instead -/
theorem calculateInitialDueDate_hold_january :
    januaryLoan.loanDate = some (.utcDay 2024 1 10) ∧
      (fixedJanuaryPolicy.calculateInitialDueDate januaryLoan (some holdBehindRecall)).value =
        .ok (.utcDay 2024 2 15) := by
  obtain ⟨h, -, -⟩ := calculateInitialDueDate_eq_iff fixedJanuaryPolicy januaryLoan (.utcDay 2024 1 10) rfl
    (some holdBehindRecall)
  have hadds : (Period.of .days 40).Adds (.utcDay 2024 1 10) (.utcDay 2024 2 19) :=
    (Period.addTo_some_eq_ok fixedJanuaryPolicy.violation).1 (by decide +kernel)
  have hwaits : fixedJanuaryPolicy.HoldWaits (some holdBehindRecall) := usesAlternatePeriod_iff.1 (by decide)
  have hgoverning : fixedJanuaryPolicy.checkoutSchedule.governing? (.utcDay 2024 1 10) =
      some ⟨.utcDay 2024 1 1, .utcDay 2024 1 31, .utcDay 2024 2 15⟩ := by decide +kernel
  have hearlier : earlierOf (.utcDay 2024 2 15) (.utcDay 2024 2 19) = .utcDay 2024 2 15 := by decide +kernel
  have hrow := SelectionTable.limited (.alternate (.inr (by decide)) hwaits rfl) hadds rfl hgoverning
  rw [hearlier] at hrow
  exact ⟨rfl, (h (.ok (.utcDay 2024 2 15)) (by decide +kernel) _).2 hrow⟩

end LoanPolicy

end Lending
