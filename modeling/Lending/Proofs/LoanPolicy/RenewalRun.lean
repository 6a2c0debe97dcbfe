/-
Renewals under a rolling policy with a schedule.

The range in which a loan was lent sets its last due date (`lastDueDate?`). One renewal does not take the loan past it
(`dueInTime_of_renewal`), so no run does (`renewal_run_within_schedule`). A loan that is due on the last due date is not
renewed any more; one that is due at the same time in another zone may be, where a clock change sets the two apart.
-/
import Lending.Proofs.LoanHistory
import Lending.Proofs.LoanPolicy.ScheduleLimit
import Lending.Proofs.Time.ClockChange

namespace Lending.LoanPolicy

variable {p : LoanPolicy} {l l' : Loan} {now : Option DateTime} {due old last : DateTime}

/-- the last due date to which a schedule lets a loan be renewed: that of the range in which the loan was lent -/
def lastDueDate? (p : LoanPolicy) (l : Loan) : Option DateTime :=
  l.loanDate.bind fun lent => (p.renewalLimitSchedule.governing? lent).map (·.due)

/-- whether a loan has a due date, and one that is not after the last due date -/
def DueInTime (p : LoanPolicy) (l : Loan) : Prop :=
  ∃ last due, p.lastDueDate? l = some last ∧ l.dueDate = some due ∧ due.NotAfter last

theorem lastDueDate?_congr (h : l.SameLending l') : p.lastDueDate? l' = p.lastDueDate? l := by
  simp only [lastDueDate?, h.loanDate]

/-- renewals under a policy, one after the other -/
def renewals (p : LoanPolicy) (times : List (Option DateTime)) : List LoanOperation := times.map (.renew p)

theorem renewals_cons (p : LoanPolicy) (t : Option DateTime) (times : List (Option DateTime)) :
    p.renewals (t :: times) = .renew p t :: p.renewals times := rfl

/-! ## One renewal -/

/-- a rolling renewal proposes dates with a zone, as it counts from a date that has one -/
theorem renewalDueDate_isAware (hr : p.isRolling = true) (hnow : Zoned now)
    (h : p.renewalDueDate l now = .ok (.ok due)) : due.isAware = true := by
  rw [renewalDueDate, renewalRule_rolling hr] at h
  obtain ⟨base, hbase, h⟩ := Outcome.andThen_eq_ok.1 h
  obtain ⟨proposed, hproposed, h⟩ := Outcome.andThen_eq_ok.1 h
  have haware := DueDateRule.renewalBase_aware hnow (Except.ok.inj hbase)
  exact Schedule.truncate_isAware (DueDateRule.addTo_aware (zoned_some haware) hproposed) h

/-- a rolling renewal proposes no date after the last one -/
theorem renewalDueDate_notAfter (hr : p.isRolling = true) (hs : p.renewalLimitSchedule.isConfigured = true)
    (h : p.renewalDueDate l now = .ok (.ok due)) : ∃ last, p.lastDueDate? l = some last ∧ due.NotAfter last := by
  rw [renewalDueDate, renewalRule_rolling hr] at h
  rcases DueDateRule.rollingRenewal_within h with hnone | ⟨last, hlast, hle⟩
  · rw [hnone] at hs
    cases hs
  · cases hlent : l.loanDate with
    | none =>
      rw [hlent] at hlast
      simp only [Schedule.dueFor] at hlast
      split at hlast <;> cases hlast
    | some lent =>
      rw [hlent] at hlast
      exact ⟨last, by rw [lastDueDate?, hlent, Option.bind_some, ← Schedule.dueFor_eq hlast], hle⟩

theorem dueInTime_of_renewal (hr : p.isRolling = true) (hs : p.renewalLimitSchedule.isConfigured = true)
    (hnow : Zoned now) (h : p.renewal l now = .ok (.ok l')) : p.DueInTime l' := by
  obtain ⟨-, -, due, hdue, -, -, rfl⟩ := renewal_eq_ok.1 h
  obtain ⟨last, hlast, hle⟩ := renewalDueDate_notAfter hr hs hdue
  exact ⟨last, due, hlast, by rw [l.renew_eq (renewalDueDate_isAware hr hnow hdue)]; rfl, hle⟩

/-- **When a loan is renewed past its time.** A loan that is due at the same time as the last due date is renewed exactly
if nothing else stands against it and the proposed date slips past. -/
theorem renewal_isOk_iff_slipsPast (hr : p.isRolling = true) (hs : p.renewalLimitSchedule.isConfigured = true)
    (hlast : p.lastDueDate? l = some last) (hold : l.dueDate = some old) (hsame : old.SameTime last) :
    (∃ l', p.renewal l now = .ok (.ok l')) ↔
      p.loanable = true ∧ p.renewable = true ∧ p.reachedRenewalLimit l = false ∧
        ∃ due, p.renewalDueDate l now = .ok (.ok due) ∧ DateTime.SlipsPast old due last := by
  have hlong : ∀ due, p.renewalDueDate l now = .ok (.ok due) →
      (l.LengthenedBy due ↔ DateTime.SlipsPast old due last) := by
    intro due hdue
    obtain ⟨last', hlast', hle⟩ := renewalDueDate_notAfter hr hs hdue
    rw [hlast, Option.some.injEq] at hlast'
    rw [← DateTime.before_iff_slipsPast hsame (hlast' ▸ hle)]
    simp [Loan.LengthenedBy, hold]
  constructor
  · rintro ⟨l', hl'⟩
    obtain ⟨hlends, hrenews, due, hdue, hlonger, hlimit, -⟩ := renewal_eq_ok.1 hl'
    exact ⟨hlends, hrenews, hlimit, due, hdue, (hlong due hdue).1 hlonger⟩
  · rintro ⟨hlends, hrenews, hlimit, due, hdue, hslips⟩
    exact ⟨_, renewal_eq_ok.2 ⟨hlends, hrenews, due, hdue, (hlong due hdue).2 hslips, hlimit, rfl⟩⟩

/-- a loan that is due on the last due date is not renewed -/
theorem renewal_ne_ok_of_last (hr : p.isRolling = true) (hs : p.renewalLimitSchedule.isConfigured = true)
    (hlast : p.lastDueDate? l = some last) (hdue : l.dueDate = some last) : p.renewal l now ≠ .ok (.ok l') := by
  intro h
  obtain ⟨-, -, due, hproposed, hlong, -, -⟩ := renewal_eq_ok.1 h
  obtain ⟨last', hlast', hle⟩ := renewalDueDate_notAfter hr hs hproposed
  rw [hlast, Option.some.injEq] at hlast'
  exact (hlast' ▸ hle).not_before (hlong last hdue)

/-! ## Runs of renewals -/

/-- the loan after one renewal: as it was, or due in time -/
theorem step_renew (hr : p.isRolling = true) (hs : p.renewalLimitSchedule.isConfigured = true) (l : Loan)
    (systemDate : Option DateTime) :
    (LoanOperation.renew p systemDate).result? l = none ∧ l.step (.renew p systemDate) = l ∨
      p.DueInTime (l.step (.renew p systemDate)) := by
  rcases h : (LoanOperation.renew p systemDate).result? l with _ | l'
  · exact .inl ⟨rfl, by rw [Loan.step, h, Option.getD_none]⟩
  · have hrenewal := Outcome.settle_eq_ok.1 (Outcome.toOption_eq_some.1 h)
    rw [Loan.step, h, Option.getD_some]
    exact .inr (dueInTime_of_renewal hr hs (zoned_map_ensureAware systemDate) hrenewal)

/-- a loan that is due in time stays so, whatever renewals follow -/
theorem dueInTime_run (hr : p.isRolling = true) (hs : p.renewalLimitSchedule.isConfigured = true)
    (h : p.DueInTime l) (times : List (Option DateTime)) : p.DueInTime (l.run (p.renewals times)) := by
  induction times generalizing l with
  | nil => exact h
  | cons t times ih =>
    rw [renewals_cons, Loan.run_cons]
    rcases step_renew hr hs l t with ⟨-, hstep⟩ | hstep
    · rw [hstep]
      exact ih h
    · exact ih hstep

/-- once a renewal of a run has succeeded, the loan is due in time -/
theorem dueInTime_of_successes (hr : p.isRolling = true) (hs : p.renewalLimitSchedule.isConfigured = true)
    (times : List (Option DateTime)) (h : l.successes (p.renewals times) ≠ []) :
    p.DueInTime (l.run (p.renewals times)) := by
  induction times generalizing l with
  | nil => exact absurd rfl h
  | cons t times ih =>
    rw [renewals_cons, Loan.run_cons]
    rcases step_renew hr hs l t with ⟨hnone, -⟩ | hstep
    · rw [renewals_cons, Loan.successes_cons_none hnone] at h
      exact ih h
    · exact dueInTime_run hr hs hstep times

/-- no renewal of a run succeeds on a loan that is due on the last due date -/
theorem successes_of_last (hr : p.isRolling = true) (hs : p.renewalLimitSchedule.isConfigured = true)
    (hlast : p.lastDueDate? l = some last) (hdue : l.dueDate = some last) (times : List (Option DateTime)) :
    l.successes (p.renewals times) = [] := by
  induction times with
  | nil => rfl
  | cons t times ih =>
    have hnone : (LoanOperation.renew p t).result? l = none := by
      refine Option.eq_none_iff_forall_ne_some.2 fun l' hl' => ?_
      exact renewal_ne_ok_of_last hr hs hlast hdue (Outcome.settle_eq_ok.1 (Outcome.toOption_eq_some.1 hl'))
    rw [renewals_cons, Loan.successes_cons_none hnone, Loan.step, hnone, Option.getD_none]
    exact ih

/-- **Renewals keep to the schedule.** A rolling policy has a schedule for its renewals, and a loan is renewed under it
any number of times, at any dates. Once a renewal has succeeded, the range in which the loan was lent sets a last due
date, and the loan is not due after it. Once the loan is due on the last due date, no more renewals succeed. Once it is
due at the same time, as dates are compared, one more succeeds exactly if the policy lends and renews, its limit is not
reached, and the date that it proposes slips past at a clock change. -/
theorem renewal_run_within_schedule (p : LoanPolicy) (hr : p.isRolling = true)
    (hs : p.renewalLimitSchedule.isConfigured = true) (l : Loan) (times : List (Option DateTime)) :
    let met := l.run (p.renewals times)
    (l.successes (p.renewals times) ≠ [] →
      ∃ last due, p.lastDueDate? l = some last ∧ met.dueDate = some due ∧ due.NotAfter last) ∧
    ∀ last, p.lastDueDate? l = some last →
      (met.dueDate = some last → ∀ more : List (Option DateTime), met.successes (p.renewals more) = []) ∧
      ∀ old, met.dueDate = some old → old.SameTime last → ∀ systemDate,
        ((p.renew met systemDate).value.isOk = true ↔
          p.loanable = true ∧ p.renewable = true ∧ p.reachedRenewalLimit met = false ∧
            ∃ due, p.renewalDueDate met (systemDate.map DateTime.ensureAware) = .ok (.ok due) ∧
              DateTime.SlipsPast old due last) := by
  intro met
  have hlending : p.lastDueDate? met = p.lastDueDate? l := lastDueDate?_congr (l.run_sameLending _)
  refine ⟨fun hdone => ?_, fun last hlast => ⟨fun hdue more => ?_, fun old hold hsame systemDate => ?_⟩⟩
  · obtain ⟨last, due, hlast, hdue, hle⟩ := dueInTime_of_successes hr hs times hdone
    exact ⟨last, due, hlending ▸ hlast, hdue, hle⟩
  · exact successes_of_last hr hs (hlending.trans hlast) hdue more
  · exact Outcome.settle_isOk_iff.trans (renewal_isOk_iff_slipsPast hr hs (hlending.trans hlast) hold hsame)

/-- a loan of January 2024 that is due in February -/
def februaryLoan : Loan := januaryLoan.withDueDate (some (.utcDay 2024 2 10))

/-- the first renewal takes the loan to the last due date, and no other follows -/
theorem renewal_run_february :
    januaryPolicy.unlimited.isRolling = true ∧ januaryPolicy.unlimited.renewalLimitSchedule.isConfigured = true ∧
      (∃ last due, januaryPolicy.unlimited.lastDueDate? februaryLoan = some last ∧
        (februaryLoan.run (januaryPolicy.unlimited.renewals [some (.utcDay 2024 2 1)])).dueDate = some due ∧
        due.NotAfter last) ∧
      ∀ more : List (Option DateTime),
        (februaryLoan.run (januaryPolicy.unlimited.renewals [some (.utcDay 2024 2 1)])).successes
          (januaryPolicy.unlimited.renewals more) = [] := by
  obtain ⟨hwithin, hlast⟩ := renewal_run_within_schedule januaryPolicy.unlimited (by decide) (by decide) februaryLoan
    [some (.utcDay 2024 2 1)]
  have hdone : februaryLoan.successes (januaryPolicy.unlimited.renewals [some (.utcDay 2024 2 1)]) ≠ [] :=
    List.ne_nil_of_length_pos (by decide +kernel)
  obtain ⟨hnone, -⟩ := hlast (.utcDay 2024 2 15) (by decide +kernel)
  exact ⟨by decide, by decide, hwithin hdone, hnone (by decide +kernel)⟩

/-- what a clock in Berlin shows some minutes after midnight -/
def berlinClock (d : Date) (minutes : Fin 1440) : DateTime :=
  ⟨.of d ⟨minutes * ticksPerMinute, by simp only [ticksPerMinute, ticksPerDay]; omega⟩, some (.region .berlin), false⟩

/-- a policy that renews for one day from the day of the renewal, up to an hour in which clocks in Berlin change -/
def clockChangePolicy : LoanPolicy :=
  { oneDayPolicy.unlimited with
    checkoutSchedule := .configured none none
      [⟨berlinClock ⟨2024, 2, 1, by decide⟩ 0, berlinClock ⟨2024, 4, 1, by decide⟩ 0,
        berlinClock ⟨2024, 3, 31, by decide⟩ 190⟩] }

/-- a loan is renewed to ten past one in UTC, which is ten past three in Berlin and the last due date, and then once more:
to ten to three in Berlin, which the clock skips and which is later in UTC -/
theorem renewal_run_across_clock_change :
    let first : DateTime := ⟨.of ⟨2024, 3, 30, by decide⟩ ⟨70 * ticksPerMinute, by decide⟩, some .utc, false⟩
    let met := marchLoan.run (clockChangePolicy.renewals [some first])
    clockChangePolicy.isRolling = true ∧ clockChangePolicy.renewalLimitSchedule.isConfigured = true ∧
      (clockChangePolicy.renew marchLoan (some first)).value.isOk = true ∧
      (∃ last old, clockChangePolicy.lastDueDate? marchLoan = some last ∧ met.dueDate = some old ∧ old.SameTime last) ∧
      (clockChangePolicy.renew met (some (berlinClock ⟨2024, 3, 30, by decide⟩ 170))).value.isOk = true := by
  refine ⟨by decide, by decide, by decide +kernel, ?_, by decide +kernel⟩
  refine ⟨berlinClock ⟨2024, 3, 31, by decide⟩ 190,
    ⟨.of ⟨2024, 3, 31, by decide⟩ ⟨70 * ticksPerMinute, by decide⟩, some .utc, false⟩, ?_, ?_, ?_⟩
  · decide +kernel
  · decide +kernel
  · decide +kernel

end Lending.LoanPolicy
