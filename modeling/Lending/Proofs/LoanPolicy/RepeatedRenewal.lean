/-
Renewing a loan once more.

Under a fixed policy, and under a rolling one that renews from the system date, the proposed date does not depend on what
a renewal changes (`renewalDueDate_congr`). So a second renewal at the same time proposes the date that the loan has by
then, and is refused because it would change nothing; only a date without a zone, which the loan reads as UTC, cannot be
compared with it. A rolling renewal at an earlier time proposes no later date, with one exception: where months are
counted, the earlier time may overtake the later one (`before_iff_overtaken`). `renew_repeated` puts these together.
-/
import Lending.Proofs.LoanPolicy.RenewalRun
import Lending.Proofs.Period.Order

namespace Lending

/-! ## Dates within a last one -/

/-- a date that a last one limits, if there is a last one -/
def withinLast (last : Option DateTime) (due : DateTime) : DateTime :=
  match last with
  | none => due
  | some last => earlierOf last due

namespace DateTime

variable {last : Option DateTime} {due due' : DateTime}

theorem InUtc.withinLast_inUtc (hd : due.InUtc) (hlast : ∀ d, last = some d → d.InUtc) :
    (withinLast last due).InUtc := by
  cases last with
  | none => exact hd
  | some limit => exact ((hlast limit rfl).earlierOf_ticks hd).1

/-- **A last date keeps the order of the dates before it.** Within it one date is earlier than another exactly if it is so
without it, and does not reach it. -/
theorem InUtc.before_withinLast_iff (hd : due.InUtc) (hd' : due'.InUtc) (hlast : ∀ d, last = some d → d.InUtc) :
    (withinLast last due).Before (withinLast last due') ↔
      due.wall.ticks < due'.wall.ticks ∧ ∀ d, last = some d → (withinLast last due).Before d := by
  rw [(hd.withinLast_inUtc hlast).before_iff (hd'.withinLast_inUtc hlast)]
  cases last with
  | none => exact (and_iff_left nofun).symm
  | some limit =>
    have hl : limit.InUtc := hlast limit rfl
    obtain ⟨hutc, hticks⟩ := hl.earlierOf_ticks hd
    have hticks' := (hl.earlierOf_ticks hd').2
    simp only [withinLast, Option.some.injEq, forall_eq', hutc.before_iff hl, hticks, hticks']
    omega

/-- a date that is read as UTC where it has no zone cannot be compared with itself as it was, if it had none -/
theorem notAfter_ensureAware_iff (d : DateTime) : d.NotAfter d.ensureAware ↔ d.isAware = true := by
  constructor
  · intro h
    obtain ⟨i, j, hkeys, -⟩ := notAfter_eq_ok.1 h
    exact (isAware_eq_of_keys hkeys).trans (d.isAware_ensureAware _)
  · intro h
    rw [ensureAware_of_isAware h]
    exact d.notAfter_refl

end DateTime

/-- a schedule truncates nothing without a date of reference -/
theorem Schedule.eq_violation_of_truncate_none {s : Schedule} {due : DateTime} {outside : Violation}
    {o : Outcome DateTime} (hs : s.isConfigured = true) (h : s.truncate due none outside = .ok o) :
    o = .violation outside := by
  cases s with
  | unconfigured => cases hs
  | configured id name ranges =>
    simp only [truncate, dueFor] at h
    split at h
    · cases h
      rfl
    · cases h

namespace Loan

variable {due : DateTime}

theorem loanDate_renew (l : Loan) (due : DateTime) (policyId : Option Text) :
    (l.renew due policyId).loanDate = l.loanDate := rfl

theorem dueDate_renew (l : Loan) (h : due.isAware = true) (policyId : Option Text) :
    (l.renew due policyId).dueDate = some due := by
  rw [l.renew_eq h]
  rfl

end Loan

namespace LoanPolicy

variable {p : LoanPolicy} {l l' : Loan} {now now' due : DateTime}

/-! ## What is proposed -/

/-- whether the dates of renewals count from the day of the renewal, and not from the due date -/
def RenewsFromSystemDate (p : LoanPolicy) : Prop :=
  p.isFixed = true ∨ p.isRolling = true ∧ RenewFrom.ofId? p.renewFromId = some .systemDate

instance (p : LoanPolicy) : Decidable p.RenewsFromSystemDate := by unfold RenewsFromSystemDate; infer_instance

theorem RenewsFromSystemDate.renewFrom (hp : p.RenewsFromSystemDate) (hr : p.isRolling = true) :
    RenewFrom.ofId? p.renewFromId = some .systemDate := by
  rcases hp with hf | ⟨-, hfrom⟩
  · rw [isFixed_of_isRolling hr] at hf
    cases hf
  · exact hfrom

/-- a rolling renewal from the system date is that date and the period, within the schedule -/
theorem renewalDueDate_systemDate (hr : p.isRolling = true) (hfrom : RenewFrom.ofId? p.renewFromId = some .systemDate) :
    p.renewalDueDate l (some now) = Outcome.andThen (p.renewalPeriod.addTo (some now) p.violation) fun sum =>
      p.renewalLimitSchedule.truncate sum l.loanDate (p.violation DueDateRule.renewalOutsideSchedule) := by
  have hbase : DueDateRule.renewalBase (some now) p.renewFromId p.violation l = .ok now := by
    simp only [DueDateRule.renewalBase, hfrom]
  rw [renewalDueDate, renewalRule_rolling hr, DueDateRule.dueDate, hbase, Outcome.andThen_ok]
  rfl

/-- what is proposed does not depend on the due date of the loan, or on how often it was renewed -/
theorem renewalDueDate_congr (hp : p.RenewsFromSystemDate) (h : l'.loanDate = l.loanDate) :
    p.renewalDueDate l' (some now) = p.renewalDueDate l (some now) := by
  rcases hp with hf | ⟨hr, hfrom⟩
  · rw [renewalDueDate, renewalDueDate, renewalRule_fixed hf]
    rfl
  · rw [renewalDueDate_systemDate hr hfrom, renewalDueDate_systemDate hr hfrom, h]

/-- the schedule of a policy refuses every date for a loan, or limits all of them by the last one -/
theorem truncate_eq_withinLast {outside : Violation} {o : Outcome DateTime}
    (h : p.renewalLimitSchedule.truncate due l.loanDate outside = .ok o) :
    o = if p.renewalLimitSchedule.isConfigured = true ∧ p.lastDueDate? l = none then .violation outside
      else .ok (withinLast (p.lastDueDate? l) due) := by
  unfold lastDueDate?
  generalize p.renewalLimitSchedule = s at h
  generalize l.loanDate = lent at h
  cases hs : s.isConfigured with
  | false =>
    cases (Schedule.truncate_unconfigured hs).symm.trans h
    cases s with
    | configured id name ranges => cases hs
    | unconfigured => cases lent <;> rfl
  | true =>
    cases lent with
    | none => exact Schedule.eq_violation_of_truncate_none hs h
    | some lent =>
      rw [Schedule.truncate_eq hs h, Option.bind_some]
      cases s.governing? lent <;> rfl

/-- two proposals at different times are two sums within the same last date; once there was one, the period and the
schedule refuse none -/
theorem renewalDueDate_again {proposed : Outcome DateTime} (hr : p.isRolling = true)
    (hfrom : RenewFrom.ofId? p.renewFromId = some .systemDate)
    (h : p.renewalDueDate l (some now) = .ok (.ok due)) (h' : p.renewalDueDate l (some now') = .ok proposed) :
    ∃ sum sum', p.renewalPeriod.Adds now sum ∧ p.renewalPeriod.Adds now' sum' ∧
      due = withinLast (p.lastDueDate? l) sum ∧ proposed = .ok (withinLast (p.lastDueDate? l) sum') := by
  rw [renewalDueDate_systemDate hr hfrom] at h h'
  obtain ⟨sum, hsum, htruncate⟩ := Outcome.andThen_eq_ok.1 h
  have hlimit := truncate_eq_withinLast htruncate
  have hadds : p.renewalPeriod.Adds now sum := (Period.addTo_some_eq_ok _).1 hsum
  have hgoverned : ¬ (p.renewalLimitSchedule.isConfigured = true ∧ p.lastDueDate? l = none) := by
    intro hnone
    rw [if_pos hnone] at hlimit
    cases hlimit
  rw [if_neg hgoverned] at hlimit
  rcases hsum' : p.renewalPeriod.addTo (some now') p.violation with f | sum' | c
  · rw [hsum'] at h'
    cases h'
  · rw [hsum', Outcome.andThen_ok] at h'
    have hlimit' := truncate_eq_withinLast h'
    rw [if_neg hgoverned] at hlimit'
    exact ⟨sum, sum', hadds, (Period.addTo_some_eq_ok _).1 hsum', Outcome.ok.inj hlimit, hlimit'⟩
  · obtain ⟨problem, message, hproblem, -⟩ := Period.addTo_eq_failed.1 hsum'
    obtain ⟨i, n, span, hcheck, -⟩ := hadds
    cases hproblem.symm.trans hcheck

/-! ## Refused because nothing would change -/

/-- whether a renewal is refused, and one of the reasons is that it would not change the due date -/
def RefusedUnchanged (p : LoanPolicy) (l : Loan) (systemDate : DateTime) : Prop :=
  ∃ errors, (p.renew l (some systemDate)).value = .failed (.violations errors) ∧
    p.violation renewalChangesNothing ∈ errors

theorem renewalChangesNothing_not_mem_limitObjections (p : LoanPolicy) (l : Loan) :
    p.violation renewalChangesNothing ∉ p.limitObjections l := by
  intro h
  unfold limitObjections at h
  split at h
  · have hmessage : (renewalChangesNothing : Text) = renewalLimitReached :=
      congrArg Violation.message (List.mem_singleton.1 h)
    exact absurd hmessage (by decide)
  · cases h

/-- a renewal is refused with the rules against the date and the limit, if it is -/
theorem eq_objections_of_renewByRule {same : Bool} {errors : List Violation}
    (hdue : p.renewalDueDate l (some now) = .ok (.ok due)) (hsame : isSameOrBefore l due = .ok same)
    (h : p.renewByRule l (some now) = .ok (.failed (.violations errors))) :
    errors = (if same then [p.violation renewalChangesNothing] else []) ++ p.limitObjections l := by
  have herrors := renewalErrors_eq (dueDateErrors_eq_ok (p := p) hsame)
  by_cases hnil : (if same then [p.violation renewalChangesNothing] else []) ++ p.limitObjections l = []
  · rw [hnil] at herrors
    cases (renewByRule_granted hdue herrors).symm.trans h
  · cases (renewByRule_refused hdue herrors hnil).symm.trans h
    rfl

/-- **When a renewal changes nothing.** Where a date is proposed, it is a reason for refusal exactly if it is known not to
be after the due date of the loan. -/
theorem refusedUnchanged_iff {t : DateTime} (hlends : p.loanable = true) (hrenews : p.renewable = true)
    (hdue : p.renewalDueDate l (some t.ensureAware) = .ok (.ok due)) :
    p.RefusedUnchanged l t ↔ ∃ old, l.dueDate = some old ∧ due.NotAfter old := by
  have hvalue : ∀ errors, (p.renew l (some t)).value = .failed (.violations errors) ↔
      p.renewByRule l (some t.ensureAware) = .ok (.failed (.violations errors)) := by
    intro errors
    rw [← renewal_eq_renewByRule hlends hrenews]
    exact Outcome.settle_eq_violations
  rw [← isSameOrBefore_eq_true_iff, RefusedUnchanged]
  simp only [hvalue]
  constructor
  · rintro ⟨errors, hrefused, hmem⟩
    cases hsame : isSameOrBefore l due with
    | error f =>
      simp [renewByRule, hdue, renewalErrors, dueDateErrors, hsame] at hrefused
    | ok same =>
      cases same with
      | true => rfl
      | false =>
        rw [eq_objections_of_renewByRule hdue hsame hrefused] at hmem
        exact absurd hmem (p.renewalChangesNothing_not_mem_limitObjections l)
  · intro hsame
    have herrors := renewalErrors_eq (dueDateErrors_eq_ok (p := p) hsame)
    exact ⟨_, renewByRule_refused hdue herrors (by simp), by simp⟩

/-! ## Once more at the same time -/

/-- renewed once more at the same time, a loan is refused unless it was given a date without a zone -/
theorem refusedUnchanged_again_iff {t : DateTime} (hp : p.RenewsFromSystemDate) (hlends : p.loanable = true)
    (hrenews : p.renewable = true) (hdue : p.renewalDueDate l (some t.ensureAware) = .ok (.ok due)) :
    p.RefusedUnchanged (l.renew due p.id) t ↔ due.isAware = true := by
  have hagain := (renewalDueDate_congr hp (l.loanDate_renew due p.id)).trans hdue
  rw [refusedUnchanged_iff hlends hrenews hagain, ← due.notAfter_ensureAware_iff]
  constructor
  · rintro ⟨old, hold, hle⟩
    cases hold
    exact hle
  · intro hle
    exact ⟨due.ensureAware, rfl, hle⟩

/-! ## Once more at an earlier time -/

/-- how a renewal at an earlier time may still lengthen a loan: the period counts months and the earlier time overtakes
the later one, while the due date does not reach the last one, if there is a last one -/
structure Overtaken (p : LoanPolicy) (l : Loan) (due early late : DateTime) : Prop where
  inMonths : ∃ n, p.renewalPeriod.check = .ok (.months, n) ∧ Wall.Overtakes n early.wall late.wall
  beforeLast : ∀ last, p.lastDueDate? l = some last → due.Before last

/-- the last date of a loan is in UTC if the due dates of the schedule are -/
theorem lastDueDate?_inUtc (hs : ∀ r ∈ p.renewalLimitSchedule.ranges, r.due.InUtc) :
    ∀ last, p.lastDueDate? l = some last → last.InUtc := by
  intro last hlast
  obtain ⟨lent, -, hrange⟩ := Option.bind_eq_some_iff.1 hlast
  obtain ⟨r, hr, rfl⟩ := Option.map_eq_some_iff.1 hrange
  exact hs r (List.mem_of_find?_eq_some hr)

/-- **Of two times in UTC the earlier one proposes no later date, unless it overtakes the other.** -/
theorem before_iff_overtaken {early late due due' : DateTime} (hr : p.isRolling = true)
    (hfrom : RenewFrom.ofId? p.renewFromId = some .systemDate)
    (hs : ∀ r ∈ p.renewalLimitSchedule.ranges, r.due.InUtc) (hearly : early.InUtc) (hlate : late.InUtc)
    (hle : early.NotAfter late) (hdue : p.renewalDueDate l (some late) = .ok (.ok due))
    (hdue' : p.renewalDueDate l (some early) = .ok (.ok due')) :
    due.Before due' ↔ p.Overtaken l due early late := by
  obtain ⟨sum, sum', hsum, hsum', rfl, hwithin⟩ := renewalDueDate_again hr hfrom hdue hdue'
  cases hwithin
  have hutc : sum.InUtc := hsum.zone_eq.trans hlate
  have hutc' : sum'.InUtc := hsum'.zone_eq.trans hearly
  rw [hutc.before_withinLast_iff hutc' (lastDueDate?_inUtc hs),
    Period.adds_lt_iff ((hearly.notAfter_iff hlate).1 hle) hsum' hsum]
  constructor
  · rintro ⟨hmonths, hlast⟩
    exact ⟨hmonths, hlast⟩
  · rintro ⟨hmonths, hlast⟩
    exact ⟨hmonths, hlast⟩

/-- after a renewal, an earlier time is refused unless it overtakes the time of that renewal -/
theorem refusedUnchanged_earlier_iff {t t' : DateTime} {proposed : Outcome DateTime} (hr : p.isRolling = true)
    (hfrom : RenewFrom.ofId? p.renewFromId = some .systemDate) (hlends : p.loanable = true)
    (hrenews : p.renewable = true) (hs : ∀ r ∈ p.renewalLimitSchedule.ranges, r.due.InUtc)
    (ht' : t'.ensureAware.InUtc) (ht : t.ensureAware.InUtc) (hle : t'.ensureAware.NotAfter t.ensureAware)
    (hdue : p.renewalDueDate l (some t.ensureAware) = .ok (.ok due))
    (hproposed : p.renewalDueDate (l.renew due p.id) (some t'.ensureAware) = .ok proposed) :
    p.RefusedUnchanged (l.renew due p.id) t' ↔ ¬ p.Overtaken l due t'.ensureAware t.ensureAware := by
  have hbefore := (renewalDueDate_congr (.inr ⟨hr, hfrom⟩) (l.loanDate_renew due p.id)).symm.trans hproposed
  obtain ⟨-, sum', -, -, -, rfl⟩ := renewalDueDate_again hr hfrom hdue hbefore
  have haware : due.isAware = true := renewalDueDate_isAware hr (zoned_some ht.isAware) hdue
  have haware' := renewalDueDate_isAware hr (zoned_some ht'.isAware) hbefore
  rw [refusedUnchanged_iff hlends hrenews hproposed, l.dueDate_renew haware,
    ← before_iff_overtaken hr hfrom hs ht' ht hle hdue hbefore, ← DateTime.not_notAfter haware' haware, not_not]
  simp

/-- **A repeated renewal is refused.** A policy is fixed, or is rolling and renews from the system date, and renews a loan
at some time to the date that it proposes. Once more at the same time it refuses the loan, and that the due date would not
change is one of the reasons, exactly if that date has a zone; it has one where the policy is rolling or its schedules hold
dates with a zone. If the policy is rolling and the dates are in UTC, an earlier time for which a date can be calculated is
refused as well, exactly if it does not overtake the time of the first renewal. -/
theorem renew_repeated (p : LoanPolicy) (hp : p.RenewsFromSystemDate) (l l' : Loan) (t : DateTime)
    (hok : (p.renew l (some t)).value = .ok l') :
    ∃ due, p.renewalDueDate l (some t.ensureAware) = .ok (.ok due) ∧
      (p.RefusedUnchanged l' t ↔ due.isAware = true) ∧
      (p.isRolling = true ∨ p.SchedulesAware → due.isAware = true) ∧
      (p.isRolling = true → t.ensureAware.InUtc → (∀ r ∈ p.renewalLimitSchedule.ranges, r.due.InUtc) →
        ∀ t' : DateTime, t'.ensureAware.InUtc → t'.ensureAware.NotAfter t.ensureAware →
          (∃ proposed, p.renewalDueDate l' (some t'.ensureAware) = .ok proposed) →
          (p.RefusedUnchanged l' t' ↔ ¬ p.Overtaken l due t'.ensureAware t.ensureAware)) := by
  have hrenewal : p.renewal l (some t.ensureAware) = .ok (.ok l') := Outcome.settle_eq_ok.1 hok
  obtain ⟨hlends, hrenews, due, hdue, -, -, rfl⟩ := renewal_eq_ok.1 hrenewal
  have hnow : Zoned (some t.ensureAware) := zoned_some (t.isAware_ensureAware _)
  refine ⟨due, hdue, refusedUnchanged_again_iff hp hlends hrenews hdue, ?_, ?_⟩
  · rintro (hr | hs)
    · exact renewalDueDate_isAware hr hnow hdue
    · exact hs.renewalDueDate hnow hdue
  · rintro hr ht hs t' ht' hle ⟨proposed, hproposed⟩
    exact refusedUnchanged_earlier_iff hr (hp.renewFrom hr) hlends hrenews hs ht' ht hle hdue hproposed

/-- a policy that renews for one month from the day of the renewal, as often as it is asked -/
def monthlyPolicy : LoanPolicy :=
  { id := some "policy-1", loanable := true, renewable := true, profileId := some "Rolling",
    checkoutPeriod := .of .months 1, unlimitedRenewals := true, renewFromId := some "SYSTEM_DATE" }

/-- renewed on the last day of March a loan is due on the last day of April, and so it would be if it were renewed on the
day before -/
theorem renew_repeated_april :
    let l' := marchLoan.renew (.utcDay 2024 4 30) (some "policy-1")
    monthlyPolicy.RenewsFromSystemDate ∧
      (monthlyPolicy.renew marchLoan (some (.utcDay 2024 3 31))).value = .ok l' ∧
      monthlyPolicy.RefusedUnchanged l' (.utcDay 2024 3 31) ∧ monthlyPolicy.RefusedUnchanged l' (.utcDay 2024 3 30) := by
  intro l'
  have hp : monthlyPolicy.RenewsFromSystemDate := by decide
  have hok : (monthlyPolicy.renew marchLoan (some (.utcDay 2024 3 31))).value = .ok l' := by decide +kernel
  obtain ⟨due, -, hagain, haware, hearlier⟩ := renew_repeated monthlyPolicy hp marchLoan l' (.utcDay 2024 3 31) hok
  have hr : monthlyPolicy.isRolling = true := by decide
  refine ⟨hp, hok, hagain.2 (haware (.inl hr)), ?_⟩
  have hs : ∀ r ∈ monthlyPolicy.renewalLimitSchedule.ranges, r.due.InUtc := by decide
  have hproposed : monthlyPolicy.renewalDueDate l' (some (DateTime.utcDay 2024 3 30).ensureAware) =
      .ok (.ok (.utcDay 2024 4 30)) := by decide +kernel
  refine (hearlier hr rfl hs (.utcDay 2024 3 30) rfl (by decide) ⟨_, hproposed⟩).2 ?_
  rintro ⟨⟨n, -, hovertakes⟩, -⟩
  -- both renewals are at midnight
  exact absurd hovertakes.laterTime (by decide)

/-- a point in time on a day in UTC, some minutes after midnight -/
def utcClock (d : Date) (minutes : Fin 1440) : DateTime := { berlinClock d minutes with zone := some .utc }

/-- a fixed policy with a due date for January 2024 that has no zone, which renews as often as it is asked -/
def bareRenewalPolicy : LoanPolicy :=
  { januaryPolicy.unlimited with
    profileId := some "Fixed", checkoutSchedule := januaryPolicy.checkoutSchedule.withBareDueDates }

/-- **Not every repeated renewal is refused.** Under the one policy the loan is renewed to a date without a zone, which
stops the second renewal at the same time. Under the other it is renewed one hour into the last day of January, and then
two hours before that to a later date. -/
theorem renew_repeated_unrefused :
    let renewed := januaryLoan.renew (.utcDay 2024 2 15) (some "policy-1")
    let night := utcClock ⟨2024, 1, 31, by decide⟩ 60
    let before := utcClock ⟨2024, 1, 30, by decide⟩ 1380
    let monthly := januaryLoan.renew (utcClock ⟨2024, 2, 29, by decide⟩ 60) (some "policy-1")
    (bareRenewalPolicy.renew januaryLoan (some (.utcDay 2024 1 20))).value = .ok renewed ∧
      (bareRenewalPolicy.renew renewed (some (.utcDay 2024 1 20))).value =
        .failed (.serverError Fault.zoneMissing.report) ∧
      (monthlyPolicy.renew januaryLoan (some night)).value = .ok monthly ∧ before.NotAfter night ∧
      (monthlyPolicy.renew monthly (some before)).value =
        .ok (monthly.renew (utcClock ⟨2024, 2, 29, by decide⟩ 1380) (some "policy-1")) := by
  decide +kernel

end LoanPolicy

end Lending
