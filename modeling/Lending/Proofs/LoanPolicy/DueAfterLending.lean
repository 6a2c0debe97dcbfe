/-
A check-out falls due after it starts.

A period moves the date of lending forward, and the range that governs this date ends after it. So among dates in UTC a
loan falls due too early only where the due date of the range is itself too early (`SelectionTable.before_iff`). That
cannot be so where no range is due before it ends (`calculateInitialDueDate_before`).
-/
import Lending.Proofs.LoanPolicy.InitialDueDate
import Lending.Proofs.Period.Order

namespace Lending

/-! ## Ranges in UTC -/

/-- a range whose dates are in UTC -/
structure ScheduleRange.InUtc (r : ScheduleRange) : Prop where
  start : r.start.InUtc
  stop : r.stop.InUtc
  due : r.due.InUtc

/-- a date in a range is before the due date, if the range is not due before it ends -/
theorem ScheduleRange.Contains.before_due {r : ScheduleRange} {d : DateTime} (h : r.Contains d) (hr : r.InUtc)
    (hd : d.InUtc) (hdue : r.stop.NotAfter r.due) : d.Before r.due := by
  have hstop : d.wall.ticks < r.stop.wall.ticks := (hd.before_iff hr.stop).1 h.2
  have hle : r.stop.wall.ticks ≤ r.due.wall.ticks := (hr.stop.notAfter_iff hr.due).1 hdue
  rw [hd.before_iff hr.due]
  omega

/-- a date is before the earlier of two dates if it is before both -/
theorem DateTime.InUtc.before_earlierOf_iff {d limit due : DateTime} (hd : d.InUtc) (hlimit : limit.InUtc)
    (hdue : due.InUtc) : d.Before (earlierOf limit due) ↔ d.Before limit ∧ d.Before due := by
  obtain ⟨hutc, hticks⟩ := hlimit.earlierOf_ticks hdue
  rw [hd.before_iff hutc, hd.before_iff hlimit, hd.before_iff hdue, hticks]
  omega

namespace LoanPolicy

variable {p : LoanPolicy} {l : Loan} {lent due : DateTime} {q : Option Queue}

/-! ## Check-outs -/

/-- a loan without a date of lending gets no due date -/
theorem exists_loanDate (h : p.initialDueDate l q = .ok (.ok due)) : ∃ lent, l.loanDate = some lent := by
  rcases p.checkOut_cases q with hs | ⟨hs, hprofile⟩ | ⟨hf, hnot⟩ | ⟨period, hperiod⟩
  · rw [initialDueDate_noProfile hs] at h
    cases h
  · rw [initialDueDate_unknownProfile hs hprofile] at h
    cases h
  · rw [initialDueDate_scheduled hf hnot] at h
    cases hl : l.loanDate with
    | some lent => exact ⟨lent, rfl⟩
    | none =>
      simp only [hl, DueDateRule.scheduledDue, Schedule.dueFor] at h
      split_ifs at h <;> cases h
  · rw [hperiod.initialDueDate_eq] at h
    obtain ⟨sum, hsum, -⟩ := Outcome.andThen_eq_ok.1 h
    obtain ⟨lent, hl, -⟩ := Period.addTo_zone hsum
    exact ⟨lent, hl⟩

/-- **Only a schedule lets a loan fall due too early.** Among dates in UTC, the due date of a check-out is after the date of
lending exactly if that of the range which governs is, if there is one. -/
theorem SelectionTable.before_iff (hrow : p.SelectionTable q lent (.ok due)) (hlent : lent.InUtc)
    (hs : ∀ r ∈ p.checkoutSchedule.ranges, r.InUtc) :
    lent.Before due ↔ ∀ r, p.checkoutSchedule.governing? lent = some r → lent.Before r.due := by
  cases hrow with
  | scheduled _ _ hr => simp [hr]
  | unlimited _ hadds hnone =>
    have hgoverning : p.checkoutSchedule.governing? lent = none := Schedule.governing?_unconfigured hnone
    simp [hgoverning, hadds.before]
  | @limited period sum r _ hadds _ hr =>
    have hrange : r.InUtc := hs r (Schedule.governing?_eq_some hr).1
    have hsum : sum.InUtc := hadds.zone_eq.trans hlent
    rw [hlent.before_earlierOf_iff hrange.due hsum, and_iff_left hadds.before]
    simp [hr]

/-- **A check-out falls due after it starts.** Where all dates are in UTC and no range of the schedule is due before it
ends, a due date that is calculated is after the date of lending, whatever the profile, and whether or not the period is
that for loans behind which a hold waits. -/
theorem calculateInitialDueDate_before (p : LoanPolicy) (hs : ∀ r ∈ p.checkoutSchedule.ranges, r.InUtc)
    (hdue : ∀ r ∈ p.checkoutSchedule.ranges, r.stop.NotAfter r.due) (l : Loan)
    (hlent : ∀ lent, l.loanDate = some lent → lent.InUtc) (q : Option Queue) (due : DateTime)
    (h : (p.calculateInitialDueDate l q).value = .ok due) :
    ∃ lent, l.loanDate = some lent ∧ lent.Before due := by
  have hresult : p.initialDueDate l q = .ok (.ok due) := Outcome.settle_eq_ok.1 h
  obtain ⟨lent, hl⟩ := exists_loanDate hresult
  refine ⟨lent, hl, ?_⟩
  rw [(selectionTable_of_initialDueDate hl hresult).before_iff (hlent lent hl) hs]
  intro r hr
  obtain ⟨hmem, hcontains⟩ := Schedule.governing?_eq_some hr
  exact hcontains.before_due (hs r hmem) (hlent lent hl) (hdue r hmem)

/-- a loan of January 2024 behind which a hold waits is due in February, though the alternate period would last longer -/
theorem calculateInitialDueDate_before_january :
    (fixedJanuaryPolicy.calculateInitialDueDate januaryLoan (some holdBehindRecall)).value = .ok (.utcDay 2024 2 15) ∧
      ∃ lent, januaryLoan.loanDate = some lent ∧ lent.Before (.utcDay 2024 2 15) := by
  have hs : ∀ r ∈ fixedJanuaryPolicy.checkoutSchedule.ranges, r.InUtc := List.forall_mem_singleton.2 ⟨rfl, rfl, rfl⟩
  have hdue : ∀ r ∈ fixedJanuaryPolicy.checkoutSchedule.ranges, r.stop.NotAfter r.due := by decide +kernel
  have hlent : ∀ lent, januaryLoan.loanDate = some lent → lent.InUtc := by
    rintro _ ⟨⟩
    rfl
  have h : (fixedJanuaryPolicy.calculateInitialDueDate januaryLoan (some holdBehindRecall)).value =
      .ok (.utcDay 2024 2 15) := by decide +kernel
  have hafter := calculateInitialDueDate_before fixedJanuaryPolicy hs hdue januaryLoan hlent (some holdBehindRecall)
    (.utcDay 2024 2 15) h
  exact ⟨h, hafter⟩

end LoanPolicy

end Lending
