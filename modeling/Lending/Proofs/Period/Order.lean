/-
Adding a period, and the order of what comes out.

A good period moves a date by its months, if it counts any, and then by a fixed number of microseconds (`Adds.moved`). So
it moves every date forward (`Adds.before`), and if it can be added to a date then it can be added to an earlier one
(`Adds.of_le`). It keeps the order of two dates, except where months are counted and the earlier date overtakes the later
one (`adds_lt_iff`): both fall on the last day of the month reached and keep their times of day. `addTo_ordered` puts these
together; `overtaken_at_month_end` are two dates that change places.
-/
import Mathlib.Tactic
import Lending.Proofs.Period
import Lending.Proofs.Time.Months

namespace Lending

namespace Interval

variable {i : Interval} {n m : Nat} {span : Delta}

/-- the microseconds of a unit; those of a month are not fixed, and are counted as none -/
def ticks : Interval → Nat
  | minutes => ticksPerMinute
  | hours => ticksPerHour
  | days => ticksPerDay
  | weeks => 7 * ticksPerDay
  | months => 0

theorem ticks_pos (h : i ≠ months) : 0 < i.ticks := by
  cases i with
  | months => exact absurd rfl h
  | _ => decide

/-- only a span of months has any -/
theorem allMonths_of_delta (h : i.delta n = .ok span) : span.allMonths = if i = .months then n else 0 := by
  cases i with
  | minutes =>
    simp only [delta, Delta.ofMinutes] at h
    split at h <;> cases h
    rfl
  | hours =>
    simp only [delta, Delta.ofHours] at h
    split at h <;> cases h
    rfl
  | days =>
    cases h
    rfl
  | weeks =>
    cases h
    rfl
  | months =>
    simp only [delta, Delta.ofMonths] at h
    split at h <;> cases h
    simp only [Delta.allMonths, if_true]
    omega

/-- the wall clock measures a span by its units -/
theorem ticks_of_delta (h : i.delta n = .ok span) (hm : span.ticks = .ok m) : m = n * i.ticks := by
  have hsum : m = span.days * ticksPerDay + span.hours * ticksPerHour + span.minutes * ticksPerMinute := by
    unfold Delta.ticks at hm
    split_ifs at hm
    exact (Except.ok.inj hm).symm
  have hday : ticksPerDay = 24 * ticksPerHour := rfl
  have hhour : ticksPerHour = 60 * ticksPerMinute := rfl
  rw [hsum]
  cases i with
  | minutes =>
    simp only [delta, Delta.ofMinutes] at h
    split at h <;> cases h
    have hn : 24 * 60 * (n / 60 / 24) + 60 * (n / 60 % 24) + n % 60 = n := by omega
    rw [hday, hhour, ticks]
    linear_combination ticksPerMinute * hn
  | hours =>
    simp only [delta, Delta.ofHours] at h
    split at h <;> cases h
    have hn : 24 * (n / 24) + n % 24 = n := by omega
    rw [hday, ticks]
    linear_combination ticksPerHour * hn
  | days =>
    cases h
    simp [Delta.ofDays, ticks]
  | weeks =>
    cases h
    simp only [Delta.ofDays, ticks]
    ring
  | months =>
    simp only [delta, Delta.ofMonths] at h
    split at h <;> cases h
    simp [ticks]

end Interval

namespace Period

variable {p : Period} {i : Interval} {n : Nat} {base due early late sum sum' : DateTime}

/-- what a period moves a date by: its months, if it counts months, and then its units of a fixed length -/
theorem Adds.moved (h : p.Adds base due) :
    ∃ i n w, p.check = .ok (i, n) ∧ base.wall.addMonths (if i = .months then n else 0) = .ok w ∧
      due.wall.ticks = w.ticks + n * i.ticks := by
  obtain ⟨i, n, span, hcheck, hspan, hdue⟩ := h
  obtain ⟨w, m, hw, hm, hticks⟩ := Delta.addTo_eq_ok hdue
  rw [Interval.allMonths_of_delta hspan] at hw
  rw [Interval.ticks_of_delta hspan hm] at hticks
  exact ⟨i, n, w, hcheck, hw, hticks⟩

/-- units of a fixed length move the wall clock by their length -/
theorem Adds.ticks_eq (h : p.Adds base due) (hcheck : p.check = .ok (i, n)) (hi : i ≠ .months) :
    due.wall.ticks = base.wall.ticks + n * i.ticks := by
  obtain ⟨i', n', w, hcheck', hw, hticks⟩ := h.moved
  cases hcheck.symm.trans hcheck'
  rw [if_neg hi, Wall.addMonths_zero] at hw
  cases hw
  exact hticks

/-- **A period moves a date forward.** -/
theorem Adds.before (h : p.Adds base due) : base.Before due := by
  rw [DateTime.before_of_zone_eq h.zone_eq.symm]
  obtain ⟨i, n, w, hcheck, hw, hticks⟩ := h.moved
  have hn : 0 < n := duration?_pos (check_eq_ok_iff.1 hcheck).2
  by_cases hi : i = .months
  · rw [if_pos hi] at hw
    have hmonth := (Wall.addMonths_eq_ok hw).1
    have hlater : base.wall.ticks < w.ticks := Wall.ticks_lt_of_monthNumber_lt (by omega)
    omega
  · have hpos : 0 < n * i.ticks := Nat.mul_pos hn (Interval.ticks_pos hi)
    have hfixed := h.ticks_eq hcheck hi
    omega

/-- a period that can be added to a date can be added to an earlier one -/
theorem Adds.of_le (h : p.Adds late sum) (hle : early.wall.ticks ≤ late.wall.ticks) : ∃ sum', p.Adds early sum' := by
  obtain ⟨i, n, span, hcheck, hspan, hsum⟩ := h
  suffices hearly : ∃ sum', span.addTo early = .ok sum' by
    obtain ⟨sum', hsum'⟩ := hearly
    exact ⟨sum', i, n, span, hcheck, hspan, hsum'⟩
  obtain ⟨w, m, hw, hm, hrange⟩ := Delta.addTo_isOk_iff.1 ⟨sum, hsum⟩
  refine Delta.addTo_isOk_iff.2 ?_
  have hmonths : early.wall.date.monthNumber ≤ late.wall.date.monthNumber := Wall.monthNumber_mono hle
  have hlast := Wall.addMonths_isOk_iff.1 ⟨w, hw⟩
  obtain ⟨v, hv⟩ : ∃ v, early.wall.addMonths span.allMonths = .ok v := Wall.addMonths_isOk_iff.2 (by omega)
  refine ⟨v, m, hv, hm, ?_⟩
  -- either there are no microseconds to add, or there are no months
  by_cases hi : i = .months
  · subst hi
    have hnone : m = 0 := Interval.ticks_of_delta hspan hm
    rw [hnone]
    exact v.inRange
  · rw [Interval.allMonths_of_delta hspan, if_neg hi, Wall.addMonths_zero] at hv hw
    cases hv
    cases hw
    omega

/-- **A period keeps the order of dates, unless it counts months and one date overtakes the other.** -/
theorem adds_lt_iff (hle : early.wall.ticks ≤ late.wall.ticks) (hearly : p.Adds early sum') (hlate : p.Adds late sum) :
    sum.wall.ticks < sum'.wall.ticks ↔
      ∃ n, p.check = .ok (.months, n) ∧ Wall.Overtakes n early.wall late.wall := by
  obtain ⟨i, n, span, hcheck, hspan, hsum⟩ := hlate
  obtain ⟨i', n', span', hcheck', hspan', hsum'⟩ := hearly
  cases hcheck.symm.trans hcheck'
  cases hspan.symm.trans hspan'
  rw [Delta.ticks_lt_iff_overtakes hle hsum' hsum, Interval.allMonths_of_delta hspan]
  by_cases hi : i = .months
  · subst hi
    rw [if_pos rfl]
    constructor
    · exact fun h => ⟨n, hcheck, h⟩
    · rintro ⟨m, hm, h⟩
      cases hcheck.symm.trans hm
      exact h
  · rw [if_neg hi]
    refine iff_of_false Wall.not_overtakes_zero ?_
    rintro ⟨m, hm, -⟩
    cases hcheck.symm.trans hm
    exact hi rfl

/-- **Adding a period, and the order of dates.** A period with a recognized unit and a good duration is added to two dates
of one zone, or of none, the earlier of which is not after the later one. If there is a sum for the later date, then there
is one for the earlier date. Both sums are later than their dates and are in the same zone. The sum for the earlier date is
not after the other one, unless months are counted and the earlier date overtakes the later one. Where the unit has a fixed
length, different dates have different sums. -/
theorem addTo_ordered (hunit : p.unit? = some i) (hduration : p.duration? = some n) (hzone : early.zone = late.zone)
    (hle : early.NotAfter late) (errorFor : Text → Violation) (field : Option Text)
    (hlate : p.addTo (some late) errorFor field = .ok (.ok sum)) :
    ∃ sum', p.addTo (some early) errorFor field = .ok (.ok sum') ∧
      early.Before sum' ∧ late.Before sum ∧ sum'.zone = early.zone ∧ sum.zone = late.zone ∧
      (sum'.NotAfter sum ↔ ¬ (i = .months ∧ Wall.Overtakes n early.wall late.wall)) ∧
      (i ≠ .months → early.Before late → sum'.Before sum) := by
  have hcheck : p.check = .ok (i, n) := check_eq_ok_iff.2 ⟨hunit, hduration⟩
  have hwall := (DateTime.notAfter_of_zone_eq hzone).1 hle
  have hsum : p.Adds late sum := (addTo_some_eq_ok errorFor field).1 hlate
  obtain ⟨sum', hsum'⟩ := hsum.of_le hwall
  have hzone' : sum'.zone = sum.zone := by rw [hsum'.zone_eq, hzone, hsum.zone_eq]
  refine ⟨sum', (addTo_some_eq_ok errorFor field).2 hsum', hsum'.before, hsum.before, hsum'.zone_eq, hsum.zone_eq, ?_, ?_⟩
  · rw [DateTime.notAfter_of_zone_eq hzone', ← Nat.not_lt, adds_lt_iff hwall hsum' hsum, hcheck]
    simp
  · intro hi hbefore
    rw [DateTime.before_of_zone_eq hzone']
    rw [DateTime.before_of_zone_eq hzone] at hbefore
    rw [hsum.ticks_eq hcheck hi, hsum'.ticks_eq hcheck hi]
    omega

/-- a full hour of a day in UTC -/
def utcHour (d : Date) (hour : Fin 24) : DateTime :=
  ⟨.of d ⟨hour * ticksPerHour, by simp only [ticksPerHour, ticksPerDay]; omega⟩, some .utc, false⟩

/-- one month after the last days of January 2024: both dates reach the last day of February, in the order of their hours -/
theorem addTo_ordered_february :
    let month := Period.of .months 1
    let early := utcHour ⟨2024, 1, 30, by decide⟩ 1
    let late := utcHour ⟨2024, 1, 31, by decide⟩ 23
    month.unit? = some .months ∧ month.duration? = some 1 ∧ early.zone = late.zone ∧ early.NotAfter late ∧
      month.addTo (some late) ({ message := · }) = .ok (.ok (utcHour ⟨2024, 2, 29, by decide⟩ 23)) ∧
      ∃ sum', month.addTo (some early) ({ message := · }) = .ok (.ok sum') ∧
        sum'.NotAfter (utcHour ⟨2024, 2, 29, by decide⟩ 23) := by
  intro month early late
  have hunit : month.unit? = some .months := by decide +kernel
  have hduration : month.duration? = some 1 := by decide
  have hzone : early.zone = late.zone := rfl
  have hle : early.NotAfter late := by decide
  have hlate : month.addTo (some late) ({ message := · }) = .ok (.ok (utcHour ⟨2024, 2, 29, by decide⟩ 23)) := by
    decide +kernel
  obtain ⟨sum', hsum', -, -, -, -, hiff, -⟩ := addTo_ordered hunit hduration hzone hle _ none hlate
  refine ⟨hunit, hduration, hzone, hle, hlate, sum', hsum', hiff.2 ?_⟩
  rintro ⟨-, hovertakes⟩
  exact absurd hovertakes.laterTime (by decide)

/-- **Adding a month may put a later date before an earlier one.** One hour into the last day of January 2024 is after the
last hour of the day before, and one month later it is the other way round. -/
theorem overtaken_at_month_end :
    let month := Period.of .months 1
    let early := utcHour ⟨2024, 1, 30, by decide⟩ 23
    let late := utcHour ⟨2024, 1, 31, by decide⟩ 1
    let sum' := utcHour ⟨2024, 2, 29, by decide⟩ 23
    let sum := utcHour ⟨2024, 2, 29, by decide⟩ 1
    month.unit? = some .months ∧ month.duration? = some 1 ∧ early.Before late ∧
      month.addTo (some early) ({ message := · }) = .ok (.ok sum') ∧
      month.addTo (some late) ({ message := · }) = .ok (.ok sum) ∧ sum.Before sum' ∧ ¬ sum'.NotAfter sum := by
  intro month early late sum' sum
  have hback : sum.Before sum' := by decide
  exact ⟨by decide +kernel, by decide, by decide, by decide +kernel, by decide +kernel, hback, fun h => h.not_before hback⟩

end Period

end Lending
