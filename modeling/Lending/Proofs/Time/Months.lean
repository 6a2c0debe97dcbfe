/-
Adding months, and the order of what comes out.

A day is in a month of the calendar (`Date.monthNumber`), and the days of an earlier month come before those of a later
one. Adding months keeps the day of the month, or takes the last day where the month reached is shorter
(`Wall.addMonths_eq_ok`). So a span that is added to two readings keeps their order, with one exception
(`Delta.ticks_lt_iff_overtakes`): of two days of one month that both end up on the last day of the month reached, the
earlier one overtakes the later one if it has the later time of day.
-/
import Lending.Proofs.Time.Order

namespace Lending

namespace Date

variable {d e : Date}

/-! ## Days by their months -/

/-- the number of the month in which a day is, counted through the years -/
def monthNumber (d : Date) : Nat := 12 * d.year + (d.month - 1)

theorem year_month_of_monthNumber_eq (h : d.monthNumber = e.monthNumber) : d.year = e.year ∧ d.month = e.month := by
  obtain ⟨-, -, hd, hd', -⟩ := d.isDay
  obtain ⟨-, -, he, he', -⟩ := e.isDay
  unfold monthNumber at h
  omega

/-- a day comes before the days of the next month of its year -/
theorem ordinal_lt_of_month_lt (hyear : d.year = e.year) (h : d.month < e.month) : d.ordinal < e.ordinal := by
  obtain ⟨-, -, hm, -, hk, hk'⟩ := d.isDay
  obtain ⟨-, -, -, hm', -, -⟩ := e.isDay
  have hnext : daysBeforeMonth d.year (d.month + 1) = daysBeforeMonth d.year d.month + daysInMonth d.year d.month :=
    daysBeforeMonth_succ d.year d.month hm (by omega)
  have hbegun : daysBeforeMonth d.year (d.month + 1) ≤ daysBeforeMonth d.year e.month :=
    daysBeforeMonth_mono d.year (by omega) h hm'
  unfold ordinal
  rw [← hyear]
  omega

/-- a day comes before the days of a later year -/
theorem ordinal_lt_of_year_lt (h : d.year < e.year) : d.ordinal < e.ordinal := by
  have hend : d.ordinal < daysBeforeYear (d.year + 1) := by
    rw [daysBeforeYear_succ d.year d.isDay.1]
    exact d.ordinal_bounds.2
  calc d.ordinal
    _ < daysBeforeYear (d.year + 1) := hend
    _ ≤ daysBeforeYear e.year := daysBeforeYear_mono h
    _ ≤ e.ordinal := e.ordinal_bounds.1

theorem ordinal_lt_of_monthNumber_lt (h : d.monthNumber < e.monthNumber) : d.ordinal < e.ordinal := by
  obtain ⟨-, -, hd, hd', -⟩ := d.isDay
  obtain ⟨-, -, he, he', -⟩ := e.isDay
  unfold monthNumber at h
  rcases Nat.lt_trichotomy d.year e.year with hlt | heq | hgt
  · exact ordinal_lt_of_year_lt hlt
  · exact ordinal_lt_of_month_lt heq (by omega)
  · omega

/-- days of one month are ordered by the day of the month -/
theorem ordinal_lt_iff_of_monthNumber_eq (h : d.monthNumber = e.monthNumber) : d.ordinal < e.ordinal ↔ d.day < e.day := by
  obtain ⟨hyear, hmonth⟩ := year_month_of_monthNumber_eq h
  have hd := d.isDay.2.2.2.2.1
  have he := e.isDay.2.2.2.2.1
  unfold ordinal
  rw [hyear, hmonth]
  omega

end Date

namespace Wall

variable {v v' w w' : Wall} {n : Nat}

/-- a reading is its day and its time of day -/
theorem ticks_eq (w : Wall) : w.ticks = w.date.ordinal * ticksPerDay + w.time.ticks :=
  congrArg Wall.ticks w.of_date_time.symm

/-- readings are ordered by their days, and on one day by the time of day -/
theorem ticks_lt_iff :
    v.ticks < w.ticks ↔
      v.date.ordinal < w.date.ordinal ∨ v.date.ordinal = w.date.ordinal ∧ v.time.ticks < w.time.ticks := by
  have hv := v.time.inDay
  have hw := w.time.inDay
  rw [v.ticks_eq, w.ticks_eq]
  unfold ticksPerDay at *
  omega

theorem ticks_lt_of_monthNumber_lt (h : v.date.monthNumber < w.date.monthNumber) : v.ticks < w.ticks :=
  ticks_lt_iff.2 (.inl (Date.ordinal_lt_of_monthNumber_lt h))

/-- readings of one month are ordered by the day of the month, and on one day by the time of day -/
theorem ticks_lt_iff_of_monthNumber_eq (h : v.date.monthNumber = w.date.monthNumber) :
    v.ticks < w.ticks ↔ v.date.day < w.date.day ∨ v.date.day = w.date.day ∧ v.time.ticks < w.time.ticks := by
  have hlt := Date.ordinal_lt_iff_of_monthNumber_eq h
  have hgt := Date.ordinal_lt_iff_of_monthNumber_eq h.symm
  rw [ticks_lt_iff]
  omega

/-! ## Adding months -/

/-- the days of the month a number of months after that of a reading -/
def daysInMonthAfter (w : Wall) (n : Nat) : Nat :=
  daysInMonth (w.date.year + (w.date.month - 1 + n) / 12) ((w.date.month - 1 + n) % 12 + 1)

theorem daysInMonthAfter_congr (h : v.date.monthNumber = w.date.monthNumber) :
    v.daysInMonthAfter n = w.daysInMonthAfter n := by
  obtain ⟨hyear, hmonth⟩ := Date.year_month_of_monthNumber_eq h
  rw [daysInMonthAfter, hyear, hmonth, daysInMonthAfter]

theorem day_le_daysInMonthAfter_zero (w : Wall) : w.date.day ≤ w.daysInMonthAfter 0 := by
  obtain ⟨-, -, hm, hm', -, hk⟩ := w.date.isDay
  have hyear : w.date.year + (w.date.month - 1 + 0) / 12 = w.date.year := by omega
  have hmonth : (w.date.month - 1 + 0) % 12 + 1 = w.date.month := by omega
  rw [daysInMonthAfter, hyear, hmonth]
  exact hk

/-- the reading some months later: the month is so many further on, the day is the same or the last one of the month, and
the time of day stays -/
theorem addMonths_eq_ok (h : w.addMonths n = .ok w') :
    w'.date.monthNumber = w.date.monthNumber + n ∧ w'.date.day = min w.date.day (w.daysInMonthAfter n) ∧
      w'.time = w.time := by
  obtain ⟨-, -, hm, hm', -⟩ := w.date.isDay
  unfold addMonths at h
  dsimp only at h
  split at h
  · cases h
    rw [date_of, time_of]
    refine ⟨?_, rfl, rfl⟩
    unfold Date.monthNumber
    dsimp only
    omega
  · cases h

/-- months can be added up to the last month of the calendar -/
theorem addMonths_isOk_iff : (∃ w', w.addMonths n = .ok w') ↔ w.date.monthNumber + n < 12 * 10000 := by
  obtain ⟨-, -, hm, hm', -⟩ := w.date.isDay
  unfold addMonths Date.monthNumber
  dsimp only
  split
  · next hyear => exact iff_of_true ⟨_, rfl⟩ (by omega)
  · next hyear => exact iff_of_false (by simp) (by omega)

theorem monthNumber_mono (h : v.ticks ≤ w.ticks) : v.date.monthNumber ≤ w.date.monthNumber := by
  by_contra hlt
  have hbefore : w.ticks < v.ticks := ticks_lt_of_monthNumber_lt (by omega)
  omega

theorem addMonths_zero (w : Wall) : w.addMonths 0 = .ok w := by
  obtain ⟨-, hyear, -, hmonth, -⟩ := w.date.isDay
  have hexists : ∃ w', w.addMonths 0 = .ok w' := addMonths_isOk_iff.2 (by unfold Date.monthNumber; omega)
  obtain ⟨w', hw'⟩ := hexists
  obtain ⟨hnumber, hday, htime⟩ := addMonths_eq_ok hw'
  obtain ⟨hyear', hmonth'⟩ := Date.year_month_of_monthNumber_eq hnumber
  rw [Nat.min_eq_left w.day_le_daysInMonthAfter_zero] at hday
  have hdate : w'.date = w.date := by
    rw [Date.mk.injEq]
    exact ⟨hyear', hmonth', hday⟩
  rw [hw', ← w'.of_date_time, hdate, htime, w.of_date_time]

/-- how an earlier reading overtakes a later one when months are added to both: they are of one month, both days are set
back to the last day of the month reached, and the earlier one has the later time of day -/
structure Overtakes (n : Nat) (early late : Wall) : Prop where
  sameMonth : early.date.monthNumber = late.date.monthNumber
  earlierDay : early.date.day < late.date.day
  pastEnd : late.daysInMonthAfter n ≤ early.date.day
  laterTime : late.time.ticks < early.time.ticks

/-- without months to add, no reading overtakes another -/
theorem not_overtakes_zero : ¬ Overtakes 0 v w := fun h => by
  have hday := w.day_le_daysInMonthAfter_zero
  have := h.earlierDay
  have := h.pastEnd
  omega

/-- **Adding months keeps the order, unless one reading overtakes the other.** -/
theorem addMonths_lt_iff_overtakes (hle : v.ticks ≤ w.ticks) (hv : v.addMonths n = .ok v')
    (hw : w.addMonths n = .ok w') : w'.ticks < v'.ticks ↔ Overtakes n v w := by
  obtain ⟨hmonth, hday, htime⟩ := addMonths_eq_ok hv
  obtain ⟨hmonth', hday', htime'⟩ := addMonths_eq_ok hw
  rcases Nat.lt_trichotomy v.date.monthNumber w.date.monthNumber with hlt | heq | hgt
  · -- the later reading reaches a later month
    have hbefore : v'.ticks < w'.ticks := ticks_lt_of_monthNumber_lt (by omega)
    refine iff_of_false (by omega) fun h => ?_
    have := h.sameMonth
    omega
  · have hnot : ¬ w.ticks < v.ticks := by omega
    rw [ticks_lt_iff_of_monthNumber_eq heq.symm] at hnot
    rw [ticks_lt_iff_of_monthNumber_eq (by omega), hday, hday', htime, htime', daysInMonthAfter_congr heq]
    constructor
    · intro h
      exact ⟨heq, by omega, by omega, by omega⟩
    · rintro ⟨-, hearlier, hend, hlater⟩
      omega
  · have hbefore : w.ticks < v.ticks := ticks_lt_of_monthNumber_lt hgt
    omega

end Wall

/-! ## Adding a span -/

theorem Wall.ofTicks?_eq_some {n : Int} {w : Wall} : Wall.ofTicks? n = some w ↔ (w.ticks : Int) = n := by
  unfold ofTicks?
  constructor
  · intro h
    split at h
    · next hn =>
      have hw := congrArg Wall.ticks (Option.some.inj h)
      exact (congrArg Int.ofNat hw).symm.trans (Int.toNat_of_nonneg hn.1)
    · cases h
  · rintro rfl
    have hrange : (0 : Int) ≤ w.ticks ∧ (w.ticks : Int) < (dayCount * ticksPerDay : Nat) :=
      ⟨Int.natCast_nonneg _, Int.ofNat_lt.2 w.inRange⟩
    rw [dif_pos hrange]
    rfl

/-- moved on the wall clock, a date keeps its zone and loses its fold -/
theorem DateTime.shift_eq_ok {d due : DateTime} {span : Int} :
    d.shift span = .ok due ↔ due.zone = d.zone ∧ due.fold = false ∧ (due.wall.ticks : Int) = d.wall.ticks + span := by
  obtain ⟨w, z, fold⟩ := due
  rw [← Wall.ofTicks?_eq_some, shift, Wall.shift?]
  cases Wall.ofTicks? (d.wall.ticks + span) with
  | none => simp
  | some v =>
    simp only [Except.ok.injEq, Option.some.injEq, DateTime.mk.injEq]
    constructor
    · rintro ⟨rfl, rfl, rfl⟩
      exact ⟨rfl, rfl, rfl⟩
    · rintro ⟨rfl, rfl, rfl⟩
      exact ⟨rfl, rfl, rfl⟩

/-- the wall clock can be moved within the calendar -/
theorem DateTime.shift_isOk_iff {d : DateTime} {span : Int} :
    (∃ due, d.shift span = .ok due) ↔
      0 ≤ d.wall.ticks + span ∧ d.wall.ticks + span < (dayCount * ticksPerDay : Nat) := by
  unfold shift Wall.shift? Wall.ofTicks?
  by_cases h : 0 ≤ d.wall.ticks + span ∧ d.wall.ticks + span < (dayCount * ticksPerDay : Nat)
  · rw [dif_pos h]
    exact iff_of_true ⟨_, rfl⟩ h
  · rw [dif_neg h]
    exact iff_of_false (by simp) h

namespace Delta

/-- the months of a span, those of its years included -/
def allMonths (s : Delta) : Nat := 12 * s.years + s.months

/-- the sum of a date and a span: the reading is moved, the zone stays, and the fold is lost -/
theorem addTo_eq_ok_iff {s : Delta} {d due : DateTime} :
    s.addTo d = .ok due ↔
      ∃ w n, d.wall.addMonths s.allMonths = .ok w ∧ s.ticks = .ok n ∧ due.zone = d.zone ∧ due.fold = false ∧
        due.wall.ticks = w.ticks + n := by
  simp only [addTo, bind_eq_ok, DateTime.shift_eq_ok, ← Int.natCast_add, Int.natCast_inj]
  constructor
  · rintro ⟨w, hw, n, hn, hdue⟩
    exact ⟨w, n, hw, hn, hdue⟩
  · rintro ⟨w, n, hw, hn, hdue⟩
    exact ⟨w, hw, n, hn, hdue⟩

/-- a span moves the reading by its months, and then by a number of microseconds that does not depend on the date -/
theorem addTo_eq_ok {s : Delta} {d due : DateTime} (h : s.addTo d = .ok due) :
    ∃ w n, d.wall.addMonths s.allMonths = .ok w ∧ s.ticks = .ok n ∧ due.wall.ticks = w.ticks + n := by
  obtain ⟨w, n, hw, hn, -, -, hticks⟩ := addTo_eq_ok_iff.1 h
  exact ⟨w, n, hw, hn, hticks⟩

/-- a span can be added if its months and its microseconds stay within the calendar -/
theorem addTo_isOk_iff {s : Delta} {d : DateTime} :
    (∃ due, s.addTo d = .ok due) ↔
      ∃ w n, d.wall.addMonths s.allMonths = .ok w ∧ s.ticks = .ok n ∧ w.ticks + n < dayCount * ticksPerDay := by
  constructor
  · rintro ⟨due, hdue⟩
    obtain ⟨w, n, hw, hn, hticks⟩ := addTo_eq_ok hdue
    exact ⟨w, n, hw, hn, hticks ▸ due.wall.inRange⟩
  · rintro ⟨w, n, hw, hn, hrange⟩
    have hshift : ∃ due, ({ d with wall := w } : DateTime).shift n = .ok due :=
      DateTime.shift_isOk_iff.2 (by dsimp only; omega)
    obtain ⟨due, hdue⟩ := hshift
    refine ⟨due, ?_⟩
    simp only [addTo, bind_eq_ok]
    exact ⟨w, hw, n, hn, hdue⟩

/-- **A span keeps the order, unless one date overtakes the other.** -/
theorem ticks_lt_iff_overtakes {s : Delta} {early late due due' : DateTime} (hle : early.wall.ticks ≤ late.wall.ticks)
    (hearly : s.addTo early = .ok due') (hlate : s.addTo late = .ok due) :
    due.wall.ticks < due'.wall.ticks ↔ Wall.Overtakes s.allMonths early.wall late.wall := by
  obtain ⟨v, n, hv, hn, hdue'⟩ := addTo_eq_ok hearly
  obtain ⟨w, n', hw, hn', hdue⟩ := addTo_eq_ok hlate
  cases hn.symm.trans hn'
  rw [← Wall.addMonths_lt_iff_overtakes hle hv hw, hdue, hdue']
  omega

end Delta

end Lending
