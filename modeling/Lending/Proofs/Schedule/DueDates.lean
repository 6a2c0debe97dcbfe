/-
The due dates of a schedule, each moved to the end of its UTC day.

The day is that in which the instant of a due date falls in UTC, whatever its zone and fold: the end of a day is the last
microsecond of it, less than a day after every instant of the day (`EndsUtcDayOf`). A date whose time in UTC the calendar
holds has such an end (`InCalendar.endOfUtcDay`), two dates have the same one exactly if their instants fall on one day
(`EndsUtcDayOf.eq_iff`), and the end of a day is its own (`EndsUtcDayOf.endOfUtcDay_self`). `dueDates_end_days` puts these
together for a whole schedule.
-/
import Lending.Proofs.Schedule
import Lending.Proofs.Time.Months

namespace Lending

/-! ## Wall clocks -/

namespace Wall

theorem ticks_endOfDay (w : Wall) : w.endOfDay.ticks = w.ticks / ticksPerDay * ticksPerDay + (ticksPerDay - 1) := by
  simp only [endOfDay, of, date, Date.ordinal_ofOrdinal, TimeOfDay.lastTick]

theorem le_endOfDay (w : Wall) : w.ticks ≤ w.endOfDay.ticks := by
  rw [w.ticks_endOfDay]
  unfold ticksPerDay
  omega

theorem endOfDay_lt (w : Wall) : w.endOfDay.ticks < w.ticks + ticksPerDay := by
  rw [w.ticks_endOfDay]
  unfold ticksPerDay
  omega

theorem time_endOfDay (w : Wall) : w.endOfDay.time = .lastTick := time_of _ _

/-- the last reading of a day is that of its own day -/
theorem endOfDay_eq_self {w : Wall} (h : w.time = .lastTick) : w.endOfDay = w := by
  rw [endOfDay, ← h, of_date_time]

end Wall

/-! ## Dates -/

namespace DateTime

variable {d d' e e' : DateTime}

/-- whether the time of a date in UTC lies in the years that the calendar holds, from 1 to 9999 -/
def InCalendar (d : DateTime) : Prop := ∃ i, d.instant? = some i ∧ 0 ≤ i ∧ i < (dayCount * ticksPerDay : Nat)

/-- the number of the UTC day in which a date falls, if its zone is known -/
def utcDayNumber? (d : DateTime) : Option Int := d.instant?.map (· / ticksPerDay)

/-- whether a date is the end of the UTC day in which another falls: it is in UTC, and the last microsecond of a day, not
before the other and less than a day after it -/
structure EndsUtcDayOf (e d : DateTime) : Prop where
  inUtc : e.InUtc
  unfolded : e.fold = false
  lastTick : e.wall.time = .lastTick
  within : ∃ i j, d.instant? = some i ∧ e.instant? = some j ∧ i ≤ j ∧ j < i + ticksPerDay

theorem InUtc.instant?_eq (h : d.InUtc) : d.instant? = some (d.wall.ticks : Int) := by
  rw [instant?, offset?, h]
  simp [Zone.utc, Zone.offsetTicks, Offset.zero]

/-- a clock of UTC shows the instant of a date -/
theorem toUtc_of_instant? {w : Wall} (h : d.instant? = some (w.ticks : Int)) : d.toUtc = .ok ⟨w, some .utc, false⟩ := by
  obtain ⟨v, zone, fold⟩ := d
  cases zone with
  | none => cases h
  | some z =>
    have hticks : Wall.ofTicks? (v.ticks - z.offsetTicks v fold) = some w :=
      Wall.ofTicks?_eq_some.2 (Option.some.inj h).symm
    simp only [toUtc, hticks]

/-- **The calendar holds the end of a UTC day** in which a date falls whose time in UTC it holds. -/
theorem InCalendar.endOfUtcDay (h : d.InCalendar) : ∃ e, d.endOfUtcDay = .ok e ∧ e.EndsUtcDayOf d := by
  obtain ⟨i, hi, hstart, hend⟩ := h
  lift i to Nat using hstart
  let w : Wall := ⟨i, Int.ofNat_lt.1 hend⟩
  let e : DateTime := ⟨w.endOfDay, some .utc, false⟩
  refine ⟨e, ?_, rfl, rfl, w.time_endOfDay, i, w.endOfDay.ticks, hi, InUtc.instant?_eq rfl, ?_, ?_⟩
  · have hutc : d.toUtc = .ok ⟨w, some .utc, false⟩ := toUtc_of_instant? hi
    rw [DateTime.endOfUtcDay, hutc]
    rfl
  · exact Int.ofNat_le.2 w.le_endOfDay
  · exact Int.ofNat_lt.2 w.endOfDay_lt

namespace EndsUtcDayOf

/-- the end of a day is on the day that it ends -/
theorem dayNumber_eq (h : e.EndsUtcDayOf d) : d.utcDayNumber? = some ((e.wall.ticks / ticksPerDay : Nat) : Int) := by
  obtain ⟨i, j, hi, hj, hle, hlt⟩ := h.within
  cases h.inUtc.instant?_eq.symm.trans hj
  have hlast : e.wall.ticks % ticksPerDay = ticksPerDay - 1 := congrArg TimeOfDay.ticks h.lastTick
  rw [utcDayNumber?, hi, Option.map_some, Option.some.injEq]
  unfold ticksPerDay at *
  omega

/-- **Dates of one UTC day have one end of the day**, and dates of different days have not. -/
theorem eq_iff (h : e.EndsUtcDayOf d) (h' : e'.EndsUtcDayOf d') : e = e' ↔ d.utcDayNumber? = d'.utcDayNumber? := by
  rw [h.dayNumber_eq, h'.dayNumber_eq, Option.some.injEq, Int.natCast_inj]
  constructor
  · rintro rfl
    rfl
  · intro hday
    have hlast : e.wall.ticks % ticksPerDay = ticksPerDay - 1 := congrArg TimeOfDay.ticks h.lastTick
    have hlast' : e'.wall.ticks % ticksPerDay = ticksPerDay - 1 := congrArg TimeOfDay.ticks h'.lastTick
    have hticks : e.wall.ticks = e'.wall.ticks := by
      unfold ticksPerDay at *
      omega
    rw [DateTime.mk.injEq, Wall.mk.injEq]
    exact ⟨hticks, h.inUtc.trans h'.inUtc.symm, h.unfolded.trans h'.unfolded.symm⟩

/-- the end of a UTC day is that of its own day -/
theorem endOfUtcDay_self (h : e.EndsUtcDayOf d) : e.endOfUtcDay = .ok e := by
  have hutc : e.toUtc = .ok ⟨e.wall, some .utc, false⟩ := toUtc_of_instant? h.inUtc.instant?_eq
  have hself : (⟨e.wall, some .utc, false⟩ : DateTime) = e := by
    rw [DateTime.mk.injEq]
    exact ⟨rfl, h.inUtc.symm, h.unfolded.symm⟩
  calc e.endOfUtcDay = .ok ⟨e.wall.endOfDay, some .utc, false⟩ := by rw [endOfUtcDay, hutc]; rfl
    _ = .ok e := by rw [Wall.endOfDay_eq_self h.lastTick, hself]

end EndsUtcDayOf

end DateTime

/-! ## Schedules -/

namespace Schedule

variable {s : Schedule} {dates : List DateTime}

/-- each due date is moved to the end of its day, in the order of the ranges -/
theorem exists_dueDates (h : ∀ r ∈ s.ranges, r.due.InCalendar) :
    ∃ dates, s.dueDates = .ok dates ∧ List.Forall₂ (fun r e => e.EndsUtcDayOf r.due) s.ranges dates := by
  have hok : ∃ dates, s.dueDates = .ok dates := mapM_isOk_iff.2 fun r hr => by
    obtain ⟨e, he, -⟩ := (h r hr).endOfUtcDay
    exact ⟨e, he⟩
  obtain ⟨dates, hdates⟩ := hok
  refine ⟨dates, hdates, ?_⟩
  have hends := (List.forall₂_and_left _ _).2 ⟨h, mapM_eq_ok.1 hdates⟩
  apply hends.imp
  rintro r e ⟨hcalendar, he⟩
  obtain ⟨e', he', hends⟩ := hcalendar.endOfUtcDay
  cases he.symm.trans he'
  exact hends

/-- the ends of days that a schedule gives stay what they are -/
theorem mapM_endOfUtcDay_self (h : List.Forall₂ (fun (r : ScheduleRange) e => e.EndsUtcDayOf r.due) s.ranges dates) :
    dates.mapM DateTime.endOfUtcDay = .ok dates := by
  rw [mapM_eq_ok, List.forall₂_same]
  intro e he
  obtain ⟨n, hn, rfl⟩ := List.mem_iff_getElem.1 he
  exact (h.get (h.length_eq ▸ hn) hn).endOfUtcDay_self

/-- **The due dates of a schedule end the right UTC days.** Where the due dates have a zone and the calendar holds their
times in UTC, there is one entry for each range, in the same order. It is the last microsecond of a day in UTC, not before
the due date of the range and less than 24 hours after it. Two entries are equal exactly if the due dates fall on the same
day in UTC. A schedule whose due dates are these entries gives them back. -/
theorem dueDates_end_days (s : Schedule) (h : ∀ r ∈ s.ranges, r.due.InCalendar) :
    ∃ dates, s.dueDates = .ok dates ∧ dates.length = s.ranges.length ∧
      List.Forall₂ (fun r e => e.EndsUtcDayOf r.due) s.ranges dates ∧
      (∀ r e, (r, e) ∈ s.ranges.zip dates → ∀ r' e', (r', e') ∈ s.ranges.zip dates →
        (e = e' ↔ r.due.utcDayNumber? = r'.due.utcDayNumber?)) ∧
      ∀ s' : Schedule, s'.ranges.map (·.due) = dates → s'.dueDates = .ok dates := by
  obtain ⟨dates, hdates, hends⟩ := exists_dueDates h
  refine ⟨dates, hdates, hends.length_eq.symm, hends, ?_, ?_⟩
  · intro r e he r' e' he'
    obtain ⟨-, hall⟩ := List.forall₂_iff_zip.1 hends
    exact (hall he).eq_iff (hall he')
  · rintro s' rfl
    have hself := mapM_endOfUtcDay_self hends
    rw [List.mapM_map] at hself
    exact hself

/-- the evening of a last of December in New York, where the year has changed in UTC -/
def newYorkEvening : DateTime :=
  ⟨.of ⟨2023, 12, 31, by decide⟩ ⟨20 * ticksPerHour, by decide⟩, some (.region .newYork), false⟩

/-- the morning of a second of January in Tokyo, where the day has not changed in UTC -/
def tokyoMorning : DateTime :=
  ⟨.of ⟨2024, 1, 2, by decide⟩ ⟨5 * ticksPerHour, by decide⟩, some (.region .tokyo), false⟩

/-- a time in Berlin that the clock showed for the second time -/
def berlinNight : DateTime :=
  ⟨.of ⟨2025, 10, 26, by decide⟩ ⟨2 * ticksPerHour, by decide⟩, some (.region .berlin), true⟩

/-- a schedule with due dates around midnight -/
def nightSchedule : Schedule :=
  .configured none none [⟨.utcDay 2023 1 1, .utcDay 2023 7 1, newYorkEvening⟩,
    ⟨.utcDay 2023 7 1, .utcDay 2023 8 1, tokyoMorning⟩, ⟨.utcDay 2023 8 1, .utcDay 2023 10 1, berlinNight⟩]

/-- the last microsecond of a day in UTC -/
def utcDayEnd (year month day : Nat) (h : IsDay year month day := by decide) : DateTime :=
  ⟨.of ⟨year, month, day, h⟩ .lastTick, some .utc, false⟩

/-- the evening in New York and the morning in Tokyo, two days apart on the wall, are of one day in UTC -/
theorem dueDates_end_days_newYear :
    (∀ r ∈ nightSchedule.ranges, r.due.InCalendar) ∧
      nightSchedule.dueDates = .ok [utcDayEnd 2024 1 1, utcDayEnd 2024 1 1, utcDayEnd 2025 10 26] ∧
      List.Forall₂ (fun r e => e.EndsUtcDayOf r.due) nightSchedule.ranges
        [utcDayEnd 2024 1 1, utcDayEnd 2024 1 1, utcDayEnd 2025 10 26] := by
  have hnewYork : newYorkEvening.InCalendar := ⟨_, rfl, by decide +kernel, by decide +kernel⟩
  have htokyo : tokyoMorning.InCalendar := ⟨_, rfl, by decide +kernel, by decide +kernel⟩
  have hberlin : berlinNight.InCalendar := ⟨_, rfl, by decide +kernel, by decide +kernel⟩
  have hcalendar : ∀ r ∈ nightSchedule.ranges, r.due.InCalendar :=
    List.forall_mem_cons.2 ⟨hnewYork, List.forall_mem_cons.2 ⟨htokyo, List.forall_mem_singleton.2 hberlin⟩⟩
  have hvalue : nightSchedule.dueDates = .ok [utcDayEnd 2024 1 1, utcDayEnd 2024 1 1, utcDayEnd 2025 10 26] := by
    decide +kernel
  obtain ⟨dates, hdates, -, hends, -⟩ := dueDates_end_days nightSchedule hcalendar
  cases hvalue.symm.trans hdates
  exact ⟨hcalendar, hvalue, hends⟩

end Schedule

end Lending
