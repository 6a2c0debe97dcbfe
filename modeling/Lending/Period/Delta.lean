/-
Spans of calendar time.

A `Delta` counts years, months, days, hours and minutes. Whole years are taken out of the months, whole hours out of the
minutes and whole days out of the hours. Adding one moves year and month first, to the end of the month where the day does
not exist, and then the wall clock.
-/
import Lending.Time.DateTime

namespace Lending

/-- a span of calendar time -/
structure Delta where
  years : Nat := 0
  months : Nat := 0
  days : Nat := 0
  hours : Nat := 0
  minutes : Nat := 0
deriving DecidableEq

/-- the first whole number that rounds to no number of double precision -/
def doubleLimit : Nat := Nat.pow 2 1024 - Nat.pow 2 970

/-- the fault of a year after the calendar's last -/
def yearFault (year : Nat) : Fault :=
  if year < Nat.pow 2 31 then .yearOutOfRange year
  else if year < Nat.pow 2 63 then .yearBeyondWord
  else .yearBeyondLong

/-- the most days that a span may have -/
def maxDays : Nat := 999999999

/-- the reading a number of months later; the day is moved to the end of a shorter month -/
def Wall.addMonths (w : Wall) (n : Nat) : Except Fault Wall :=
  let d := w.date
  let total := d.month - 1 + n
  let year := d.year + total / 12
  let month := total % 12 + 1
  if h : year ≤ 9999 then
    .ok (.of ⟨year, month, min d.day (daysInMonth year month), by
      have := d.isDay
      have hm := twentyEight_le_daysInMonth year month
      unfold IsDay at *
      have : year = d.year + total / 12 := rfl
      have : month = total % 12 + 1 := rfl
      omega⟩ w.time)
  else .error (yearFault year)

namespace Delta

/-- a span of minutes -/
def ofMinutes (n : Nat) : Except Fault Delta :=
  if doubleLimit ≤ n then .error .beyondDouble
  else .ok ⟨0, 0, n / 60 / 24, n / 60 % 24, n % 60⟩

/-- a span of hours -/
def ofHours (n : Nat) : Except Fault Delta :=
  if doubleLimit ≤ n then .error .beyondDouble
  else .ok ⟨0, 0, n / 24, n % 24, 0⟩

/-- a span of days -/
def ofDays (n : Nat) : Delta := ⟨0, 0, n, 0, 0⟩

/-- a span of months -/
def ofMonths (n : Nat) : Except Fault Delta :=
  if doubleLimit ≤ n then .error .beyondDouble
  else .ok ⟨n / 12, n % 12, 0, 0, 0⟩

/-- the part of a span that the wall clock measures, in microseconds -/
def ticks (s : Delta) : Except Fault Nat :=
  if Nat.pow 2 31 ≤ s.days then .error .daysBeyondWord
  else if maxDays < s.days then .error (.spanTooLong s.days)
  else .ok (s.days * ticksPerDay + s.hours * ticksPerHour + s.minutes * ticksPerMinute)

/-- the date a span later -/
def addTo (s : Delta) (d : DateTime) : Except Fault DateTime := do
  let w ← d.wall.addMonths (12 * s.years + s.months)
  let n ← s.ticks
  { d with wall := w }.shift n

end Delta

end Lending
