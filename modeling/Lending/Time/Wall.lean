/-
What a clock on a wall shows: a day of the calendar and a time of that day.

A reading is kept as the number of microseconds since the start of year 1, so the order of readings and the addition of
a span are those of numbers. `Wall.date` and `Wall.time` take a reading apart, `Wall.of` puts one together.
-/
import Lending.Time.Date

namespace Lending

/-- microseconds in a second -/
def ticksPerSecond : Nat := 1000000

/-- microseconds in a minute -/
def ticksPerMinute : Nat := 60000000

/-- microseconds in an hour -/
def ticksPerHour : Nat := 3600000000

/-- microseconds in a day -/
def ticksPerDay : Nat := 86400000000

/-- a time of day, in microseconds since midnight -/
structure TimeOfDay where
  ticks : Nat
  inDay : ticks < ticksPerDay
deriving DecidableEq

namespace TimeOfDay

def midnight : TimeOfDay := ⟨0, by decide⟩

/-- the last microsecond of a day -/
def lastTick : TimeOfDay := ⟨ticksPerDay - 1, by decide⟩

def hour (t : TimeOfDay) : Nat := t.ticks / ticksPerHour
def minute (t : TimeOfDay) : Nat := t.ticks / ticksPerMinute % 60
def second (t : TimeOfDay) : Nat := t.ticks / ticksPerSecond % 60
def micro (t : TimeOfDay) : Nat := t.ticks % ticksPerSecond

/-- the microseconds that hours, minutes, seconds and microseconds come to -/
def total (h m s us : Nat) : Nat := h * ticksPerHour + m * ticksPerMinute + s * ticksPerSecond + us

/-- the time of day with these numbers, or what is wrong with them -/
def ofFields (h m s us : Nat) : Except Fault TimeOfDay :=
  if hh : 23 < h then .error .hourOutOfRange
  else if hm : 59 < m then .error .minuteOutOfRange
  else if hs : 59 < s ∨ 999999 < us then .error .secondOutOfRange
  else .ok ⟨total h m s us, by
    simp only [total, ticksPerHour, ticksPerMinute, ticksPerSecond, ticksPerDay]; omega⟩

end TimeOfDay

/-- a reading of a wall clock, in microseconds since the start of year 1 -/
structure Wall where
  ticks : Nat
  inRange : ticks < dayCount * ticksPerDay
deriving DecidableEq

namespace Wall

/-- the day that a reading shows -/
def date (w : Wall) : Date :=
  Date.ofOrdinal (w.ticks / ticksPerDay) (Nat.div_lt_of_lt_mul (by rw [Nat.mul_comm]; exact w.inRange))

/-- the time of day that a reading shows -/
def time (w : Wall) : TimeOfDay := ⟨w.ticks % ticksPerDay, Nat.mod_lt _ (by decide)⟩

theorem ticks_lt (d : Date) (t : TimeOfDay) : d.ordinal * ticksPerDay + t.ticks < dayCount * ticksPerDay := by
  have hd := d.ordinal_lt
  have ht := t.inDay
  simp only [dayCount, ticksPerDay] at *
  omega

/-- the reading that shows a day and a time -/
def of (d : Date) (t : TimeOfDay) : Wall := ⟨d.ordinal * ticksPerDay + t.ticks, ticks_lt d t⟩

theorem of_date_time (w : Wall) : of w.date w.time = w := by
  obtain ⟨n, h⟩ := w
  simp only [of, date, time, Date.ordinal_ofOrdinal, mk.injEq]
  exact Nat.div_add_mod' n ticksPerDay

theorem date_of (d : Date) (t : TimeOfDay) : (of d t).date = d := by
  have h : (of d t).ticks / ticksPerDay = d.ordinal := by
    have := t.inDay
    simp only [of, ticksPerDay] at *
    omega
  simp only [date, h, Date.ofOrdinal_ordinal]

theorem time_of (d : Date) (t : TimeOfDay) : (of d t).time = t := by
  obtain ⟨n, h⟩ := t
  simp only [of, time, TimeOfDay.mk.injEq]
  rw [Nat.mul_comm, Nat.mul_add_mod, Nat.mod_eq_of_lt h]

/-- the reading a number of microseconds after the start of year 1, if the calendar holds it -/
def ofTicks? (n : Int) : Option Wall :=
  if h : 0 ≤ n ∧ n < (dayCount * ticksPerDay : Nat) then some ⟨n.toNat, by omega⟩ else none

/-- the reading a span later, if the calendar holds it -/
def shift? (w : Wall) (span : Int) : Option Wall := ofTicks? (w.ticks + span)

/-- the last reading of the same day -/
def endOfDay (w : Wall) : Wall := of w.date .lastTick

end Wall

end Lending
