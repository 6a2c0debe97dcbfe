/-
Clocks that are changed.

A clock shows UTC and an offset, and the offset changes whenever the clock is put forward or back. A `Clock` is the offset
that it has at first and its changes, in order (`InOrder`). A change makes the clock skip readings or show them twice; a
reading among these comes before the change, or after it if the fold is set. So `Clock.offset` adds up the changes that a
reading is past.
-/
import Lending.Time.Wall

namespace Lending

/-- a change of a clock: what it shows when it is put forward, in microseconds since the start of year 1, and by how much; it
is put back if that is negative -/
structure ClockChange where
  ticks : Nat
  forward : Int
deriving DecidableEq

namespace ClockChange

/-- the first of the readings that are skipped or shown twice -/
def start (c : ClockChange) : Int := c.ticks + min 0 c.forward

/-- the first reading behind those that are skipped or shown twice -/
def stop (c : ClockChange) : Int := c.ticks + max 0 c.forward

/-- whether a reading is past a change -/
def isPassed (c : ClockChange) (w : Wall) (fold : Bool) : Bool := (if fold then c.start else c.stop) ≤ w.ticks

/-- the change on a day, some seconds after midnight on the clock, by a number of seconds -/
def on (year month day seconds : Nat) (forward : Int) : ClockChange :=
  ⟨(daysBeforeYear year + daysBeforeMonth year month + (day - 1)) * ticksPerDay + seconds * ticksPerSecond,
    forward * ticksPerSecond⟩

/-- the clock is put forward by an hour at an hour of a day -/
def forwardOn (year month day hour : Nat) : ClockChange := on year month day (hour * 3600) 3600

/-- the clock is put back by an hour at an hour of a day -/
def backOn (year month day hour : Nat) : ClockChange := on year month day (hour * 3600) (-3600)

end ClockChange

/-- whether changes come one after another between two readings: none begins before the one before it is over -/
def InOrder (first : Int) : List ClockChange → Int → Prop
  | [], last => first ≤ last
  | c :: cs, last => first ≤ c.start ∧ InOrder c.stop cs last

/-- a clock: its offset from UTC before the first change, in microseconds, and its changes within the calendar -/
structure Clock where
  first : Int
  changes : List ClockChange
  inOrder : InOrder 0 changes (dayCount * ticksPerDay : Nat)

/-- by how much a clock has been put forward at a reading: the changes that the reading is past, up to the first that it is
not past -/
def forwardAt (changes : List ClockChange) (w : Wall) (fold : Bool) : Int :=
  (changes.takeWhile (·.isPassed w fold)).foldr (·.forward + ·) 0

/-- the offset of a clock from UTC at a reading, in microseconds -/
def Clock.offset (c : Clock) (w : Wall) (fold : Bool) : Int := c.first + forwardAt c.changes w fold

/-! ## Changes of every year -/

/-- a Sunday of a month -/
inductive Sunday
  | first
  | second
  | third
  | last
deriving DecidableEq

/-- the number of the day on which a Sunday of a month falls -/
def Sunday.ordinal (s : Sunday) (year month : Nat) : Nat :=
  let start := daysBeforeYear year + daysBeforeMonth year month
  let toSunday (n : Nat) := n + (6 - n % 7)
  match s with
  | .first => toSunday start
  | .second => toSunday start + 7
  | .third => toSunday start + 14
  | .last => toSunday (start + daysInMonth year month - 7)

/-- a change that is made every year: at an hour of a Sunday of a month, by a number of hours -/
structure YearlyChange where
  sunday : Sunday
  month : Nat
  hour : Nat
  forward : Int

/-- the change of one year -/
def YearlyChange.inYear (c : YearlyChange) (year : Nat) : ClockChange :=
  ⟨c.sunday.ordinal year c.month * ticksPerDay + c.hour * ticksPerHour, c.forward * ticksPerHour⟩

/-- the changes of the years from one to another -/
def yearly (changes : List YearlyChange) (first last : Nat) : List ClockChange :=
  (List.range' first (last + 1 - first)).flatMap fun year => changes.map (·.inYear year)

/-! ## Changes in order -/

theorem ClockChange.start_le_stop (c : ClockChange) : c.start ≤ c.stop := by
  simp only [start, stop]
  omega

namespace InOrder

variable {a b c : Int} {cs ds : List ClockChange}

theorem append (h : InOrder a cs b) (h' : InOrder b ds c) : InOrder a (cs ++ ds) c := by
  induction cs generalizing a with
  | nil =>
    cases ds with
    | nil => exact Int.le_trans h h'
    | cons d ds => exact ⟨Int.le_trans h h'.1, h'.2⟩
  | cons c cs ih => exact ⟨h.1, ih h.2⟩

theorem of_le (hab : a ≤ b) (h : InOrder b cs c) : InOrder a cs c := @append a b c [] cs hab h

instance decidable (a : Int) : (cs : List ClockChange) → (b : Int) → Decidable (InOrder a cs b)
  | [], b => inferInstanceAs (Decidable (a ≤ b))
  | c :: cs, b =>
    have := decidable c.stop cs b
    inferInstanceAs (Decidable (a ≤ c.start ∧ InOrder c.stop cs b))

end InOrder

/-- the first reading of a year -/
def yearStart (year : Nat) : Int := (daysBeforeYear year * ticksPerDay : Nat)

/-- the first reading of a month -/
def monthStart (year month : Nat) : Int := ((daysBeforeYear year + daysBeforeMonth year month) * ticksPerDay : Nat)

/-- a Sunday of a month is a day of that month -/
theorem Sunday.ordinal_bounds (s : Sunday) (year month : Nat) :
    daysBeforeYear year + daysBeforeMonth year month ≤ s.ordinal year month ∧
      s.ordinal year month < daysBeforeYear year + daysBeforeMonth year month + daysInMonth year month := by
  have hdays := twentyEight_le_daysInMonth year month
  cases s <;> simp only [Sunday.ordinal] <;> omega

/-- whether the changes of a year are in different months before December, each from that of the first one on and well
inside its day -/
def InMonths (month : Nat) : List YearlyChange → Prop
  | [] => 1 ≤ month ∧ month ≤ 12
  | c :: cs => (1 ≤ month ∧ month ≤ c.month ∧ c.month ≤ 11) ∧ (1 ≤ c.hour ∧ c.hour ≤ 22) ∧
      (-1 ≤ c.forward ∧ c.forward ≤ 1) ∧ InMonths (c.month + 1) cs

instance InMonths.decidable (month : Nat) : (cs : List YearlyChange) → Decidable (InMonths month cs)
  | [] => inferInstanceAs (Decidable (1 ≤ month ∧ month ≤ 12))
  | c :: cs =>
    have := decidable (c.month + 1) cs
    inferInstanceAs (Decidable ((1 ≤ month ∧ month ≤ c.month ∧ c.month ≤ 11) ∧ (1 ≤ c.hour ∧ c.hour ≤ 22) ∧
      (-1 ≤ c.forward ∧ c.forward ≤ 1) ∧ InMonths (c.month + 1) cs))

/-- a change that is made well inside a day of a month is over before the next month -/
theorem YearlyChange.inMonth {c : YearlyChange} (hhour : 1 ≤ c.hour ∧ c.hour ≤ 22)
    (hforward : -1 ≤ c.forward ∧ c.forward ≤ 1) (hmonth : 1 ≤ c.month ∧ c.month ≤ 11) (year : Nat) :
    monthStart year c.month ≤ (c.inYear year).start ∧ (c.inYear year).stop ≤ monthStart year (c.month + 1) := by
  have hday := c.sunday.ordinal_bounds year c.month
  have hnext := daysBeforeMonth_succ year c.month hmonth.1 (by omega)
  simp only [monthStart, ClockChange.start, ClockChange.stop, inYear, hnext, ticksPerDay, ticksPerHour]
  omega

/-- the changes of a year are in order -/
theorem InMonths.inOrder {month : Nat} {cs : List YearlyChange} (h : InMonths month cs) {year : Nat} (hyear : 1 ≤ year) :
    InOrder (monthStart year month) (cs.map (·.inYear year)) (yearStart (year + 1)) := by
  induction cs generalizing month with
  | nil =>
    have hmonth := daysBeforeMonth_add_le year month h.1 h.2
    have hnext := daysBeforeYear_succ year hyear
    refine Int.ofNat_le.2 (Nat.mul_le_mul_right _ ?_)
    omega
  | cons c cs ih =>
    obtain ⟨⟨hpos, hmonth, hlast⟩, hhour, hforward, hrest⟩ := h
    obtain ⟨hstart, hstop⟩ := c.inMonth hhour hforward ⟨Nat.le_trans hpos hmonth, hlast⟩ year
    refine ⟨Int.le_trans (Int.ofNat_le.2 (Nat.mul_le_mul_right _ ?_)) hstart, .of_le hstop (ih hrest)⟩
    exact Nat.add_le_add_left (daysBeforeMonth_mono year hpos hmonth (by omega)) _

/-- the changes of consecutive years are in order -/
theorem InMonths.inOrder_years {changes : List YearlyChange} (h : InMonths 1 changes) (n : Nat) {first : Nat}
    (hfirst : 1 ≤ first) :
    InOrder (yearStart first) ((List.range' first n).flatMap fun year => changes.map (·.inYear year))
      (yearStart (first + n)) := by
  induction n generalizing first with
  | zero => exact Int.le_refl _
  | succ n ih =>
    rw [List.range'_succ, List.flatMap_cons, ← Nat.add_assoc, Nat.add_right_comm]
    exact .append (h.inOrder hfirst) (ih (Nat.le_succ_of_le hfirst))

/-- the changes that are made every year come after those before these years -/
theorem InOrder.append_yearly {a : Int} {cs : List ClockChange} {changes : List YearlyChange} {first last : Nat}
    (h : InOrder a cs (yearStart first)) (hmonths : InMonths 1 changes) (hyears : 1 ≤ first ∧ first ≤ last + 1) :
    InOrder a (cs ++ yearly changes first last) (yearStart (last + 1)) := by
  have hcount : first + (last + 1 - first) = last + 1 := by omega
  have hrun := hmonths.inOrder_years (last + 1 - first) hyears.1
  rw [hcount] at hrun
  exact h.append hrun

end Lending
