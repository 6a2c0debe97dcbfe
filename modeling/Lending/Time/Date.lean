/-
Days of the calendar.

The Gregorian calendar is read backwards to year 1 and ends with year 9999. `Date.ordinal` numbers its days from 0 and
`Date.ofOrdinal` goes back: `ordinal_ofOrdinal` and `ofOrdinal_ordinal` say that each undoes the other.
-/
import Lending.Fault

namespace Lending

/-- whether a year has a 29 February -/
def isLeap (y : Nat) : Bool := y % 4 == 0 && (y % 100 != 0 || y % 400 == 0)

/-- the days that a leap year has more than another -/
def leapDays (y : Nat) : Nat := if isLeap y then 1 else 0

/-- the days of a month -/
def daysInMonth (y m : Nat) : Nat :=
  match m with
  | 2 => 28 + leapDays y
  | 4 | 6 | 9 | 11 => 30
  | _ => 31

/-- the days between the start of year 1 and the start of a year -/
def daysBeforeYear (y : Nat) : Nat := 365 * (y - 1) + (y - 1) / 4 - (y - 1) / 100 + (y - 1) / 400

/-- the days of a year before a month -/
def daysBeforeMonth (y m : Nat) : Nat :=
  match m with
  | 2 => 31
  | 3 => 59 + leapDays y
  | 4 => 90 + leapDays y
  | 5 => 120 + leapDays y
  | 6 => 151 + leapDays y
  | 7 => 181 + leapDays y
  | 8 => 212 + leapDays y
  | 9 => 243 + leapDays y
  | 10 => 273 + leapDays y
  | 11 => 304 + leapDays y
  | 12 => 334 + leapDays y
  | _ => 0

/-- the number of days in the calendar -/
def dayCount : Nat := 3652059

/-- what makes three numbers a day of the calendar -/
def IsDay (y m d : Nat) : Prop := 1 ≤ y ∧ y ≤ 9999 ∧ 1 ≤ m ∧ m ≤ 12 ∧ 1 ≤ d ∧ d ≤ daysInMonth y m

instance (y m d : Nat) : Decidable (IsDay y m d) := by unfold IsDay; infer_instance

/-- a day of the calendar -/
structure Date where
  year : Nat
  month : Nat
  day : Nat
  isDay : IsDay year month day
deriving DecidableEq

theorem leapDays_le (y : Nat) : leapDays y ≤ 1 := by unfold leapDays; split <;> omega

theorem leapDays_eq (y : Nat) (h : 1 ≤ y) :
    leapDays y + (y - 1) / 4 + y / 100 + (y - 1) / 400 = y / 4 + (y - 1) / 100 + y / 400 := by
  have h4 : y / 4 = (y - 1) / 4 + if y % 4 = 0 then 1 else 0 := by split <;> omega
  have h100 : y / 100 = (y - 1) / 100 + if y % 100 = 0 then 1 else 0 := by split <;> omega
  have h400 : y / 400 = (y - 1) / 400 + if y % 400 = 0 then 1 else 0 := by split <;> omega
  have hl : leapDays y + (if y % 100 = 0 then 1 else 0) =
      (if y % 4 = 0 then 1 else 0) + if y % 400 = 0 then 1 else 0 := by
    by_cases c400 : y % 400 = 0
    · have c100 : y % 100 = 0 := by omega
      have c4 : y % 4 = 0 := by omega
      simp [leapDays, isLeap, c400, c100, c4]
    · by_cases c100 : y % 100 = 0
      · have c4 : y % 4 = 0 := by omega
        simp [leapDays, isLeap, c400, c100, c4]
      · by_cases c4 : y % 4 = 0 <;> simp [leapDays, isLeap, c400, c100, c4]
  generalize (if y % 4 = 0 then 1 else 0) = i at *
  generalize (if y % 100 = 0 then 1 else 0) = j at *
  generalize (if y % 400 = 0 then 1 else 0) = k at *
  omega

theorem twentyEight_le_daysInMonth (y m : Nat) : 28 ≤ daysInMonth y m := by
  unfold daysInMonth; split <;> omega

theorem daysBeforeYear_succ (y : Nat) (h : 1 ≤ y) :
    daysBeforeYear (y + 1) = daysBeforeYear y + 365 + leapDays y := by
  have := leapDays_eq y h
  have h100 : (y - 1) / 100 ≤ (y - 1) / 4 := by omega
  have h100' : y / 100 ≤ y / 4 := by omega
  simp only [daysBeforeYear, Nat.add_sub_cancel]
  omega

theorem daysBeforeMonth_succ (y m : Nat) (h : 1 ≤ m) (h' : m < 12) :
    daysBeforeMonth y (m + 1) = daysBeforeMonth y m + daysInMonth y m := by
  obtain rfl | rfl | rfl | rfl | rfl | rfl | rfl | rfl | rfl | rfl | rfl :
    m = 1 ∨ m = 2 ∨ m = 3 ∨ m = 4 ∨ m = 5 ∨ m = 6 ∨ m = 7 ∨ m = 8 ∨ m = 9 ∨ m = 10 ∨ m = 11 := by omega
  all_goals simp only [daysBeforeMonth, daysInMonth]
  all_goals omega

theorem daysBeforeYear_mono {a b : Nat} (h : a ≤ b) : daysBeforeYear a ≤ daysBeforeYear b := by
  induction b with
  | zero => simp_all
  | succ b ih =>
    rcases Nat.lt_or_ge b a with hb | hb
    · have : a = b + 1 := by omega
      simp [this]
    · rcases Nat.eq_zero_or_pos b with rfl | hpos
      · have : a = 0 := by omega
        subst this
        decide
      · have := daysBeforeYear_succ b hpos
        have := ih hb
        omega

/-- a month ends within its year -/
theorem daysBeforeMonth_add_le (y m : Nat) (h : 1 ≤ m) (h' : m ≤ 12) :
    daysBeforeMonth y m + daysInMonth y m ≤ 365 + leapDays y := by
  obtain rfl | rfl | rfl | rfl | rfl | rfl | rfl | rfl | rfl | rfl | rfl | rfl :
    m = 1 ∨ m = 2 ∨ m = 3 ∨ m = 4 ∨ m = 5 ∨ m = 6 ∨ m = 7 ∨ m = 8 ∨ m = 9 ∨ m = 10 ∨ m = 11 ∨ m = 12 := by omega
  all_goals simp only [daysBeforeMonth, daysInMonth]
  all_goals omega

/-- the year in which a day falls -/
def yearOfDay (n : Nat) : Nat :=
  let inCycle := n % 146097
  let century := min (inCycle / 36524) 3
  let inCentury := inCycle - 36524 * century
  let inGroup := inCentury % 1461
  400 * (n / 146097) + 100 * century + 4 * (inCentury / 1461) + min (inGroup / 365) 3 + 1

/-- the last month up to a given one that has begun by a day of the year, the first day being day 0 -/
def monthBegun (y n : Nat) : Nat → Nat
  | 0 => 0
  | m + 1 => if daysBeforeMonth y (m + 1) ≤ n then m + 1 else monthBegun y n m

/-- the month of a year in which a day falls, the first day being day 0 -/
def monthOfDay (y n : Nat) : Nat := monthBegun y n 12

theorem yearOfDay_pos (n : Nat) : 1 ≤ yearOfDay n := by simp [yearOfDay]

theorem leapDays_eq_one {y : Nat} (h4 : y % 4 = 0) (h : y % 100 ≠ 0 ∨ y % 400 = 0) : leapDays y = 1 := by
  simp [leapDays, isLeap, h4, h]

/-- the last year of a group of four is a leap year, unless it ends a century that does not end a cycle -/
theorem leapDays_group_end {a b c : Nat} (hc : c ≤ 24) (h : c = 24 → b = 3) :
    leapDays (400 * a + 100 * b + 4 * c + 3 + 1) = 1 :=
  leapDays_eq_one (by omega) (by omega)

theorem daysBeforeYear_group {a b c d : Nat} (hb : b ≤ 3) (hc : c ≤ 24) (hd : d ≤ 3) :
    daysBeforeYear (400 * a + 100 * b + 4 * c + d + 1) = 146097 * a + 36524 * b + 1461 * c + 365 * d := by
  have h4 : (400 * a + 100 * b + 4 * c + d) / 4 = 100 * a + 25 * b + c := by omega
  have h100 : (400 * a + 100 * b + 4 * c + d) / 100 = 4 * a + b := by omega
  have h400 : (400 * a + 100 * b + 4 * c + d) / 400 = a := by omega
  simp only [daysBeforeYear, Nat.add_sub_cancel, h4, h100, h400]
  omega

/-- the day number within a cycle of 400 years as centuries and a rest -/
theorem century_split {r b : Nat} (hr : r < 146097) (hb : min (r / 36524) 3 = b) :
    b ≤ 3 ∧ r = 36524 * b + (r - 36524 * b) ∧ r - 36524 * b ≤ 36524 ∧ (r - 36524 * b = 36524 → b = 3) := by
  omega

theorem yearOfDay_bounds (n : Nat) :
    daysBeforeYear (yearOfDay n) ≤ n ∧ n < daysBeforeYear (yearOfDay n) + 365 + leapDays (yearOfDay n) := by
  have hr : n % 146097 < 146097 := Nat.mod_lt _ (by decide)
  have hn : n = 146097 * (n / 146097) + n % 146097 := by omega
  unfold yearOfDay
  dsimp only
  generalize n / 146097 = a at *
  generalize n % 146097 = r at *
  generalize hb : min (r / 36524) 3 = b
  obtain ⟨hb3, hrs, hs, hsb⟩ := century_split hr hb
  generalize r - 36524 * b = s at *
  have hst : s = 1461 * (s / 1461) + s % 1461 := by omega
  have ht : s % 1461 < 1461 := Nat.mod_lt _ (by decide)
  have hc : s / 1461 ≤ 24 := by omega
  generalize s / 1461 = c at *
  generalize s % 1461 = t at *
  clear hr hb
  have hd : 365 * min (t / 365) 3 ≤ t ∧ min (t / 365) 3 ≤ 3 ∧
    (t < 365 * min (t / 365) 3 + 365 ∨ min (t / 365) 3 = 3 ∧ t = 1460) := by omega
  generalize min (t / 365) 3 = d at *
  rw [daysBeforeYear_group hb3 hc hd.2.1]
  refine ⟨by omega, ?_⟩
  rcases hd.2.2 with hlt | ⟨rfl, rfl⟩
  · omega
  · rw [leapDays_group_end hc (fun h => hsb (by omega))]
    omega

theorem monthBegun_bounds (y n m : Nat) (h : 1 ≤ m) (h' : m ≤ 12)
    (hn : n < daysBeforeMonth y m + daysInMonth y m) :
    1 ≤ monthBegun y n m ∧ monthBegun y n m ≤ m ∧ daysBeforeMonth y (monthBegun y n m) ≤ n ∧
      n < daysBeforeMonth y (monthBegun y n m) + daysInMonth y (monthBegun y n m) := by
  induction m with
  | zero => omega
  | succ m ih =>
    unfold monthBegun
    split
    · exact ⟨by omega, by omega, by assumption, hn⟩
    · next hlt =>
      rcases Nat.eq_zero_or_pos m with rfl | hpos
      · simp [daysBeforeMonth] at hlt
      · have hs := daysBeforeMonth_succ y m hpos (by omega)
        have := ih hpos (by omega) (by omega)
        omega

theorem monthOfDay_bounds (y n : Nat) (h : n < 365 + leapDays y) :
    1 ≤ monthOfDay y n ∧ monthOfDay y n ≤ 12 ∧ daysBeforeMonth y (monthOfDay y n) ≤ n ∧
      n < daysBeforeMonth y (monthOfDay y n) + daysInMonth y (monthOfDay y n) :=
  monthBegun_bounds y n 12 (by decide) (by decide) (by simp only [daysBeforeMonth, daysInMonth]; omega)

theorem daysBeforeMonth_mono (y : Nat) {m m' : Nat} (h : 1 ≤ m) (hm : m ≤ m') (h' : m' ≤ 12) :
    daysBeforeMonth y m ≤ daysBeforeMonth y m' := by
  induction m' with
  | zero => omega
  | succ k ih =>
    rcases Nat.lt_or_ge k m with hk | hk
    · have : m = k + 1 := by omega
      simp [this]
    · have := daysBeforeMonth_succ y k (by omega) (by omega)
      have := ih hk (by omega)
      omega

theorem monthOfDay_eq {y n m : Nat} (h : 1 ≤ m) (h' : m ≤ 12) (hle : daysBeforeMonth y m ≤ n)
    (hlt : n < daysBeforeMonth y m + daysInMonth y m) : monthOfDay y n = m := by
  have hb := monthOfDay_bounds y n (by have := daysBeforeMonth_add_le y m h h'; omega)
  rcases Nat.lt_trichotomy (monthOfDay y n) m with hl | he | hg
  · have := daysBeforeMonth_succ y (monthOfDay y n) hb.1 (by omega)
    have := daysBeforeMonth_mono y (by omega) hl h'
    simp only [Nat.succ_eq_add_one] at this
    omega
  · exact he
  · have := daysBeforeMonth_succ y m h (by omega)
    have := daysBeforeMonth_mono y (by omega) hg hb.2.1
    simp only [Nat.succ_eq_add_one] at this
    omega

namespace Date

/-- the number of a day, from 0 -/
def ordinal (d : Date) : Nat := daysBeforeYear d.year + daysBeforeMonth d.year d.month + (d.day - 1)

theorem ordinal_lt (d : Date) : d.ordinal < dayCount := by
  obtain ⟨y, m, k, hy, hy', hm, hm', hk, hk'⟩ := d
  have h := daysBeforeMonth_add_le y m hm hm'
  have h1 := daysBeforeYear_succ y hy
  have h2 : daysBeforeYear (y + 1) ≤ daysBeforeYear 10000 := daysBeforeYear_mono (by omega)
  have h3 : daysBeforeYear 10000 = 3652059 := by decide
  simp only [ordinal, dayCount]
  omega

/-- the number of a day within its year, from 0 -/
def dayOfYear (n : Nat) : Nat := n - daysBeforeYear (yearOfDay n)

theorem isDay_ofOrdinal (n : Nat) (h : n < dayCount) :
    IsDay (yearOfDay n) (monthOfDay (yearOfDay n) (dayOfYear n))
      (dayOfYear n - daysBeforeMonth (yearOfDay n) (monthOfDay (yearOfDay n) (dayOfYear n)) + 1) := by
  have hy := yearOfDay_bounds n
  have hpos := yearOfDay_pos n
  have hk : dayOfYear n < 365 + leapDays (yearOfDay n) := by unfold dayOfYear; omega
  have hm := monthOfDay_bounds (yearOfDay n) (dayOfYear n) hk
  have hle : yearOfDay n ≤ 9999 := by
    by_cases hc : yearOfDay n ≤ 9999
    · exact hc
    · have h2 : daysBeforeYear 10000 ≤ daysBeforeYear (yearOfDay n) := daysBeforeYear_mono (by omega)
      have h3 : daysBeforeYear 10000 = 3652059 := by decide
      simp only [dayCount] at h
      omega
  exact ⟨hpos, hle, hm.1, hm.2.1, by omega, by omega⟩

/-- the day with a number -/
def ofOrdinal (n : Nat) (h : n < dayCount) : Date :=
  ⟨yearOfDay n, monthOfDay (yearOfDay n) (dayOfYear n),
    dayOfYear n - daysBeforeMonth (yearOfDay n) (monthOfDay (yearOfDay n) (dayOfYear n)) + 1, isDay_ofOrdinal n h⟩

theorem ordinal_ofOrdinal (n : Nat) (h : n < dayCount) : (ofOrdinal n h).ordinal = n := by
  have hy := yearOfDay_bounds n
  have hk : dayOfYear n < 365 + leapDays (yearOfDay n) := by unfold dayOfYear; omega
  have hm := monthOfDay_bounds (yearOfDay n) (dayOfYear n) hk
  simp only [ofOrdinal, ordinal]
  unfold dayOfYear at *
  omega

/-- a day lies within its year -/
theorem ordinal_bounds (d : Date) :
    daysBeforeYear d.year ≤ d.ordinal ∧ d.ordinal < daysBeforeYear d.year + 365 + leapDays d.year := by
  obtain ⟨y, m, k, hy, hy', hm, hm', hk, hk'⟩ := d
  have := daysBeforeMonth_add_le y m hm hm'
  simp only [ordinal]
  omega

theorem yearOfDay_ordinal (d : Date) : yearOfDay d.ordinal = d.year := by
  have h := ordinal_bounds d
  have h' := yearOfDay_bounds d.ordinal
  have hp := d.isDay.1
  have hp' := yearOfDay_pos d.ordinal
  have hs := daysBeforeYear_succ d.year hp
  have hs' := daysBeforeYear_succ (yearOfDay d.ordinal) hp'
  rcases Nat.lt_trichotomy (yearOfDay d.ordinal) d.year with hlt | heq | hgt
  · have := daysBeforeYear_mono (a := yearOfDay d.ordinal + 1) (b := d.year) hlt
    omega
  · exact heq
  · have := daysBeforeYear_mono (a := d.year + 1) (b := yearOfDay d.ordinal) hgt
    omega

theorem dayOfYear_ordinal (d : Date) : dayOfYear d.ordinal = daysBeforeMonth d.year d.month + (d.day - 1) := by
  rw [dayOfYear, yearOfDay_ordinal, ordinal]
  omega

theorem ofOrdinal_ordinal (d : Date) : ofOrdinal d.ordinal d.ordinal_lt = d := by
  obtain ⟨y, m, k, hd⟩ := d
  have hm : monthOfDay y (daysBeforeMonth y m + (k - 1)) = m :=
    monthOfDay_eq hd.2.2.1 hd.2.2.2.1 (by omega) (by have := hd.2.2.2.2; omega)
  have hk := hd.2.2.2.2.1
  simp only [ofOrdinal, yearOfDay_ordinal, dayOfYear_ordinal, hm, Date.mk.injEq, true_and]
  omega

/-- the day with these numbers, or what is wrong with them -/
def ofFields (y m d : Nat) : Except Fault Date :=
  if h : IsDay y m d then .ok ⟨y, m, d, h⟩
  else if y < 1 ∨ 9999 < y then .error (.yearOutOfRange y)
  else if m < 1 ∨ 12 < m then .error .monthOutOfRange
  else .error .dayOutOfRange

end Date

end Lending
