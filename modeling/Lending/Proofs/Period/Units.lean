/-
Units of a period, and how they add up.

Weeks are seven days, days twenty-four hours and hours sixty minutes: a number of one unit and so many more of the smaller
one are the same span, and so the same sum with every date. A number of units of a fixed length can be added in two parts:
the wall clock moves by both (`adds_iff_ticks`), and no part of a span that is not too long is too long either
(`Interval.Measures.of_le`). `units_cohere` puts these together.
-/
import Mathlib.Tactic
import Lending.Proofs.Period.Order

namespace Lending

namespace Interval

variable {i : Interval} {n k : Nat}

/-! ## One unit in another -/

theorem delta_weeks (n : Nat) : weeks.delta n = days.delta (7 * n) := rfl

theorem delta_days (n : Nat) : days.delta n = .ok (.ofDays n) := rfl

theorem delta_hours_of_lt (h : n < doubleLimit) : hours.delta n = .ok ⟨0, 0, n / 24, n % 24, 0⟩ := by
  rw [delta, Delta.ofHours, if_neg (Nat.not_le.2 h)]

theorem delta_hours (h : 24 * n < doubleLimit) : hours.delta (24 * n) = days.delta n := by
  have hdays : 24 * n / 24 = n := by omega
  have hhours : 24 * n % 24 = 0 := by omega
  rw [delta_hours_of_lt h, hdays, hhours]
  rfl

theorem delta_minutes (h : 60 * n < doubleLimit) : minutes.delta (60 * n) = hours.delta n := by
  have hhours : 60 * n / 60 = n := by omega
  have hminutes : 60 * n % 60 = 0 := by omega
  have hn : n < doubleLimit := by omega
  rw [delta, Delta.ofMinutes, if_neg (Nat.not_le.2 h), hhours, hminutes, delta_hours_of_lt hn]

/-! ## Parts of a number -/

/-- a smaller number of units has a span, with no more whole days -/
theorem exists_delta_of_le {span : Delta} (h : i.delta n = .ok span) (hle : k ≤ n) :
    ∃ part, i.delta k = .ok part ∧ part.days ≤ span.days := by
  cases i with
  | minutes =>
    simp only [delta, Delta.ofMinutes] at h ⊢
    split at h <;> cases h
    next hn => exact ⟨_, if_neg (by omega), Nat.div_le_div_right (Nat.div_le_div_right hle)⟩
  | hours =>
    simp only [delta, Delta.ofHours] at h ⊢
    split at h <;> cases h
    next hn => exact ⟨_, if_neg (by omega), Nat.div_le_div_right hle⟩
  | days =>
    cases h
    exact ⟨_, rfl, hle⟩
  | weeks =>
    cases h
    exact ⟨_, rfl, Nat.mul_le_mul_left 7 hle⟩
  | months =>
    simp only [delta, Delta.ofMonths] at h ⊢
    split at h <;> cases h
    next hn => exact ⟨_, if_neg (by omega), le_rfl⟩

end Interval

/-- a span is measured if it has no more days than a span may have -/
theorem Delta.ticks_isOk_iff {s : Delta} : (∃ n, s.ticks = .ok n) ↔ s.days ≤ maxDays := by
  unfold ticks
  by_cases hword : Nat.pow 2 31 ≤ s.days
  · rw [if_pos hword]
    have hlimit : maxDays < Nat.pow 2 31 := by decide
    exact iff_of_false (by simp) (by omega)
  · rw [if_neg hword]
    by_cases hdays : maxDays < s.days
    · rw [if_pos hdays]
      exact iff_of_false (by simp) (by omega)
    · rw [if_neg hdays]
      exact iff_of_true ⟨_, rfl⟩ (by omega)

/-- whether so many units have a span that is not too long -/
def Interval.Measures (i : Interval) (n : Nat) : Prop := ∃ span m, i.delta n = .ok span ∧ span.ticks = .ok m

/-- a part of a number of units is not too long if the whole is not -/
theorem Interval.Measures.of_le {i : Interval} {n k : Nat} (h : i.Measures n) (hle : k ≤ n) : i.Measures k := by
  obtain ⟨span, m, hspan, hm⟩ := h
  obtain ⟨part, hpart, hdays⟩ := exists_delta_of_le hspan hle
  have hmax : span.days ≤ maxDays := Delta.ticks_isOk_iff.1 ⟨m, hm⟩
  obtain ⟨m', hm'⟩ := Delta.ticks_isOk_iff.2 (hdays.trans hmax)
  exact ⟨part, m', hpart, hm'⟩

namespace Period

variable {p q : Period} {i j : Interval} {n m : Nat} {base mid sum : DateTime}

/-- two periods are the same length of time: they have the same span, and the same outcome when they are added -/
structure SameLength (p q : Period) : Prop where
  sameSpan : ∃ span, p.delta? = some (.ok span) ∧ q.delta? = some (.ok span)
  sameSum : ∀ base errorFor field, p.addTo base errorFor field = q.addTo base errorFor field

theorem check_of (i : Interval) (hn : 0 < n) : (Period.of i n).check = .ok (i, n) := by
  have hunit : (Period.of i n).unit? = some i := i.ofId?_name
  have hduration : (Period.of i n).duration? = some n := by
    have hpos : (0 : Int) < n := Int.natCast_pos.2 hn
    simp [duration?, Period.of, hn]
  exact check_eq_ok_iff.2 ⟨hunit, hduration⟩

/-- good periods whose spans are equal are the same length of time -/
theorem sameLength_of_delta_eq {span : Delta} (hp : p.check = .ok (i, n)) (hq : q.check = .ok (j, m))
    (hspan : i.delta n = .ok span) (heq : i.delta n = j.delta m) : SameLength p q := by
  refine ⟨⟨span, ?_, ?_⟩, fun base errorFor field => ?_⟩
  · rw [delta?_of_check hp, hspan]
  · rw [delta?_of_check hq, ← heq, hspan]
  · rw [addTo, hp, addTo, hq]
    simp only [heq]

/-- a date is so many units of a fixed length after another if the wall clock shows it and the fold is clear -/
theorem adds_iff_ticks (hcheck : p.check = .ok (i, n)) (hi : i ≠ .months) :
    p.Adds base sum ↔
      i.Measures n ∧ sum.zone = base.zone ∧ sum.fold = false ∧ sum.wall.ticks = base.wall.ticks + n * i.ticks := by
  constructor
  · intro h
    have hticks := h.ticks_eq hcheck hi
    obtain ⟨i', n', span, hcheck', hspan, hsum⟩ := h
    cases hcheck.symm.trans hcheck'
    obtain ⟨w, m, -, hm, hzone, hfold, -⟩ := Delta.addTo_eq_ok_iff.1 hsum
    exact ⟨⟨span, m, hspan, hm⟩, hzone, hfold, hticks⟩
  · rintro ⟨⟨span, m, hspan, hm⟩, hzone, hfold, hticks⟩
    have hmonths : base.wall.addMonths span.allMonths = .ok base.wall := by
      rw [Interval.allMonths_of_delta hspan, if_neg hi, Wall.addMonths_zero]
    rw [← Interval.ticks_of_delta hspan hm] at hticks
    exact ⟨i, n, span, hcheck, hspan, Delta.addTo_eq_ok_iff.2 ⟨_, m, hmonths, hm, hzone, hfold, hticks⟩⟩

/-- units of a fixed length can be added in two parts -/
theorem exists_adds_parts (hi : i ≠ .months) (hn : 0 < n) (hm : 0 < m)
    (h : (Period.of i (n + m : Nat)).Adds base sum) :
    ∃ mid, (Period.of i n).Adds base mid ∧ (Period.of i m).Adds mid sum := by
  obtain ⟨hmeasures, hzone, hfold, hticks⟩ := (adds_iff_ticks (check_of i (by omega)) hi).1 h
  have hsplit : (n + m) * i.ticks = n * i.ticks + m * i.ticks := Nat.add_mul n m i.ticks
  have hrange : base.wall.ticks + n * i.ticks < dayCount * ticksPerDay := by
    have := sum.wall.inRange
    omega
  refine ⟨⟨⟨base.wall.ticks + n * i.ticks, hrange⟩, base.zone, false⟩, ?_, ?_⟩
  · exact (adds_iff_ticks (check_of i hn) hi).2 ⟨hmeasures.of_le (by omega), rfl, rfl, rfl⟩
  · exact (adds_iff_ticks (check_of i hm) hi).2
      ⟨hmeasures.of_le (by omega), hzone, hfold, by rw [hticks, hsplit, Nat.add_assoc]⟩

/-- sixty times a number below a power of ten can still be rounded to double precision -/
theorem lt_doubleLimit {k : Nat} (h : n < 10 ^ 300) (hk : k ≤ 60) : k * n < doubleLimit := calc k * n
  _ ≤ 60 * n := Nat.mul_le_mul_right n hk
  _ < 60 * 10 ^ 300 := Nat.mul_lt_mul_of_pos_left h (by decide)
  _ < doubleLimit := by decide +kernel

/-- **Units cohere and add up.** Weeks are seven days each, days twenty-four hours and hours sixty minutes, as spans and in
every sum. And if the sum of a date and a number of minutes, hours, days or weeks exists, then the number can be added in
two parts, one after the other, with the same result. -/
theorem units_cohere :
    (∀ n : Nat, 0 < n → n < 10 ^ 300 →
      SameLength (.of .weeks n) (.of .days (7 * n : Nat)) ∧ SameLength (.of .hours (24 * n : Nat)) (.of .days n) ∧
        SameLength (.of .minutes (60 * n : Nat)) (.of .hours n)) ∧
      ∀ i : Interval, i ≠ .months → ∀ n m : Nat, 0 < n → 0 < m → ∀ base sum errorFor field,
        (Period.of i (n + m : Nat)).addTo (some base) errorFor field = .ok (.ok sum) →
          ∃ mid, (Period.of i n).addTo (some base) errorFor field = .ok (.ok mid) ∧
            (Period.of i m).addTo (some mid) errorFor field = .ok (.ok sum) := by
  refine ⟨fun n hn hlimit => ⟨?_, ?_, ?_⟩, ?_⟩
  · exact sameLength_of_delta_eq (check_of .weeks hn) (check_of .days (by omega)) rfl (Interval.delta_weeks n)
  · have hhours := Interval.delta_hours (lt_doubleLimit hlimit (by decide : 24 ≤ 60))
    exact sameLength_of_delta_eq (check_of .hours (by omega)) (check_of .days hn)
      (hhours.trans (Interval.delta_days n)) hhours
  · have hminutes := Interval.delta_minutes (lt_doubleLimit hlimit (by decide : 60 ≤ 60))
    have hn' : n < doubleLimit := (Nat.one_mul n).symm.trans_lt (lt_doubleLimit hlimit (by decide))
    have hhours := Interval.delta_hours_of_lt hn'
    exact sameLength_of_delta_eq (check_of .minutes (by omega)) (check_of .hours hn) (hminutes.trans hhours) hminutes
  · intro i hi n m hn hm base sum errorFor field hsum
    obtain ⟨mid, hfirst, hsecond⟩ := exists_adds_parts hi hn hm ((addTo_some_eq_ok errorFor field).1 hsum)
    exact ⟨mid, (addTo_some_eq_ok errorFor field).2 hfirst, (addTo_some_eq_ok errorFor field).2 hsecond⟩

/-- a week and a day after a leap day, added at once or one after the other -/
theorem units_cohere_leapDay :
    let leapDay := DateTime.utcDay 2024 2 29
    let sum := DateTime.utcDay 2024 3 8
    Interval.days ≠ .months ∧ (1 : Nat) < 10 ^ 300 ∧ SameLength (.of .weeks 1) (.of .days 7) ∧
      (Period.of .days 8).addTo (some leapDay) ({ message := · }) = .ok (.ok sum) ∧
      ∃ mid, (Period.of .days 7).addTo (some leapDay) ({ message := · }) = .ok (.ok mid) ∧
        (Period.of .days 1).addTo (some mid) ({ message := · }) = .ok (.ok sum) := by
  intro leapDay sum
  have hlimit : (1 : Nat) < 10 ^ 300 := by decide +kernel
  have hsum : (Period.of .days 8).addTo (some leapDay) ({ message := · }) = .ok (.ok sum) := by decide +kernel
  exact ⟨by decide, hlimit, (units_cohere.1 1 (by decide) hlimit).1, hsum,
    units_cohere.2 .days (by decide) 7 1 (by decide) (by decide) leapDay sum _ none hsum⟩

end Period

end Lending
