/-
The text of a day at the start of a timestamp.

`DayText` lists the forms of a day: calendar and week, extended and compact. The characters that count as the day of a
timestamp are in one of them whenever a day can be read from them (`dayText_take`), and a day counts as a day as a whole if
neither a digit nor a hyphen follows it at once (`DayText.dayLength?_append`).
-/
import Mathlib.Tactic
import Lending.Time.Timestamp

namespace Lending.Timestamp

open Lending.Text

/-! ## Digits -/

/-- a row of ASCII digits of a length -/
structure Digits (n : Nat) (cs : List Char) : Prop where
  length_eq : cs.length = n
  isDigit : ∀ c ∈ cs, isAsciiDigit c = true

theorem Digits.of_all {n : Nat} {cs : List Char} (hlength : cs.length = n) (hall : cs.all isAsciiDigit = true) :
    Digits n cs := ⟨hlength, List.all_eq_true.1 hall⟩

theorem isAsciiDigit_of_mapM {cs : List Char} {ds : List Nat} (h : cs.mapM asciiDigit? = some ds) :
    ∀ c ∈ cs, isAsciiDigit c = true := by
  induction cs generalizing ds with
  | nil => exact nofun
  | cons c cs ih =>
    simp only [List.mapM_cons, Option.bind_eq_bind, Option.bind_eq_some_iff] at h
    obtain ⟨d, hd, ds', hds', -⟩ := h
    have hc : isAsciiDigit c = true := Option.isSome_of_eq_some hd
    exact List.forall_mem_cons.2 ⟨hc, ih hds'⟩

/-- a number is read from a row of digits, and what follows them is left -/
theorem digits_of_read {n v : Nat} {cs rest : List Char} (h : digits? n cs = some (v, rest)) :
    ∃ ds, Digits n ds ∧ cs = ds ++ rest := by
  unfold digits? at h
  split_ifs at h with hlength
  obtain ⟨_, hnumber, heq⟩ := Option.map_eq_some_iff.1 h
  cases heq
  unfold asciiNumber? at hnumber
  split_ifs at hnumber
  obtain ⟨ds, hds, -⟩ := Option.map_eq_some_iff.1 hnumber
  have htake : (cs.take n).length = n := by
    rw [List.length_take]
    omega
  exact ⟨cs.take n, ⟨htake, isAsciiDigit_of_mapM hds⟩, (List.take_append_drop n cs).symm⟩

theorem ne_of_isAsciiDigit {c d : Char} (hc : isAsciiDigit c = true) (hd : isAsciiDigit d = false) : c ≠ d := by
  rintro rfl
  rw [hc] at hd
  cases hd

theorem Digits.one {cs : List Char} (h : Digits 1 cs) : ∃ a, cs = [a] ∧ isAsciiDigit a = true := by
  obtain ⟨a, rfl⟩ := List.length_eq_one_iff.1 h.length_eq
  exact ⟨a, rfl, h.isDigit a (by simp)⟩

theorem Digits.two {cs : List Char} (h : Digits 2 cs) : ∃ a b, cs = [a, b] ∧ isAsciiDigit a = true := by
  obtain ⟨a, b, rfl⟩ := List.length_eq_two.1 h.length_eq
  exact ⟨a, b, rfl, h.isDigit a (by simp)⟩

theorem Digits.four {cs : List Char} (h : Digits 4 cs) : ∃ a b c d, cs = [a, b, c, d] := by
  match cs, h.length_eq with
  | [a, b, c, d], _ => exact ⟨a, b, c, d, rfl⟩

/-! ## Forms of a day -/

/-- what stands between the parts of a day: a hyphen in the extended form, nothing in the compact one -/
def hyphen (extended : Bool) : List Char := if extended then ['-'] else []

/-- the text of a day -/
inductive DayText : List Char → Prop
  | calendar (extended : Bool) {y m d : List Char} :
    Digits 4 y → Digits 2 m → Digits 2 d → DayText (y ++ (hyphen extended ++ (m ++ (hyphen extended ++ d))))
  | week (extended : Bool) {y w : List Char} : Digits 4 y → Digits 2 w → DayText (y ++ (hyphen extended ++ 'W' :: w))
  | weekDay (extended : Bool) {y w d : List Char} :
    Digits 4 y → Digits 2 w → Digits 1 d → DayText (y ++ (hyphen extended ++ 'W' :: (w ++ (hyphen extended ++ d))))

/-- there is no plus sign in the text of a day -/
theorem DayText.plus_notMem {cs : List Char} (h : DayText cs) : '+' ∉ cs := by
  have hdigits : ∀ {n ds}, Digits n ds → '+' ∉ ds := fun hds hmem => absurd (hds.isDigit _ hmem) (by decide)
  have hhyphen : ∀ extended, '+' ∉ hyphen extended := by decide
  cases h with
  | calendar extended hy hm hd => simp [hdigits hy, hdigits hm, hdigits hd, hhyphen]
  | week extended hy hw => simp [hdigits hy, hdigits hw, hhyphen]
  | weekDay extended hy hw hd => simp [hdigits hy, hdigits hw, hdigits hd, hhyphen]

theorem hyphen?_eq_some {extended : Bool} {cs rest : List Char} (h : hyphen? extended cs = some rest) :
    cs = hyphen extended ++ rest := by
  cases extended with
  | false => exact Option.some.inj h
  | true =>
    simp only [hyphen?, Bool.not_true, Bool.false_eq_true, if_false] at h
    split at h <;> cases h
    rfl

theorem hyphen_append_tail (cs : List Char) :
    cs = hyphen (cs.head? == some '-') ++ if cs.head? == some '-' then cs.tail else cs := by
  by_cases h : cs.head? = some '-'
  · simpa [hyphen, h] using (List.cons_head?_tail h).symm
  · simp [hyphen, h]

/-- a day that is read begins with the text of a day; what may follow a day of a week is not looked at -/
theorem dayText_of_readDay {cs : List Char} {ymd : Nat × Nat × Nat} (h : readDay? cs = some ymd) :
    ∃ day rest, cs = day ++ rest ∧ DayText day ∧
      (rest = [] ∨ day.length = 10 ∨ day.length = 8 ∧ day[4]? = some 'W') := by
  simp only [readDay?, Option.bind_eq_bind, Option.bind_eq_some_iff, Prod.exists] at h
  obtain ⟨y, afterYear, hyear, h⟩ := h
  obtain ⟨ys, hys, rfl⟩ := digits_of_read hyear
  have hafter := hyphen_append_tail afterYear
  generalize (afterYear.head? == some '-') = extended at h hafter
  generalize (if extended then afterYear.tail else afterYear) = body at h hafter
  subst hafter
  split_ifs at h with hweek
  · have hbody : 'W' :: body.tail = body := List.cons_head?_tail (by simpa using hweek)
    simp only [Option.bind_eq_some_iff, Prod.exists] at h
    obtain ⟨week, afterWeek, hw, h⟩ := h
    obtain ⟨ws, hws, htail⟩ := digits_of_read hw
    rw [htail] at hbody
    subst hbody
    split_ifs at h with hempty
    · cases List.isEmpty_iff.1 hempty
      exact ⟨_, [], by simp, .week extended hys hws, .inl rfl⟩
    · simp only [Option.bind_eq_some_iff, Prod.exists] at h
      obtain ⟨afterHyphen, hhyphen, day, rest, hday, -⟩ := h
      cases hyphen?_eq_some hhyphen
      obtain ⟨ds, hds, rfl⟩ := digits_of_read hday
      refine ⟨_, rest, by simp, .weekDay extended hys hws hds, .inr ?_⟩
      cases extended <;> simp [hyphen, hys.length_eq, hws.length_eq, hds.length_eq]
  · simp only [Option.bind_eq_some_iff, Prod.exists] at h
    obtain ⟨month, afterMonth, hmonth, afterHyphen, hhyphen, day, rest, hday, h⟩ := h
    obtain ⟨ms, hms, rfl⟩ := digits_of_read hmonth
    cases hyphen?_eq_some hhyphen
    obtain ⟨ds, hds, rfl⟩ := digits_of_read hday
    split_ifs at h with hempty
    cases List.isEmpty_iff.1 hempty
    exact ⟨_, [], by simp, .calendar extended hys hms hds, .inl rfl⟩

/-! ## The length of a day -/

theorem dayLength?_le {cs : List Char} {n : Nat} (h : dayLength? cs = some n) :
    n ≤ 10 ∧ (cs[4]? = some 'W' → n ≤ 8) := by
  simp only [dayLength?] at h
  split_ifs at h <;> cases h <;> simp_all
  omega

/-- what counts as the day of a timestamp is the text of a day, if a day can be read from it -/
theorem dayText_take {cs : List Char} {n : Nat} {ymd : Nat × Nat × Nat} (hn : dayLength? cs = some n)
    (hday : readDay? (cs.take n) = some ymd) : DayText (cs.take n) := by
  obtain ⟨day, rest, htake, htext, hrest⟩ := dayText_of_readDay hday
  obtain ⟨hten, height⟩ := dayLength?_le hn
  have hlength : day.length + rest.length ≤ n := by
    have := congrArg List.length htake
    simp only [List.length_take, List.length_append] at this
    omega
  have hnil : rest = [] := by
    rcases hrest with hnil | hday | ⟨hday, hweek⟩
    · exact hnil
    · exact List.eq_nil_of_length_eq_zero (by omega)
    · have hfour : cs[4]? = some 'W' := by
        have hfour : (cs.take n)[4]? = some 'W' := by
          rw [htake, List.getElem?_append_left (by omega), hweek]
        rwa [List.getElem?_take_of_lt (by omega)] at hfour
      have := height hfour
      exact List.eq_nil_of_length_eq_zero (by omega)
  rw [htake, hnil, List.append_nil]
  exact htext

/-- a day that neither a digit nor a hyphen follows counts as a day as a whole -/
theorem DayText.dayLength?_append {day : List Char} (h : DayText day) {separator : Char}
    (hdigit : isAsciiDigit separator = false) (hhyphen : separator ≠ '-') (rest : List Char) :
    dayLength? (day ++ separator :: rest) = some day.length := by
  cases h with
  | calendar extended hy hm hd =>
    obtain ⟨a, b, c, d, rfl⟩ := hy.four
    obtain ⟨e, f, rfl, he⟩ := hm.two
    obtain ⟨g, k, rfl, -⟩ := hd.two
    have hminus : e ≠ '-' := ne_of_isAsciiDigit he (by decide)
    have hweek : e ≠ 'W' := ne_of_isAsciiDigit he (by decide)
    cases extended <;> simp [dayLength?, hyphen, hminus, hweek]
  | week extended hy hw =>
    obtain ⟨a, b, c, d, rfl⟩ := hy.four
    obtain ⟨e, f, rfl, -⟩ := hw.two
    cases extended <;> simp [dayLength?, hyphen, hdigit, hhyphen]
  | weekDay extended hy hw hd =>
    obtain ⟨a, b, c, d, rfl⟩ := hy.four
    obtain ⟨e, f, rfl, -⟩ := hw.two
    obtain ⟨g, rfl, hg⟩ := hd.one
    cases extended <;> simp [dayLength?, hyphen, hdigit, hg]

end Lending.Timestamp
