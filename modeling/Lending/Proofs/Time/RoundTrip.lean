/-
The text of a date, read back.

A date is written in numbers of a fixed width, and each of them is read back (`digits?_pad`), so a time of day is
(`readClock?_timeChars`), an offset is, unless it is a part of a second alone (`readTime?_written`), and a day is
(`readDay?_dateChars`). The characters of the text are few (`charsWith_subset`): none is a blank or a `Z`, so blanks around
the text are all that is trimmed, and no offset is taken for one that a final `Z` stands for. `parse_text` puts these
together, and reads a `Z` in the place of the offset of UTC.
-/
import Lending.Proofs.Time.Order
import Lending.Proofs.Time.Zulu

namespace Lending

/-! ## The numbers of a day and of a time -/

namespace Date

variable (d : Date)

theorem fields_lt : d.year < 10 ^ 4 ∧ d.month < 10 ^ 2 ∧ d.day < 10 ^ 2 := by
  obtain ⟨-, hyear, -, hmonth, -, hday⟩ := d.isDay
  have hlong : daysInMonth d.year d.month ≤ 31 := by
    have := leapDays_le d.year
    unfold daysInMonth
    split <;> omega
  omega

theorem ofFields_fields : ofFields d.year d.month d.day = .ok d := by
  rw [ofFields, dif_pos d.isDay]

end Date

namespace TimeOfDay

variable (t : TimeOfDay)

theorem fields_lt : t.hour < 24 ∧ t.minute < 60 ∧ t.second < 60 ∧ t.micro < 1000000 := by
  have hday := t.inDay
  unfold hour minute second micro
  simp only [ticksPerDay, ticksPerHour, ticksPerMinute, ticksPerSecond] at *
  omega

theorem total_fields : total t.hour t.minute t.second t.micro = t.ticks := by
  unfold total hour minute second micro
  simp only [ticksPerHour, ticksPerMinute, ticksPerSecond]
  omega

theorem ofFields_fields : ofFields t.hour t.minute t.second t.micro = .ok t := by
  obtain ⟨hh, hm, hs, hus⟩ := t.fields_lt
  rw [ofFields, dif_neg (by omega), dif_neg (by omega), dif_neg (by omega)]
  simp only [total_fields]

/-- a time of day is one of full minutes exactly if it shows no second and no part of one -/
theorem fullMinute_iff : t.ticks % ticksPerMinute = 0 ↔ t.second = 0 ∧ t.micro = 0 := by
  unfold second micro
  simp only [ticksPerMinute, ticksPerSecond]
  omega

end TimeOfDay

/-- the length of an offset as a time of day -/
def Offset.length (o : Offset) : TimeOfDay := ⟨o.ticks.natAbs, o.inDay⟩

theorem Offset.ticks_length (o : Offset) : o.length.ticks = o.ticks.natAbs := rfl

namespace Timestamp

open Lending.Text

/-! ## Numbers of a fixed width -/

section Pad

variable {w n : Nat}

theorem asciiDigit?_ofNat (h : n < 10) : asciiDigit? (Char.ofNat (0x30 + n)) = some n := by
  have hall : ∀ n < 10, asciiDigit? (Char.ofNat (0x30 + n)) = some n := by decide
  exact hall n h

/-- the digits of a number denote it, as far as the width goes -/
theorem mapM_pad (w n : Nat) : ((pad w n).mapM asciiDigit?).map (ofDigits 10) = some (n % 10 ^ w) := by
  induction w generalizing n with
  | zero => simp [pad, ofDigits, Nat.mod_one]
  | succ w ih =>
    obtain ⟨ds, hds, hvalue⟩ := Option.map_eq_some_iff.1 (ih (n / 10))
    have hlast : asciiDigit? (Char.ofNat (0x30 + n % 10)) = some (n % 10) :=
      asciiDigit?_ofNat (Nat.mod_lt n (by decide))
    have hdigits : (pad (w + 1) n).mapM asciiDigit? = some (ds ++ [n % 10]) := by
      simp [pad, List.mapM_append, hds, hlast]
    rw [hdigits, Option.map_some, Option.some.injEq]
    calc ofDigits 10 (ds ++ [n % 10])
      _ = ofDigits 10 ds * 10 + n % 10 := by simp [ofDigits, List.foldl_append]
      _ = n / 10 % 10 ^ w * 10 + n % 10 := by rw [hvalue]
      _ = n % 10 ^ (w + 1) := by rw [Nat.pow_succ', Nat.mod_mul, Nat.add_comm, Nat.mul_comm]

theorem length_pad (w n : Nat) : (pad w n).length = w := by
  induction w generalizing n with
  | zero => rfl
  | succ w ih => simp [pad, ih]

theorem digits_pad (w n : Nat) : Digits w (pad w n) := by
  obtain ⟨ds, hds, -⟩ := Option.map_eq_some_iff.1 (mapM_pad w n)
  exact ⟨length_pad w n, isAsciiDigit_of_mapM hds⟩

/-- **A number that fits into its width is read back**, and what follows it is left. -/
theorem digits?_pad (hw : 0 < w) (h : n < 10 ^ w) (rest : List Char) : digits? w (pad w n ++ rest) = some (n, rest) := by
  have hnonempty : (pad w n).isEmpty = false := by
    rw [List.isEmpty_eq_false_iff_exists_mem]
    exact List.exists_mem_of_length_pos (by rw [length_pad]; exact hw)
  have hnumber : asciiNumber? (pad w n) = some n := by
    simp [asciiNumber?, hnonempty, mapM_pad, Nat.mod_eq_of_lt h]
  have htake : (pad w n ++ rest).take w = pad w n := List.take_left' (length_pad w n)
  have hdrop : (pad w n ++ rest).drop w = rest := List.drop_left' (length_pad w n)
  rw [digits?, if_neg (by simp [length_pad]), htake, hdrop, hnumber]
  rfl

end Pad

/-! ## Times -/

section Clock

variable {h m s us : Nat}

theorem fieldEnd?_colon (colons : Option Bool) (hcolons : colons.getD true = true) (n : Nat) (rest : List Char) :
    fieldEnd? colons (':' :: (pad 2 n ++ rest)) = some (.field true (pad 2 n ++ rest)) := by
  rcases colons with _ | _ | _
  · rfl
  · cases hcolons
  · rfl

theorem readFraction?_pad (hus : us < 10 ^ 6) : readFraction? (pad 6 us) = some (us, true) := by
  have hread := digits?_pad (by decide) hus []
  rw [List.append_nil] at hread
  simp [readFraction?, length_pad, hread, ended]

theorem readClock?_minutes (hh : h < 10 ^ 2) (hm : m < 10 ^ 2) :
    readClock? (pad 2 h ++ ':' :: (pad 2 m ++ [])) = some (⟨h, m, 0, 0⟩, true) := by
  have hhour := digits?_pad (by decide) hh (':' :: (pad 2 m ++ []))
  have hminute := digits?_pad (by decide) hm []
  have hafterHour := fieldEnd?_colon none rfl m []
  have hend : fieldEnd? (some true) [] = some (.finish true) := rfl
  simp only [readClock?, Option.bind_eq_bind, hhour, hminute, hafterHour, hend, Option.bind_some, Option.pure_def]

theorem readClock?_micro (hh : h < 10 ^ 2) (hm : m < 10 ^ 2) (hs : s < 10 ^ 2) (hus : us < 10 ^ 6) :
    readClock? (pad 2 h ++ ':' :: (pad 2 m ++ ':' :: (pad 2 s ++ fractionChars us))) = some (⟨h, m, s, us⟩, true) := by
  have hhour := digits?_pad (by decide) hh (':' :: (pad 2 m ++ ':' :: (pad 2 s ++ fractionChars us)))
  have hminute := digits?_pad (by decide) hm (':' :: (pad 2 s ++ fractionChars us))
  have hsecond := digits?_pad (by decide) hs (fractionChars us)
  have hafterHour := fieldEnd?_colon none rfl m (':' :: (pad 2 s ++ fractionChars us))
  have hafterMinute := fieldEnd?_colon (some true) rfl s (fractionChars us)
  simp only [readClock?, Option.bind_eq_bind, hhour, hminute, hsecond, hafterHour, hafterMinute, Option.bind_some,
    Option.pure_def]
  by_cases hzero : us = 0
  · rw [fractionChars, if_pos hzero, hzero]
    rfl
  · have hafterSecond : fieldEnd? (some true) ('.' :: pad 6 us) = some (.fraction (pad 6 us)) := rfl
    rw [fractionChars, if_neg hzero, hafterSecond, Option.bind_some]
    simp only [readFraction?_pad hus, Option.bind_some]

/-- the numbers of a time of day -/
def ClockFields.of (t : TimeOfDay) : ClockFields := ⟨t.hour, t.minute, t.second, t.micro⟩

/-- **A time of day is read back.** -/
theorem readClock?_timeChars (t : TimeOfDay) : readClock? (timeChars t) = some (.of t, true) := by
  obtain ⟨hh, hm, hs, hus⟩ := t.fields_lt
  have hchars : timeChars t =
      pad 2 t.hour ++ ':' :: (pad 2 t.minute ++ ':' :: (pad 2 t.second ++ fractionChars t.micro)) := by
    simp [timeChars]
  rw [hchars]
  apply readClock?_micro <;> omega

end Clock

/-! ## Offsets -/

section Offset

variable {o : Offset}

/-- an offset without its sign: its hours and minutes, and the rest of it if there is any -/
def lengthChars (t : TimeOfDay) : List Char :=
  if t.ticks % ticksPerMinute = 0 then pad 2 t.hour ++ ':' :: (pad 2 t.minute ++ []) else timeChars t

theorem offsetChars_eq (o : Offset) : offsetChars o.ticks = (if o.ticks < 0 then '-' else '+') :: lengthChars o.length := by
  unfold offsetChars lengthChars
  by_cases hfull : o.ticks.natAbs % ticksPerMinute = 0
  · simp [Offset.length, hfull, TimeOfDay.hour, TimeOfDay.minute]
  · simp [Offset.length, hfull, TimeOfDay.hour, TimeOfDay.minute, TimeOfDay.second, TimeOfDay.micro, timeChars]

theorem readClock?_lengthChars (t : TimeOfDay) : readClock? (lengthChars t) = some (.of t, true) := by
  obtain ⟨hh, hm, hs, hus⟩ := t.fields_lt
  unfold lengthChars
  split_ifs with hfull
  · obtain ⟨hsecond, hmicro⟩ := t.fullMinute_iff.1 hfull
    rw [ClockFields.of, hsecond, hmicro]
    apply readClock?_minutes <;> omega
  · exact readClock?_timeChars t

/-- whether an offset is not lost in reading: it is none at all, or more than a part of a second -/
def Kept (o : Offset) : Prop := o.ticks = 0 ∨ ticksPerSecond ≤ o.ticks.natAbs

/-- numbers that come to a second at least, or to none of one, are taken for what they come to -/
theorem ClockFields.offsetTicks_eq {h m s us n : Nat} (htotal : TimeOfDay.total h m s us = n) (hmicro : us < 1000000)
    (hkept : n = 0 ∨ ticksPerSecond ≤ n) (negative : Bool) :
    offsetTicks negative ⟨h, m, s, us⟩ = if negative then -(n : Int) else n := by
  have hsize : (if h * 3600 + m * 60 + s = 0 then 0
      else (((h * 3600 + m * 60 + s) * ticksPerSecond + us : Nat) : Int)) = n := by
    unfold TimeOfDay.total ticksPerHour ticksPerMinute ticksPerSecond at htotal
    unfold ticksPerSecond at hkept ⊢
    split_ifs <;> omega
  rw [← hsize]
  rfl

theorem Kept.offsetTicks_eq (h : Kept o) : (ClockFields.of o.length).offsetTicks (o.ticks < 0) = o.ticks := by
  obtain ⟨-, -, -, hmicro⟩ := o.length.fields_lt
  have hkept : o.ticks.natAbs = 0 ∨ ticksPerSecond ≤ o.ticks.natAbs := by
    rcases h with hzero | hlong
    · exact .inl (Int.natAbs_eq_zero.2 hzero)
    · exact .inr hlong
  rw [ClockFields.of, ClockFields.offsetTicks_eq o.length.total_fields hmicro hkept]
  rw [o.ticks_length]
  by_cases hneg : o.ticks < 0
  · rw [if_pos (decide_eq_true hneg)]
    omega
  · rw [if_neg (by simpa using hneg)]
    omega

end Offset

/-! ## Characters -/

section Alphabet

/-- the characters of a time of day -/
def clockAlphabet : List Char := ['0', '1', '2', '3', '4', '5', '6', '7', '8', '9', ':', '.']

/-- the characters of a date -/
def alphabet : List Char := '-' :: '+' :: 'T' :: clockAlphabet

theorem clockAlphabet_subset : clockAlphabet ⊆ alphabet := by decide

theorem pad_subset (w n : Nat) : pad w n ⊆ clockAlphabet := by
  induction w generalizing n with
  | zero => exact List.nil_subset _
  | succ w ih =>
    have hdigit : ∀ k < 10, Char.ofNat (0x30 + k) ∈ clockAlphabet := by decide
    have hlast := hdigit (n % 10) (Nat.mod_lt n (by decide))
    rw [pad]
    exact List.append_subset.2 ⟨ih (n / 10), List.cons_subset.2 ⟨hlast, List.nil_subset _⟩⟩

theorem timeChars_subset (t : TimeOfDay) : timeChars t ⊆ clockAlphabet := by
  have hcolon : ':' ∈ clockAlphabet := by decide
  have hpoint : '.' ∈ clockAlphabet := by decide
  have hfraction : fractionChars t.micro ⊆ clockAlphabet := by
    unfold fractionChars
    split_ifs
    · exact List.nil_subset _
    · exact List.cons_subset.2 ⟨hpoint, pad_subset 6 _⟩
  simp [timeChars, List.append_subset, List.cons_subset, pad_subset, hcolon, hfraction]

theorem lengthChars_subset (t : TimeOfDay) : lengthChars t ⊆ clockAlphabet := by
  have hcolon : ':' ∈ clockAlphabet := by decide
  unfold lengthChars
  split_ifs
  · simp [List.append_subset, List.cons_subset, pad_subset, hcolon]
  · exact timeChars_subset t

theorem dateChars_subset (d : Date) : dateChars d ⊆ alphabet := by
  have hhyphen : '-' ∈ alphabet := by decide
  have hpad (w n : Nat) : pad w n ⊆ alphabet := List.Subset.trans (pad_subset w n) clockAlphabet_subset
  simp [dateChars, List.append_subset, List.cons_subset, hpad, hhyphen]

end Alphabet

/-! ## Days -/

theorem dateChars_eq (d : Date) :
    dateChars d = pad 4 d.year ++ '-' :: (pad 2 d.month ++ '-' :: (pad 2 d.day ++ [])) := by
  simp [dateChars]

theorem dayText_dateChars (d : Date) : DayText (dateChars d) := by
  have hday := DayText.calendar true (digits_pad 4 d.year) (digits_pad 2 d.month) (digits_pad 2 d.day)
  rw [dateChars_eq, List.append_nil]
  exact hday

/-- **A day is read back.** -/
theorem readDay?_dateChars (d : Date) : readDay? (dateChars d) = some (d.year, d.month, d.day) := by
  obtain ⟨hy, hm, hd⟩ := d.fields_lt
  have hyear := digits?_pad (by decide) hy ('-' :: (pad 2 d.month ++ '-' :: (pad 2 d.day ++ [])))
  have hmonth := digits?_pad (by decide) hm ('-' :: (pad 2 d.day ++ []))
  have hday := digits?_pad (by decide) hd []
  have hweek : ((pad 2 d.month ++ '-' :: (pad 2 d.day ++ [])).head? == some 'W') = false := by
    obtain ⟨a, b, hab, ha⟩ := (digits_pad 2 d.month).two
    have hne : a ≠ 'W' := ne_of_isAsciiDigit ha (by decide)
    simpa [hab] using hne
  have hhyphen : hyphen? true ('-' :: (pad 2 d.day ++ [])) = some (pad 2 d.day ++ []) := rfl
  have hextended : (('-' :: (pad 2 d.month ++ '-' :: (pad 2 d.day ++ []))).head? == some '-') = true := by simp
  rw [dateChars_eq]
  simp only [readDay?, Option.bind_eq_bind, hyear, hextended, hweek, hmonth, hhyphen, hday, Option.bind_some, if_true,
    List.tail_cons, Bool.false_eq_true, if_false, List.isEmpty_nil]

/-! ## Dates -/

section DateTime

variable {d : DateTime}

/-- whether a date has no zone, or one that is a fixed offset not lost in reading -/
def KeepsZone (d : DateTime) : Prop := d.zone = none ∨ ∃ o, d.zone = some (.fixed o) ∧ Kept o

theorem KeepsZone.cases (h : KeepsZone d) :
    d.zone = none ∧ d.offset? = none ∨ ∃ o, d.zone = some (.fixed o) ∧ d.offset? = some o.ticks ∧ Kept o := by
  rcases h with hnone | ⟨o, ho, hkept⟩
  · exact .inl ⟨hnone, by rw [DateTime.offset?, hnone]; rfl⟩
  · exact .inr ⟨o, ho, by rw [DateTime.offset?, ho]; rfl, hkept⟩

theorem startsOffset_of_clockAlphabet {c : Char} (h : c ∈ clockAlphabet) : startsOffset c = false := by
  have hall : clockAlphabet.all (!startsOffset ·) = true := by decide
  simpa using List.all_eq_true.1 hall c h

theorem readTime?_written (h : KeepsZone d) :
    readTime? (timeChars d.wall.time ++ zoneChars d) = some (.of d.wall.time, d.offset?) := by
  have hclock : ∀ c ∈ timeChars d.wall.time, startsOffset c = false := fun c hc =>
    startsOffset_of_clockAlphabet (timeChars_subset _ hc)
  rcases h.cases with ⟨-, hoffset⟩ | ⟨o, -, hoffset, hkept⟩
  · have hbefore : ∀ c ∈ timeChars d.wall.time, (!startsOffset c) = true := by simpa using hclock
    have htake : (timeChars d.wall.time).takeWhile (!startsOffset ·) = timeChars d.wall.time :=
      List.takeWhile_eq_self_iff.2 hbefore
    have hdrop : (timeChars d.wall.time).dropWhile (!startsOffset ·) = [] :=
      List.dropWhile_eq_nil_iff.2 hbefore
    rw [zoneChars, hoffset, List.append_nil, readTime?, htake, hdrop, readClock?_timeChars]
    rfl
  · have hzone : zoneChars d = offsetChars o.ticks := by rw [zoneChars, hoffset]
    rw [hzone, offsetChars_eq, hoffset, readTime?_signed hclock (by split_ifs <;> simp), readClock?_timeChars,
      readClock?_lengthChars]
    have hsign : decide ((if o.ticks < 0 then '-' else '+') = '-') = decide (o.ticks < 0) := by
      split_ifs with hneg <;> simp [hneg]
    rw [hsign]
    simp [hkept.offsetTicks_eq]

theorem readFields?_written (h : KeepsZone d) :
    readFields? (charsWith 'T' d) =
      some ⟨d.wall.date.year, d.wall.date.month, d.wall.date.day, .of d.wall.time, d.offset?⟩ := by
  have hchars : charsWith 'T' d = dateChars d.wall.date ++ 'T' :: (timeChars d.wall.time ++ zoneChars d) := by
    simp [charsWith]
  have hlength := (dayText_dateChars d.wall.date).dayLength?_append (by decide : isAsciiDigit 'T' = false) (by decide)
    (timeChars d.wall.time ++ zoneChars d)
  rw [hchars]
  simp only [readFields?, hlength, Option.bind_eq_bind, Option.bind_some, List.take_left, List.drop_left,
    readDay?_dateChars, readTime?_written h, Option.pure_def]

theorem mapM_offset? (h : KeepsZone d) :
    ∃ zone, d.offset?.mapM Offset.ofTicks = (.ok zone : Except Fault (Option Offset)) ∧ zone.map .fixed = d.zone := by
  rcases h.cases with ⟨hzone, hoffset⟩ | ⟨o, hzone, hoffset, -⟩
  · refine ⟨none, ?_, hzone.symm⟩
    rw [hoffset]
    rfl
  · have hticks : Offset.ofTicks o.ticks = .ok o := by rw [Offset.ofTicks, dif_pos o.inDay]
    refine ⟨some o, ?_, hzone.symm⟩
    rw [hoffset]
    simp [hticks]

/-- the numbers of a date are those of the date, but for the fold -/
theorem toDateTime_written (h : KeepsZone d) :
    Fields.toDateTime ⟨d.wall.date.year, d.wall.date.month, d.wall.date.day, .of d.wall.time, d.offset?⟩ =
      .ok { d with fold := false } := by
  obtain ⟨zone, hzone, heq⟩ := mapM_offset? h
  simp only [Fields.toDateTime, bind_eq_ok, pure_eq_ok]
  refine ⟨zone, hzone, d.wall.date, Date.ofFields_fields _, d.wall.time, TimeOfDay.ofFields_fields _, ?_⟩
  rw [heq, Wall.of_date_time]

end DateTime

/-! ## Blanks around a text -/

section Surrounded

theorem dropWhile_append_cons {α : Type} {p : α → Bool} {before rest : List α} {x : α}
    (hbefore : ∀ y ∈ before, p y = true) (hx : p x = false) : (before ++ x :: rest).dropWhile p = x :: rest := by
  rw [List.dropWhile_append_of_pos hbefore, List.dropWhile_cons_of_neg (by simp [hx])]

/-- what belongs to a class is dropped at both ends of a list with no member of the class in it -/
theorem trimBy_append {α : Type} {p : α → Bool} {before xs after : List α} (hbefore : ∀ x ∈ before, p x = true)
    (hafter : ∀ x ∈ after, p x = true) (hne : xs ≠ []) (hxs : ∀ x ∈ xs, p x = false) :
    trimBy p (before ++ (xs ++ after)) = xs := by
  obtain ⟨x, rest, hfirst⟩ := List.exists_cons_of_ne_nil hne
  obtain ⟨y, rest', hlast⟩ := List.exists_cons_of_ne_nil (List.reverse_ne_nil_iff.2 hne)
  have hx : p x = false := hxs x (by simp [hfirst])
  have hy : p y = false := hxs y (List.mem_reverse.1 (by simp [hlast]))
  have hafter' : ∀ x ∈ after.reverse, p x = true := by simpa using hafter
  have hfront : (before ++ (xs ++ after)).dropWhile p = xs ++ after := by
    rw [hfirst, List.cons_append]
    exact dropWhile_append_cons hbefore hx
  have hback : (xs ++ after).reverse.dropWhile p = xs.reverse := by
    rw [List.reverse_append, hlast]
    exact dropWhile_append_cons hafter' hy
  rw [trimBy, hfront, hback, List.reverse_reverse]

/-- whether a text is nothing but blanks -/
def IsBlankText (s : String) : Prop := ∀ c ∈ s.toList, isBlank c = true

/-- **Blanks around a text are trimmed**, and nothing else if there are none in it. -/
theorem trim_surrounded {before s after : String} (hbefore : IsBlankText before) (hafter : IsBlankText after)
    (hne : s.toList ≠ []) (hs : ∀ c ∈ s.toList, isBlank c = false) :
    (ofString (before ++ s ++ after)).trim = ofString s := by
  unfold trim ofString ofChars
  rw [String.toList_append, String.toList_append, List.append_assoc, List.map_append, List.map_append, trimBy_append]
  · simpa [Point.isA, IsBlankText] using hbefore
  · simpa [Point.isA, IsBlankText] using hafter
  · simpa using hne
  · simpa [Point.isA] using hs

end Surrounded

/-! ## The timestamp -/

variable {d : DateTime} {before after : String}

theorem timestampChars?_ofChars (cs : List Char) : timestampChars? (.ofChars cs) = some cs :=
  timestampChars?_append {} cs

theorem zoneChars_subset (h : KeepsZone d) : zoneChars d ⊆ alphabet := by
  rcases h.cases with ⟨-, hoffset⟩ | ⟨o, -, hoffset, -⟩
  · rw [zoneChars, hoffset]
    exact List.nil_subset _
  · have hsign : (if o.ticks < 0 then '-' else '+') ∈ alphabet := by split_ifs <;> decide
    rw [zoneChars, hoffset]
    dsimp only
    rw [offsetChars_eq]
    exact List.cons_subset.2 ⟨hsign, List.Subset.trans (lengthChars_subset _) clockAlphabet_subset⟩

/-- the characters of a date without its offset -/
def localChars (d : DateTime) : List Char := dateChars d.wall.date ++ 'T' :: timeChars d.wall.time

theorem charsWith_eq (d : DateTime) : charsWith 'T' d = localChars d ++ zoneChars d := rfl

theorem localChars_subset (d : DateTime) : localChars d ⊆ alphabet := by
  have hT : 'T' ∈ alphabet := by decide
  have htime : timeChars d.wall.time ⊆ alphabet := List.Subset.trans (timeChars_subset _) clockAlphabet_subset
  exact List.append_subset.2 ⟨dateChars_subset _, List.cons_subset.2 ⟨hT, htime⟩⟩

/-- the characters of a date are few -/
theorem charsWith_subset (h : KeepsZone d) : charsWith 'T' d ⊆ alphabet :=
  List.append_subset.2 ⟨localChars_subset d, zoneChars_subset h⟩

theorem isBlank_of_alphabet {c : Char} (h : c ∈ alphabet) : isBlank c = false := by
  have hall : alphabet.all (!isBlank ·) = true := by decide
  simpa using List.all_eq_true.1 hall c h

/-- a text without a `Z` is read as it is -/
theorem zuluOffset_ofChars {cs : List Char} (h : cs ⊆ alphabet) : zuluOffset (.ofChars cs) = .ofChars cs := by
  have hlast {z : Char} (hz : (Text.ofChars cs).points.getLast? = some (.char z)) : z ∈ alphabet := by
    rw [ofChars, List.getLast?_map] at hz
    obtain ⟨c, hc, hcz⟩ := Option.map_eq_some_iff.1 hz
    cases hcz
    exact h (List.mem_of_getLast? hc)
  unfold zuluOffset
  split
  · next hz => exact absurd (hlast hz) (by decide)
  · next hz => exact absurd (hlast hz) (by decide)
  · rfl

theorem toList_text (d : DateTime) : (text d).toList = charsWith 'T' d := String.toList_ofList

/-- **A date is read back** from its text, but for the fold, which is not written. -/
theorem parse_surrounded (h : KeepsZone d) (hbefore : IsBlankText before) (hafter : IsBlankText after) :
    parse (ofString (before ++ text d ++ after)) = .ok { d with fold := false } := by
  have hne : (text d).toList ≠ [] := by simp [toList_text, charsWith]
  have hblank : ∀ c ∈ (text d).toList, isBlank c = false := by
    intro c hc
    rw [toList_text] at hc
    exact isBlank_of_alphabet (charsWith_subset h hc)
  have hnonempty : (ofChars (charsWith 'T' d)).isEmpty = false := by
    simpa [Text.isEmpty, ofChars, toList_text] using hne
  rw [parse_none, parseText, trim_surrounded hbefore hafter hne hblank, ofString, toList_text]
  simp only [hnonempty, Bool.false_eq_true, if_false, zuluOffset_ofChars (charsWith_subset h), timestampChars?_ofChars,
    Option.bind_some, readFields?_written h, toDateTime_written h]

theorem keepsZone_of_inUtc (h : d.InUtc) : KeepsZone d := .inr ⟨.zero, h, .inl rfl⟩

theorem charsWith_of_inUtc (h : d.InUtc) : charsWith 'T' d = localChars d ++ zulu := by
  have hoffset : d.offset? = some 0 := by rw [DateTime.offset?, h]; rfl
  have hzero : offsetChars 0 = zulu := by decide
  rw [charsWith_eq, zoneChars, hoffset]
  dsimp only
  rw [hzero]

/-- a date of UTC is read back from its text with a `Z` in the place of the offset -/
theorem parse_zulu (h : d.InUtc) (hbefore : IsBlankText before) (hafter : IsBlankText after) {z : Char}
    (hz : z = 'Z' ∨ z = 'z') :
    parse (ofString (before ++ String.ofList (localChars d ++ [z]) ++ after)) = .ok { d with fold := false } := by
  have hne : (String.ofList (localChars d ++ [z])).toList ≠ [] := by simp
  have hblank : ∀ c ∈ (String.ofList (localChars d ++ [z])).toList, isBlank c = false := by
    intro c hc
    rw [String.toList_ofList] at hc
    rcases List.mem_append.1 hc with hc | hc
    · exact isBlank_of_alphabet (localChars_subset d hc)
    · obtain rfl := List.mem_singleton.1 hc
      rcases hz with rfl | rfl <;> decide
  have htrim : (ofString (before ++ String.ofList (localChars d ++ [z]) ++ after)).trim = ofChars (localChars d ++ [z]) := by
    rw [trim_surrounded hbefore hafter hne hblank, ofString, String.toList_ofList]
  have hlast :
      (ofString (before ++ String.ofList (localChars d ++ [z]) ++ after)).trim.points.getLast? = some (.char z) := by
    rw [htrim]
    simp [ofChars]
  have hends : EndsInZulu (ofString (before ++ String.ofList (localChars d ++ [z]) ++ after)) := by
    rcases hz with rfl | rfl
    · exact .inl hlast
    · exact .inr hlast
  rw [parse_none, parseText_eq_ok_iff hends]
  refine ⟨localChars d, _, ?_, ?_, toDateTime_written (keepsZone_of_inUtc h)⟩
  · have hpoints : (⟨(ofChars (localChars d ++ [z])).points.dropLast⟩ : Text) = ofChars (localChars d) := by
      simp [ofChars]
    rw [beforeLast?, htrim, hpoints, timestampChars?_ofChars]
  · rw [← charsWith_of_inUtc h]
    exact readFields?_written (keepsZone_of_inUtc h)

end Timestamp

/-- whether a date has no zone, or one that is a fixed offset of whole seconds -/
def DateTime.HasWholeOffset (d : DateTime) : Prop :=
  d.zone = none ∨ ∃ o : Offset, d.zone = some (.fixed o) ∧ (ticksPerSecond : Int) ∣ o.ticks

namespace Timestamp

open Lending.Text

theorem keepsZone_of_hasWholeOffset {d : DateTime} (h : d.HasWholeOffset) : KeepsZone d := by
  rcases h with hnone | ⟨o, ho, seconds, hseconds⟩
  · exact .inl hnone
  · refine .inr ⟨o, ho, ?_⟩
    unfold Kept
    unfold ticksPerSecond at *
    omega

/-- the date that a text gives takes a zone only if it has none -/
theorem parse_zone {t : Text} {d : DateTime} (h : parse t = .ok d) (zone : Option Zone) :
    parse t zone = .ok { d with zone := d.zone.or zone } := by
  obtain ⟨w, z, fold⟩ := d
  rw [parse_eq, h]
  cases z <;> cases zone <;> rfl

/-- **Timestamps round-trip.** A date without a zone, or with an offset of whole seconds, is read back from its text with
any blanks around it: the wall clock and the offset are the same, whatever the zone the text is read with, and a date without
an offset takes that zone. The text of a date of UTC ends in `+00:00`, and reads the same with a `Z` in its place. -/
theorem parse_text {d : DateTime} (hd : d.HasWholeOffset) {before after : String} (hbefore : IsBlankText before)
    (hafter : IsBlankText after) :
    (∀ zone, parse (ofString (before ++ text d ++ after)) zone = .ok ⟨d.wall, d.zone.or zone, false⟩) ∧
      (d.InUtc → ∃ s, text d = s ++ "+00:00" ∧ ∀ z ∈ ["Z", "z"], ∀ zone,
        parse (ofString (before ++ (s ++ z) ++ after)) zone = .ok ⟨d.wall, some .utc, false⟩) := by
  constructor
  · intro zone
    exact parse_zone (parse_surrounded (keepsZone_of_hasWholeOffset hd) hbefore hafter) zone
  · intro hutc
    refine ⟨String.ofList (localChars d), ?_, ?_⟩
    · rw [text, charsWith_of_inUtc hutc, String.ofList_append]
      rfl
    · intro z hz zone
      obtain ⟨c, hc, rfl⟩ : ∃ c, (c = 'Z' ∨ c = 'z') ∧ z = String.ofList [c] := by
        simp only [List.mem_cons, List.not_mem_nil, or_false] at hz
        rcases hz with rfl | rfl
        · exact ⟨'Z', .inl rfl, rfl⟩
        · exact ⟨'z', .inr rfl, rfl⟩
      rw [← String.ofList_append, parse_zone (parse_zulu hutc hbefore hafter hc), hutc]
      rfl

/-- a moment of year 7, twenty hours, three minutes and four seconds behind UTC -/
def yearSeven : DateTime :=
  ⟨.of ⟨7, 2, 3, by decide⟩ ⟨18367000089, by decide⟩, some (.fixed ⟨-72184000000, by decide⟩), true⟩

/-- the same reading in UTC -/
def yearSevenInUtc : DateTime := { yearSeven with zone := some .utc }

/-- an early date, with blanks around its text, is read back in Berlin as it was; in UTC its text may end in a `z` -/
theorem parse_text_yearSeven :
    let blanks := " \t\u3000"
    yearSeven.HasWholeOffset ∧ yearSevenInUtc.HasWholeOffset ∧ yearSevenInUtc.InUtc ∧ IsBlankText blanks ∧
      text yearSeven = "0007-02-03T05:06:07.000089-20:03:04" ∧
      parse (ofString (blanks ++ text yearSeven ++ blanks)) (some (.region .berlin)) =
        .ok { yearSeven with fold := false } ∧
      ∃ s, text yearSevenInUtc = s ++ "+00:00" ∧
        parse (ofString (blanks ++ (s ++ "z") ++ blanks)) = .ok { yearSevenInUtc with fold := false } := by
  intro blanks
  have hseven : yearSeven.HasWholeOffset := .inr ⟨_, rfl, by decide⟩
  have hutc : yearSevenInUtc.HasWholeOffset := .inr ⟨_, rfl, by decide⟩
  have hall : blanks.toList.all isBlank = true := by decide
  have hblanks : IsBlankText blanks := List.all_eq_true.1 hall
  obtain ⟨hread, -⟩ := parse_text hseven hblanks hblanks
  obtain ⟨-, hzulu⟩ := parse_text hutc hblanks hblanks
  obtain ⟨s, hs, hz⟩ := hzulu rfl
  exact ⟨hseven, hutc, rfl, hblanks, by decide +kernel, hread _, s, hs, hz "z" (by simp) none⟩

-- an offset of half a second is not one of whole seconds, and is lost
example : parse (text { yearSeven with zone := some (.fixed ⟨500000, by decide⟩) }) =
    .ok { yearSevenInUtc with fold := false } := by
  decide +kernel

end Timestamp

end Lending
