/-
A final `Z` in a timestamp.

The reader of timestamps writes a final `Z` as the offset `+00:00`, and what comes before the `Z` decides what becomes of
that. After a time it is the offset, and the date is one of UTC. After a bare day its sign counts as the character between
day and time and the rest as a time, so that the date has no zone (`DayText.readFields?_zulu`). And it is not reached where
a NUL cuts off an offset that the text has of its own (`CutOffset`). There is no other case (`offset_zulu`). For the date
that a text gives, `offset?_of_parse` says when it is one of UTC and `parse_independent_iff` when it does not depend on the
zone that the text is read with.
-/
import Mathlib.Data.List.TakeWhile
import Lending.Proofs.Outcome
import Lending.Proofs.Time.DayText

namespace Lending.Timestamp

open Lending.Text

/-! ## Texts that end in a `Z` -/

/-- how a final `Z` is written for the reader -/
def zulu : List Char := ['+', '0', '0', ':', '0', '0']

/-- whether a text, blanks at the end aside, ends in a `Z` -/
def EndsInZulu (t : Text) : Prop :=
  t.trim.points.getLast? = some (.char 'Z') ∨ t.trim.points.getLast? = some (.char 'z')

/-- the characters of a text before the last, as the reader takes them -/
def beforeLast? (t : Text) : Option (List Char) := timestampChars? ⟨t.trim.points.dropLast⟩

theorem chars?_append (t : Text) (cs : List Char) : (t ++ ofChars cs).chars? = t.chars?.map (· ++ cs) := by
  have hcs : (ofChars cs).points.mapM Point.char? = some cs := chars?_ofChars cs
  simp only [chars?, points_append, List.mapM_append, hcs]
  cases t.points.mapM Point.char? <;> rfl

/-- what is put at the end of a text has no part in how its surrogates are taken -/
theorem timestampChars?_append (t : Text) (cs : List Char) :
    timestampChars? (t ++ ofChars cs) = (timestampChars? t).map (· ++ cs) := by
  have hplace (i : Nat) : ((t ++ ofChars cs).points[i]?).any (·.char?.isNone) = (t.points[i]?).any (·.char?.isNone) := by
    rw [points_append]
    rcases Nat.lt_or_ge i t.points.length with hi | hi
    · rw [List.getElem?_append_left hi]
    · rw [List.getElem?_append_right hi, List.getElem?_eq_none hi, ofChars, List.getElem?_map]
      cases cs[i - t.points.length]? <;> rfl
  unfold timestampChars?
  simp only [hplace]
  split
  · next i hi =>
    have hlt : i < t.points.length := by
      have := List.find?_some hi
      by_contra hge
      rw [List.getElem?_eq_none (by omega)] at this
      cases this
    rw [points_append, List.set_append_left _ _ hlt]
    exact chars?_append ⟨t.points.set i (.char 'T')⟩ cs
  · exact chars?_append t cs

theorem zuluOffset_of_endsInZulu {t : Text} (h : EndsInZulu t) :
    zuluOffset t.trim = ⟨t.trim.points.dropLast⟩ ++ ofChars zulu := by
  rcases h with h | h <;> simp only [zuluOffset, h] <;> rfl

/-- a text that ends in a `Z` is read as what comes before and an offset -/
theorem parseText_eq_ok_iff {t : Text} (h : EndsInZulu t) {d : DateTime} :
    parseText t = .ok d ↔
      ∃ cs f, beforeLast? t = some cs ∧ readFields? (cs ++ zulu) = some f ∧ f.toDateTime = .ok d := by
  have hnonempty : t.trim.isEmpty = false := by
    rw [Text.isEmpty, List.isEmpty_eq_false_iff]
    rintro hnil
    rcases h with h | h <;> rw [hnil] at h <;> cases h
  simp only [parseText, hnonempty, Bool.false_eq_true, if_false, zuluOffset_of_endsInZulu h, timestampChars?_append]
  rw [beforeLast?]
  cases timestampChars? ⟨t.trim.points.dropLast⟩ with
  | none => simp
  | some cs =>
    cases hf : readFields? (cs ++ zulu) with
    | none => simp [hf]
    | some f => simp [hf]

/-! ## What cannot be read to its end -/

/-- whether there is a plus sign ahead, and no NUL at which reading could end before -/
def Unfinished (cs : List Char) : Prop := '+' ∈ cs ∧ '\x00' ∉ cs

namespace Unfinished

variable {cs rest : List Char} {clean : Bool}

theorem of_append {ds : List Char} (h : Unfinished (ds ++ rest)) (hds : ∀ c ∈ ds, isAsciiDigit c = true) :
    Unfinished rest := by
  obtain ⟨hplus, hnul⟩ := h
  have hdigits : '+' ∉ ds := fun hmem => absurd (hds _ hmem) (by decide)
  exact ⟨(List.mem_append.1 hplus).resolve_left hdigits, fun hmem => hnul (List.mem_append_right _ hmem)⟩

theorem digits? {n v : Nat} (h : Unfinished cs) (hread : digits? n cs = some (v, rest)) : Unfinished rest := by
  obtain ⟨ds, hds, rfl⟩ := digits_of_read hread
  exact h.of_append hds.isDigit

theorem of_cons {c : Char} (h : Unfinished (c :: rest)) (hc : c ≠ '+') : Unfinished rest := by
  obtain ⟨hplus, hnul⟩ := h
  exact ⟨(List.mem_cons.1 hplus).resolve_left hc.symm, fun hmem => hnul (List.mem_cons_of_mem c hmem)⟩

theorem ended_eq_false (h : Unfinished cs) : ended cs = false := by
  obtain ⟨hplus, hnul⟩ := h
  cases cs with
  | nil => cases hplus
  | cons c cs =>
    have hc : c ≠ '\x00' := fun heq => hnul (heq ▸ List.mem_cons_self)
    simp [ended, hc]

theorem fraction {us : Nat} (h : Unfinished cs) (hread : readFraction? cs = some (us, clean)) : clean = false := by
  simp only [readFraction?, Option.bind_eq_bind, Option.bind_eq_some_iff, Prod.exists, Option.pure_def, Option.some.injEq,
    Prod.mk.injEq] at hread
  obtain ⟨value, rest, hdigits, -, rfl⟩ := hread
  have hrest : Unfinished rest := h.digits? hdigits
  rw [← List.takeWhile_append_dropWhile (p := isAsciiDigit) (l := rest)] at hrest
  exact (hrest.of_append fun c hc => List.mem_takeWhile_imp hc).ended_eq_false

/-- what follows a field of a time is unfinished where the field is -/
def Follows : FieldEnd → Prop
  | .finish clean => clean = false
  | .field _ rest => Unfinished rest
  | .fraction rest => Unfinished rest

theorem fieldEnd {colons : Option Bool} {e : FieldEnd} (h : Unfinished cs) (hread : fieldEnd? colons cs = some e) :
    Follows e := by
  unfold fieldEnd? at hread
  split at hread
  · cases h.1
  · next c =>
    split_ifs at hread
    cases hread
    have hc : c = '+' := by simpa [eq_comm] using h.1
    simp [Follows, hc]
  · next c rest _ =>
    dsimp only at hread
    split_ifs at hread with hcolon hpoint
    · cases hread
      have hc : c = ':' := of_decide_eq_true (Bool.and_eq_true_iff.1 hcolon).2
      exact h.of_cons (hc ▸ by decide)
    · cases hread
      refine h.of_cons ?_
      rcases hpoint with rfl | rfl <;> decide
    · cases hread
      exact h

theorem field {n v : Nat} {colons : Option Bool} {e : FieldEnd} (h : Unfinished cs)
    (hread : Timestamp.digits? n cs = some (v, rest)) (he : fieldEnd? colons rest = some e) : Follows e :=
  (h.digits? hread).fieldEnd he

theorem fraction_then {f : ClockFields} (k : Nat → ClockFields) (h : Unfinished cs)
    (hread : ((readFraction? cs).bind fun x => some (k x.1, x.2)) = some (f, clean)) : clean = false := by
  obtain ⟨⟨us, c⟩, hus, heq⟩ := Option.bind_eq_some_iff.1 hread
  cases heq
  exact h.fraction hus

/-- a time is not read to its end where it is unfinished -/
theorem clock {f : ClockFields} (h : Unfinished cs) (hread : readClock? cs = some (f, clean)) : clean = false := by
  simp only [readClock?, Option.bind_eq_bind, Option.bind_eq_some_iff, Prod.exists, Option.pure_def] at hread
  obtain ⟨hour, afterHour, hhour, e, he, hread⟩ := hread
  have hafterHour := h.field hhour he
  cases e with
  | finish c =>
    cases hread
    exact hafterHour
  | fraction rest => exact fraction_then (fun us => ⟨hour, 0, 0, us⟩) hafterHour hread
  | field colons rest =>
    simp only [Option.bind_eq_some_iff, Prod.exists] at hread
    obtain ⟨minute, afterMinute, hminute, e, he, hread⟩ := hread
    have hafterMinute := field hafterHour hminute he
    cases e with
    | finish c =>
      cases hread
      exact hafterMinute
    | fraction rest => exact fraction_then (fun us => ⟨hour, minute, 0, us⟩) hafterMinute hread
    | field _ rest =>
      simp only [Option.bind_eq_some_iff, Prod.exists] at hread
      obtain ⟨second, afterSecond, hsecond, e, he, hread⟩ := hread
      have hafterSecond := field hafterMinute hsecond he
      cases e with
      | finish c =>
        cases hread
        exact hafterSecond
      | fraction rest => exact fraction_then (fun us => ⟨hour, minute, second, us⟩) hafterSecond hread
      | field _ rest => exact fraction_then (fun us => ⟨hour, minute, second, us⟩) hafterSecond hread

end Unfinished

/-! ## The offset of a time -/

section Time

variable {cs clock rest : List Char} {sign : Char} {o : Int} {fields : ClockFields} {offset : Option Int}

theorem split_clock (rest : List Char) (hclock : ∀ c ∈ clock, startsOffset c = false) (hsign : startsOffset sign = true) :
    (clock ++ sign :: rest).takeWhile (!startsOffset ·) = clock ∧
      (clock ++ sign :: rest).dropWhile (!startsOffset ·) = sign :: rest := by
  have hbefore : ∀ c ∈ clock, (!startsOffset c) = true := by simpa using hclock
  rw [List.takeWhile_append_of_pos hbefore, List.dropWhile_append_of_pos hbefore]
  simp [hsign]

theorem readTime?_signed (hclock : ∀ c ∈ clock, startsOffset c = false) (hsign : sign = '+' ∨ sign = '-') :
    readTime? (clock ++ sign :: rest) =
      (readClock? clock).bind fun x => (readClock? rest).bind fun y =>
        if y.2 then some (x.1, some (y.1.offsetTicks (sign = '-'))) else none := by
  have hstarts : startsOffset sign = true := by rcases hsign with rfl | rfl <;> decide
  obtain ⟨htake, hdrop⟩ := split_clock rest hclock hstarts
  rw [readTime?, htake, hdrop]
  rcases hsign with rfl | rfl <;> rfl

theorem readTime?_Z (hclock : ∀ c ∈ clock, startsOffset c = false) :
    readTime? (clock ++ 'Z' :: rest) =
      (readClock? clock).bind fun x => if ended rest then some (x.1, some 0) else none := by
  obtain ⟨htake, hdrop⟩ := split_clock rest hclock (by decide : startsOffset 'Z' = true)
  rw [readTime?, htake, hdrop]
  rfl

/-- the time of the offset that stands for a `Z` -/
def zuluClock : List Char := zulu.tail

theorem readClock?_zuluClock : readClock? zuluClock = some (⟨0, 0, 0, 0⟩, true) := by decide

/-- an offset that a time has of its own before a final `Z`: it is cut off by a NUL, so that the reader ends there -/
def OwnOffset (cs : List Char) (o : Int) : Prop :=
  ∃ clock sign own fields, cs = clock ++ sign :: own ∧ (∀ c ∈ clock, startsOffset c = false) ∧ (sign = '+' ∨ sign = '-') ∧
    '\x00' ∈ own ∧ readClock? (own ++ zulu) = some (fields, true) ∧ fields.offsetTicks (sign = '-') = o

theorem OwnOffset.offset_eq (h : OwnOffset cs o) (hread : readTime? (cs ++ zulu) = some (fields, offset)) :
    offset = some o := by
  obtain ⟨clock, sign, own, own', rfl, hclock, hsign, -, hown, rfl⟩ := h
  rw [List.append_assoc, List.cons_append, readTime?_signed hclock hsign, hown] at hread
  obtain ⟨x, -, heq⟩ := Option.bind_eq_some_iff.1 hread
  cases heq
  rfl

theorem startsOffset_cases {c : Char} (h : startsOffset c = true) : c = 'Z' ∨ c = '+' ∨ c = '-' := by
  simp only [startsOffset, Bool.or_eq_true, decide_eq_true_eq] at h
  tauto

/-- before a final `Z` the offset of a time is zero or its own -/
theorem offset_of_readTime (hread : readTime? (cs ++ zulu) = some (fields, offset)) :
    ∃ o, offset = some o ∧ (o = 0 ∨ OwnOffset cs o) := by
  cases hfind : cs.find? startsOffset with
  | none =>
    have hclock : ∀ c ∈ cs, startsOffset c = false := by simpa using hfind
    have hzulu : zulu = '+' :: zuluClock := rfl
    rw [hzulu, readTime?_signed hclock (.inl rfl), readClock?_zuluClock] at hread
    obtain ⟨x, -, heq⟩ := Option.bind_eq_some_iff.1 hread
    cases heq
    exact ⟨0, rfl, .inl rfl⟩
  | some sign =>
    obtain ⟨hstarts, clock, own, rfl, hnone⟩ := List.find?_eq_some_iff_append.1 hfind
    have hclock : ∀ c ∈ clock, startsOffset c = false := by simpa using hnone
    rw [List.append_assoc, List.cons_append] at hread
    rcases startsOffset_cases hstarts with rfl | hsign
    · rw [readTime?_Z hclock] at hread
      obtain ⟨x, -, heq⟩ := Option.bind_eq_some_iff.1 hread
      split_ifs at heq
      cases heq
      exact ⟨0, rfl, .inl rfl⟩
    · rw [readTime?_signed hclock hsign] at hread
      obtain ⟨x, -, hread⟩ := Option.bind_eq_some_iff.1 hread
      obtain ⟨⟨own', clean⟩, hown, heq⟩ := Option.bind_eq_some_iff.1 hread
      split_ifs at heq with hclean
      cases hclean
      cases heq
      -- the reader passes the sign of the zero offset only if a NUL has ended the time before
      have hnul : '\x00' ∈ own := by
        by_contra hnul
        have hunfinished : Unfinished (own ++ zulu) := ⟨by simp [zulu], by simpa [zulu] using hnul⟩
        cases hunfinished.clock hown
      exact ⟨_, rfl, .inr ⟨clock, sign, own, own', rfl, hclock, hsign, hnul, hown, rfl⟩⟩

end Time

/-! ## The offset of a timestamp -/

section Fields

variable {cs : List Char} {f : Fields}

theorem readFields?_eq_some (h : readFields? cs = some f) :
    ∃ n ymd, dayLength? cs = some n ∧ readDay? (cs.take n) = some ymd ∧
      (cs.drop n = [] ∧ f.offset = none ∨
        ∃ separator rest, cs.drop n = separator :: rest ∧ readTime? rest = some (f.clock, f.offset)) := by
  simp only [readFields?, Option.bind_eq_bind, Option.bind_eq_some_iff, Prod.exists] at h
  obtain ⟨n, hn, y, m, d, hday, h⟩ := h
  refine ⟨n, (y, m, d), hn, hday, ?_⟩
  split at h
  · next hdrop =>
    cases h
    exact .inl ⟨hdrop, rfl⟩
  · next separator rest hdrop =>
    simp only [Option.bind_eq_some_iff, Prod.exists] at h
    obtain ⟨clock, offset, htime, heq⟩ := h
    cases heq
    exact .inr ⟨separator, rest, hdrop, htime⟩

/-- after a bare day the sign of the zero offset counts as the character between day and time, and the rest as midnight -/
theorem DayText.readFields?_zulu (hday : DayText cs) (h : readFields? (cs ++ zulu) = some f) :
    f.clock = ⟨0, 0, 0, 0⟩ ∧ f.offset = none := by
  obtain ⟨n, ymd, hn, -, hrest⟩ := readFields?_eq_some h
  have hwhole := hday.dayLength?_append (by decide : isAsciiDigit '+' = false) (by decide) zuluClock
  have hlength : n = cs.length := Option.some.inj (hn.symm.trans hwhole)
  have hdrop : (cs ++ zulu).drop n = '+' :: zuluClock := by rw [hlength, List.drop_left]; rfl
  rcases hrest with ⟨hnil, -⟩ | ⟨separator, rest, hrest, htime⟩
  · rw [hdrop] at hnil
    cases hnil
  · cases hdrop.symm.trans hrest
    have hmidnight : readTime? zuluClock = some (⟨0, 0, 0, 0⟩, none) := by decide
    exact Prod.ext_iff.1 (Option.some.inj (htime.symm.trans hmidnight))

/-- where there is more than a day before a final `Z`, there is a character between day and time -/
theorem exists_separator (hday : ¬ DayText cs) (h : readFields? (cs ++ zulu) = some f) :
    ∃ n separator rest, dayLength? (cs ++ zulu) = some n ∧ cs.drop n = separator :: rest ∧
      readTime? (rest ++ zulu) = some (f.clock, f.offset) := by
  obtain ⟨n, ymd, hn, hymd, hrest⟩ := readFields?_eq_some h
  have htake := dayText_take hn hymd
  have hlt : n < cs.length := by
    by_contra! hge
    rw [List.take_append, List.take_of_length_le hge] at htake
    rcases hge.eq_or_lt with heq | hlt
    · rw [heq, Nat.sub_self, List.take_zero, List.append_nil] at htake
      exact hday htake
    · obtain ⟨k, hk⟩ : ∃ k, n - cs.length = k + 1 := ⟨n - cs.length - 1, by omega⟩
      rw [hk, zulu, List.take_succ_cons] at htake
      exact htake.plus_notMem (by simp)
  have hdrop : (cs ++ zulu).drop n = cs[n] :: (cs.drop (n + 1) ++ zulu) := by
    rw [List.drop_append_of_le_length hlt.le, List.drop_eq_getElem_cons hlt, List.cons_append]
  rcases hrest with ⟨hnil, -⟩ | ⟨separator, rest, hcons, htime⟩
  · rw [hdrop] at hnil
    cases hnil
  · cases hdrop.symm.trans hcons
    exact ⟨n, cs[n], cs.drop (n + 1), hn, List.drop_eq_getElem_cons hlt, htime⟩

/-- an offset other than zero that the time of a text has of its own before a final `Z` -/
def CutOffset (cs : List Char) : Prop :=
  ∃ n separator rest o, dayLength? (cs ++ zulu) = some n ∧ cs.drop n = separator :: rest ∧ o ≠ 0 ∧ OwnOffset rest o

/-- the offset before a final `Z` is none after a bare day, and other than zero if the text has one of its own -/
theorem offset_zulu (h : readFields? (cs ++ zulu) = some f) :
    (f.offset = none ↔ DayText cs) ∧ (f.offset = some 0 ↔ ¬ DayText cs ∧ ¬ CutOffset cs) := by
  by_cases hday : DayText cs
  · simp [hday, (hday.readFields?_zulu h).2]
  · obtain ⟨n, separator, rest, hn, hdrop, htime⟩ := exists_separator hday h
    obtain ⟨o, ho, hcases⟩ := offset_of_readTime htime
    have hcut : CutOffset cs ↔ o ≠ 0 := by
      constructor
      · rintro ⟨n', separator', rest', o', hn', hdrop', hzero, hown⟩
        cases hn.symm.trans hn'
        cases hdrop.symm.trans hdrop'
        cases ho.symm.trans (hown.offset_eq htime)
        exact hzero
      · intro hzero
        exact ⟨n, separator, rest, o, hn, hdrop, hzero, hcases.resolve_left hzero⟩
    simp [ho, hday, hcut]

end Fields

/-! ## The date -/

variable {t : Text} {d : DateTime}

theorem Offset.of_mapM_ofTicks {offset : Option Int} {zone : Option Offset}
    (h : offset.mapM Offset.ofTicks = (.ok zone : Except Fault (Option Offset))) : zone.map (·.ticks) = offset := by
  cases offset with
  | none =>
    cases h
    rfl
  | some o =>
    have hmap : (Offset.ofTicks o).map some = .ok zone := h
    unfold Offset.ofTicks at hmap
    split_ifs at hmap <;> cases hmap
    rfl

/-- the offset of a date is the one in the numbers it is made of -/
theorem offset?_of_toDateTime {f : Fields} (h : f.toDateTime = .ok d) : d.offset? = f.offset := by
  simp only [Fields.toDateTime, bind_eq_ok, pure_eq_ok] at h
  obtain ⟨zone, hzone, date, -, time, -, rfl⟩ := h
  rw [← Offset.of_mapM_ofTicks hzone]
  cases zone <;> rfl

/-- whether a text is a day and a final `Z`, with nothing between -/
def IsBareDay (t : Text) : Prop := ∃ cs, beforeLast? t = some cs ∧ DayText cs

/-- whether a text has an offset other than zero, cut off by a NUL, before a final `Z` -/
def HasCutOffset (t : Text) : Prop := ∃ cs, beforeLast? t = some cs ∧ CutOffset cs

theorem parse_eq (t : Text) (zone : Option Zone) :
    parse t zone = (parse t).map fun d => zone.elim d (d.ensureAware ·) := by
  simp only [parse]
  cases parseText t <;> cases zone <;> rfl

theorem parse_none (t : Text) : parse t = parseText t := by
  unfold parse
  cases parseText t <;> rfl

/-- a final `Z` gives an offset of zero, unless it follows a bare day or an offset cut off by a NUL -/
theorem offset?_of_parse (ht : EndsInZulu t) (hd : parse t = .ok d) :
    (d.offset? = none ↔ IsBareDay t) ∧ (d.offset? = some 0 ↔ ¬ IsBareDay t ∧ ¬ HasCutOffset t) := by
  rw [parse_none, parseText_eq_ok_iff ht] at hd
  obtain ⟨cs, f, hcs, hread, hdate⟩ := hd
  have hbare : IsBareDay t ↔ DayText cs := by simp [IsBareDay, hcs]
  have hcut : HasCutOffset t ↔ CutOffset cs := by simp [HasCutOffset, hcs]
  rw [offset?_of_toDateTime hdate, hbare, hcut]
  exact offset_zulu hread

example : (parse "2024-01-01T10:00:00+05:00:00.123456\x00Z").map (·.offset?) = .ok (some 18000123456) := by
  decide +kernel

/-- a bare day and a final `Z` give the midnight at which the day begins, without a zone -/
theorem exists_midnight (ht : EndsInZulu t) (hbare : IsBareDay t) (hd : parse t = .ok d) :
    ∃ day, d = ⟨.of day .midnight, none, false⟩ := by
  rw [parse_none, parseText_eq_ok_iff ht] at hd
  obtain ⟨cs, f, hcs, hread, hdate⟩ := hd
  obtain ⟨cs', hcs', hday⟩ := hbare
  cases hcs.symm.trans hcs'
  obtain ⟨hclock, hoffset⟩ := hday.readFields?_zulu hread
  simp only [Fields.toDateTime, bind_eq_ok, pure_eq_ok, hclock, hoffset] at hdate
  obtain ⟨zone, hzone, day, -, time, htime, rfl⟩ := hdate
  cases hzone
  have hmidnight : TimeOfDay.ofFields 0 0 0 0 = .ok .midnight := by decide
  cases htime.symm.trans hmidnight
  exact ⟨day, rfl⟩

theorem parse_eq_ok_of_zone {zone : Option Zone} {d : DateTime} (h : parse t zone = .ok d) : ∃ d, parse t = .ok d := by
  rw [parse_eq] at h
  cases hd : parse t with
  | error f =>
    rw [hd] at h
    cases h
  | ok d => exact ⟨d, rfl⟩

/-- a date without an offset takes the zone, another date does not -/
theorem parse_of_offset (hd : parse t = .ok d) (hoffset : d.offset? ≠ none) (zone : Option Zone) : parse t zone = .ok d := by
  have hzone : d.zone ≠ none := by
    intro hnone
    rw [DateTime.offset?, hnone] at hoffset
    exact hoffset rfl
  obtain ⟨z, hz⟩ := Option.ne_none_iff_exists'.1 hzone
  rw [parse_eq, hd]
  cases zone with
  | none => rfl
  | some z' => simp [Except.map, DateTime.ensureAware, hz]

/-- a bare day and a final `Z` are the midnight at which the day begins, in the zone with which they are read -/
theorem parse_bareDay (ht : EndsInZulu t) (hbare : IsBareDay t) (hd : parse t = .ok d) :
    ∃ day, ∀ zone, parse t zone = .ok ⟨.of day .midnight, zone, false⟩ := by
  obtain ⟨day, rfl⟩ := exists_midnight ht hbare hd
  refine ⟨day, fun zone => ?_⟩
  rw [parse_eq, hd]
  cases zone <;> rfl

theorem parse_independent_iff (ht : EndsInZulu t) (hd : parse t = .ok d) :
    (∀ zone, parse t zone = .ok d) ↔ ¬ IsBareDay t := by
  constructor
  · intro hall hbare
    obtain ⟨day, hday⟩ := parse_bareDay ht hbare hd
    have hutc := (hall (some .utc)).symm.trans (hday (some .utc))
    have hnone := (hall none).symm.trans (hday none)
    cases hutc
    cases hnone
  · intro hbare
    exact parse_of_offset hd (mt (offset?_of_parse ht hd).1.1 hbare)

end Lending.Timestamp
