/-
Durations that are kept as numbers.

A duration that is a text of digits, perhaps after minus signs, is taken for a number. Not every such text is one: there may
be more signs than one, a digit that has no decimal value, or more digits than a numeral may have. Such a text is
`Misspelt`, and it is the only duration that cannot be kept (`asDuration_isOk_iff`).
-/
import Mathlib.Data.List.TakeWhile
import Mathlib.Tactic
import Lending.Period
import Lending.Proofs.Outcome

namespace Lending

namespace Text

/-! ## Characters -/

/-- the white space characters by their numbers -/
def whiteSpaceCodes : List Nat :=
  [0x09, 0x0a, 0x0b, 0x0c, 0x0d, 0x20, 0x85, 0xa0, 0x1680, 0x2000, 0x2001, 0x2002, 0x2003, 0x2004, 0x2005, 0x2006, 0x2007,
    0x2008, 0x2009, 0x200a, 0x2028, 0x2029, 0x202f, 0x205f, 0x3000]

theorem mem_whiteSpaceCodes {c : Char} (h : isWhiteSpace c = true) : c.toNat ∈ whiteSpaceCodes := by
  simp only [isWhiteSpace, Bool.or_eq_true, Bool.and_eq_true, decide_eq_true_eq, beq_iff_eq] at h
  simp only [whiteSpaceCodes, List.mem_cons, List.not_mem_nil, or_false]
  omega

/-- no digit is white space -/
theorem isWhiteSpace_of_isDigit {c : Char} (h : isDigit c = true) : isWhiteSpace c = false := by
  by_contra hspace
  have hnone : ∀ n ∈ whiteSpaceCodes, isDigit (Char.ofNat n) = false := by decide +kernel
  rw [← Char.ofNat_toNat c, hnone _ (mem_whiteSpaceCodes (by simpa using hspace))] at h
  cases h

theorem toNat_le {c d : Char} (h : c ≤ d) : c.toNat ≤ d.toNat := UInt32.le_iff_toNat_le.1 (Char.le_def.1 h)

theorem decimal?_lt {c : Char} {n : Nat} (h : decimal? c = some n) : n < 10 := by
  unfold decimal? at h
  split_ifs at h with hascii hdigit
  · cases h
    have hle : c.toNat ≤ 57 := toNat_le hdigit.2
    omega
  · obtain ⟨z, hz, rfl⟩ := Option.map_eq_some_iff.1 h
    have hrange := List.find?_some hz
    simp only [Bool.and_eq_true, decide_eq_true_eq] at hrange
    omega

/-- a character between two letters has no decimal value -/
theorem decimal?_letter {c low high : Char} (hc : low ≤ c ∧ c ≤ high) (hlow : 57 < low.toNat) (hhigh : high.toNat < 0x80) :
    decimal? c = none := by
  have hlo := toNat_le hc.1
  have hhi := toNat_le hc.2
  have hnot : ¬ ('0' ≤ c ∧ c ≤ '9') := fun h => by
    have hle : c.toNat ≤ 57 := toNat_le h.2
    omega
  rw [decimal?, if_pos (by omega), if_neg hnot]

/-- in base ten a digit has its decimal value -/
theorem valueIn?_ten (c : Char) : valueIn? 10 c = decimal? c := by
  unfold valueIn?
  dsimp only
  split_ifs with hlower hupper
  · have hlo : 97 ≤ c.toNat := toNat_le hlower.1
    rw [decimal?_letter hlower (by decide) (by decide), Option.filter_some, if_neg (by simp; omega)]
  · have hlo : 65 ≤ c.toNat := toNat_le hupper.1
    rw [decimal?_letter hupper (by decide) (by decide), Option.filter_some, if_neg (by simp; omega)]
  · cases hc : decimal? c with
    | none => rfl
    | some n => rw [Option.filter_some, if_pos (by simpa using decimal?_lt hc)]

/-! ## Numerals -/

theorem trimBy_eq_self {α : Type} {p : α → Bool} {xs : List α} (hhead : ∀ x, xs.head? = some x → p x = false)
    (hlast : ∀ x, xs.getLast? = some x → p x = false) : trimBy p xs = xs := by
  have hdrop : ∀ {ys : List α}, (∀ y, ys.head? = some y → p y = false) → ys.dropWhile p = ys := by
    intro ys hys
    cases ys with
    | nil => rfl
    | cons y ys => rw [List.dropWhile_cons_of_neg (by simp [hys y rfl])]
  rw [trimBy, hdrop hhead, hdrop (by simpa using hlast), List.reverse_reverse]

theorem dropMark_ten (ps : List Point) : dropMark 10 ps = ps := by
  unfold dropMark
  split
  · simp [baseMarks]
  · rfl

/-- the minus signs and digits that a text is taken for a number by -/
structure Signed (ps : List Point) (signs : Nat) (digits : List Char) : Prop where
  points_eq : ps = List.replicate signs (.char '-') ++ digits.map .char
  ne_nil : digits ≠ []
  isDigit : ∀ c ∈ digits, isDigit c = true

variable {t : Text} {ps : List Point} {signs : Nat} {digits : List Char}

theorem ne_of_isDigit {c d : Char} (hc : isDigit c = true) (hd : isDigit d = false) : c ≠ d := by
  rintro rfl
  rw [hc] at hd
  cases hd

theorem exists_chars {p : Char → Bool} (h : ps.all (Point.isA p) = true) :
    ∃ cs : List Char, ps = cs.map .char ∧ ∀ c ∈ cs, p c = true := by
  induction ps with
  | nil => exact ⟨[], rfl, List.forall_mem_nil _⟩
  | cons q ps ih =>
    rw [List.all_cons, Bool.and_eq_true] at h
    obtain ⟨cs, rfl, hcs⟩ := ih h.2
    cases q with
    | char c => exact ⟨c :: cs, rfl, List.forall_mem_cons.2 ⟨h.1, hcs⟩⟩
    | surrogate n => cases h.1

/-- a text is taken for a number if there is at least one digit behind its minus signs, and nothing else -/
theorem signed_iff :
    (!(ps.dropWhile (· = .char '-')).isEmpty && (ps.dropWhile (· = .char '-')).all (Point.isA isDigit)) = true ↔
      ∃ signs digits, Signed ps signs digits := by
  rw [Bool.and_eq_true]
  constructor
  · rintro ⟨hne, hall⟩
    obtain ⟨digits, hdigits, hisDigit⟩ := exists_chars hall
    refine ⟨(ps.takeWhile (· = .char '-')).length, digits, ?_, ?_, hisDigit⟩
    · have hsigns : ps.takeWhile (· = .char '-') = List.replicate (ps.takeWhile (· = .char '-')).length (.char '-') :=
        List.eq_replicate_iff.2 ⟨rfl, fun p hp => by simpa using List.all_eq_true.1 List.all_takeWhile p hp⟩
      rw [← hsigns, ← hdigits, List.takeWhile_append_dropWhile]
    · rintro rfl
      rw [hdigits] at hne
      cases hne
  · rintro ⟨signs, digits, h⟩
    have hdrop : ps.dropWhile (· = .char '-') = digits.map .char := by
      rw [h.points_eq, List.dropWhile_append_of_pos (by simp)]
      obtain ⟨d, ds, rfl⟩ := List.exists_cons_of_ne_nil h.ne_nil
      have hd : d ≠ '-' := ne_of_isDigit (h.isDigit d List.mem_cons_self) (by decide)
      rw [List.map_cons, List.dropWhile_cons_of_neg (by simpa using hd)]
    rw [hdrop]
    refine ⟨by simpa using h.ne_nil, ?_⟩
    simpa [Point.isA] using h.isDigit

/-- the number that the values of digits give behind a sign; where a value is missing there is none -/
def ofValues (t : Text) (negative : Bool) (values : List (Option Nat)) : Except Fault Int :=
  if numeralLimit < (values.takeWhile Option.isSome).length then
    .error (.numeralTooLong (values.takeWhile Option.isSome).length)
  else match values.mapM id with
    | some (d :: ds) => .ok (if negative then -(ofDigits 10 (d :: ds) : Int) else ofDigits 10 (d :: ds))
    | _ => .error (.numeralMalformed t 10)

theorem mapM_id_eq_some_iff {values : List (Option Nat)} {ds : List Nat} :
    values.mapM id = some ds ↔ values = ds.map some := by
  induction values generalizing ds with
  | nil => cases ds <;> simp
  | cons v values ih =>
    simp only [List.mapM_cons, id, Option.bind_eq_bind, Option.bind_eq_some_iff, ih, Option.pure_def, Option.some.injEq]
    cases ds with
    | nil => simp
    | cons d ds =>
      constructor
      · rintro ⟨d', rfl, ds', rfl, h⟩
        cases h
        rfl
      · intro h
        cases h
        exact ⟨d, rfl, ds, rfl, rfl⟩

/-- the values of digits give a number if there are some, but not too many, and none is missing -/
theorem ofValues_eq_ok {negative : Bool} {values : List (Option Nat)} {n : Int} :
    ofValues t negative values = .ok n ↔
      ∃ ds, ds ≠ [] ∧ values = ds.map some ∧ ds.length ≤ numeralLimit ∧
        n = if negative then -(ofDigits 10 ds : Int) else ofDigits 10 ds := by
  have hlength : ∀ ds : List Nat, ((ds.map some).takeWhile Option.isSome).length = ds.length := by
    intro ds
    rw [List.takeWhile_eq_self_iff.2 (by simp), List.length_map]
  unfold ofValues
  constructor
  · intro h
    rcases Nat.lt_or_ge numeralLimit (values.takeWhile Option.isSome).length with hlong | hlong
    · rw [if_pos hlong] at h
      cases h
    rw [if_neg (Nat.not_lt.2 hlong)] at h
    split at h
    · next d ds hds =>
      cases h
      rw [mapM_id_eq_some_iff] at hds
      rw [hds, hlength] at hlong
      exact ⟨d :: ds, List.cons_ne_nil _ _, hds, hlong, rfl⟩
    · cases h
  · rintro ⟨ds, hne, rfl, hle, rfl⟩
    rw [hlength, if_neg (Nat.not_lt.2 hle), mapM_id_eq_some_iff.2 rfl]
    obtain ⟨d, ds, rfl⟩ := List.exists_cons_of_ne_nil hne
    rfl

/-- the sign of a numeral, and what stands behind it -/
def splitSign : List Point → Bool × List Point
  | .char '-' :: rest => (true, rest)
  | .char '+' :: rest => (false, rest)
  | rest => (false, rest)

theorem splitSign_of_ne {c : Char} {rest : List Point} (hminus : c ≠ '-') (hplus : c ≠ '+') :
    splitSign (.char c :: rest) = (false, .char c :: rest) := by
  unfold splitSign
  split
  · next heq =>
    injection heq with hc
    exact absurd (Point.char.inj hc) hminus
  · next heq =>
    injection heq with hc
    exact absurd (Point.char.inj hc) hplus
  · rfl

/-- a numeral in base ten has a sign, if there is one, and the values of its digits -/
theorem numeral_ten (t : Text) :
    numeral 10 t = ofValues t (splitSign (trimBy (Point.isA isWhiteSpace) t.points)).1
      ((splitSign (trimBy (Point.isA isWhiteSpace) t.points)).2.map fun p => p.char?.bind decimal?) := by
  have hten : valueIn? 10 = decimal? := funext valueIn?_ten
  have hsplit : numeral 10 t = ofValues t (splitSign (trimBy (Point.isA isWhiteSpace) t.points)).1
      ((dropMark 10 (splitSign (trimBy (Point.isA isWhiteSpace) t.points)).2).map fun p =>
        p.char?.bind (valueIn? 10)) := by
    simp only [numeral, decide_true, Bool.true_and, decide_eq_true_eq]
    rfl
  rw [hsplit, dropMark_ten, hten]

namespace Signed

/-- nothing of such a text is trimmed -/
theorem trimBy_eq (h : Signed ps signs digits) : trimBy (Point.isA isWhiteSpace) ps = ps := by
  have hall : ∀ p ∈ ps, Point.isA isWhiteSpace p = false := by
    intro p hp
    rw [h.points_eq] at hp
    rcases List.mem_append.1 hp with hp | hp
    · rw [(List.mem_replicate.1 hp).2]
      rfl
    · obtain ⟨c, hc, rfl⟩ := List.mem_map.1 hp
      exact isWhiteSpace_of_isDigit (h.isDigit c hc)
  exact trimBy_eq_self (fun p hp => hall p (List.mem_of_head? hp)) fun p hp => hall p (List.mem_of_getLast? hp)

/-- the number that such a text denotes -/
theorem numeral_eq_ok (h : Signed t.points signs digits) {n : Int} :
    numeral 10 t = .ok n ↔
      ∃ ds, digits.map decimal? = ds.map some ∧ ds.length ≤ numeralLimit ∧
        (signs = 0 ∧ n = ofDigits 10 ds ∨ signs = 1 ∧ n = -(ofDigits 10 ds : Int)) := by
  have hvalues : (digits.map .char : List Point).map (fun p => p.char?.bind decimal?) = digits.map decimal? := by
    rw [List.map_map]
    rfl
  have hne : ∀ ds : List Nat, digits.map decimal? = ds.map some → ds ≠ [] := by
    rintro ds hds rfl
    exact h.ne_nil (List.map_eq_nil_iff.1 hds)
  rw [numeral_ten, h.trimBy_eq, h.points_eq]
  rcases signs with _ | _ | k
  · obtain ⟨d, tail, hdigits⟩ := List.exists_cons_of_ne_nil h.ne_nil
    have hd : Text.isDigit d = true := h.isDigit d (hdigits ▸ List.mem_cons_self)
    have hsplit : splitSign (digits.map .char) = (false, digits.map .char) := by
      rw [hdigits, List.map_cons, splitSign_of_ne (ne_of_isDigit hd (by decide)) (ne_of_isDigit hd (by decide))]
    rw [List.replicate_zero, List.nil_append, hsplit, hvalues, ofValues_eq_ok]
    constructor
    · rintro ⟨ds, -, hds, hle, hn⟩
      exact ⟨ds, hds, hle, .inl ⟨rfl, hn⟩⟩
    · rintro ⟨ds, hds, hle, ⟨-, hn⟩ | ⟨hsigns, -⟩⟩
      · exact ⟨ds, hne ds hds, hds, hle, hn⟩
      · cases hsigns
  · have hsplit : splitSign (List.replicate 1 (.char '-') ++ digits.map .char) = (true, digits.map .char) := rfl
    rw [hsplit, hvalues, ofValues_eq_ok]
    constructor
    · rintro ⟨ds, -, hds, hle, hn⟩
      exact ⟨ds, hds, hle, .inr ⟨rfl, hn⟩⟩
    · rintro ⟨ds, hds, hle, ⟨hsigns, -⟩ | ⟨-, hn⟩⟩
      · cases hsigns
      · exact ⟨ds, hne ds hds, hds, hle, hn⟩
  · have hsplit : splitSign (List.replicate (k + 2) (.char '-') ++ digits.map .char) =
        (true, .char '-' :: (List.replicate k (.char '-') ++ digits.map .char)) := rfl
    rw [hsplit, List.map_cons, ofValues_eq_ok]
    -- a second sign is no digit
    constructor
    · rintro ⟨ds, hds, hvalue, -⟩
      obtain ⟨d, ds, rfl⟩ := List.exists_cons_of_ne_nil hds
      cases (List.cons.inj hvalue).1
    · rintro ⟨ds, -, -, ⟨hsigns, -⟩ | ⟨hsigns, -⟩⟩ <;> omega

/-- which of these texts denote a number -/
theorem numeral_isOk_iff (h : Signed t.points signs digits) :
    (∃ n, numeral 10 t = .ok n) ↔
      signs ≤ 1 ∧ (∀ c ∈ digits, (decimal? c).isSome = true) ∧ digits.length ≤ numeralLimit := by
  simp only [h.numeral_eq_ok]
  constructor
  · rintro ⟨n, ds, hds, hle, hsigns⟩
    have hlength : digits.length = ds.length := by simpa using congrArg List.length hds
    refine ⟨by omega, fun c hc => ?_, by omega⟩
    have hmem : decimal? c ∈ ds.map some := hds ▸ List.mem_map_of_mem hc
    obtain ⟨d, -, hd⟩ := List.mem_map.1 hmem
    exact hd ▸ rfl
  · rintro ⟨hsigns, hdecimal, hle⟩
    have hds : digits.map decimal? = (digits.map fun c => (decimal? c).getD 0).map some := by
      rw [List.map_map]
      refine List.map_congr_left fun c hc => ?_
      obtain ⟨d, hd⟩ := Option.isSome_iff_exists.1 (hdecimal c hc)
      simp [hd]
    rcases Nat.le_one_iff_eq_zero_or_eq_one.1 hsigns with hnone | hone
    · exact ⟨_, _, hds, by simpa using hle, .inl ⟨hnone, rfl⟩⟩
    · exact ⟨_, _, hds, by simpa using hle, .inr ⟨hone, rfl⟩⟩

end Signed

/-- whether a text is taken for a number and is none: more than one minus sign stands before its digits, one of these has
no decimal value, or there are too many of them -/
def Misspelt (t : Text) : Prop :=
  ∃ signs digits, Signed t.trim.points signs digits ∧
    (1 < signs ∨ (∃ c ∈ digits, decimal? c = none) ∨ numeralLimit < digits.length)

end Text

/-! ## Durations -/

/-- a duration is kept as it is, or is a text that is kept as a number -/
theorem asDuration_eq_ok {raw kept : Value} (h : asDuration raw = .ok kept) :
    kept = raw ∨ ∃ t n, raw = .text t ∧ kept = .int n := by
  unfold asDuration at h
  split at h
  · next t =>
    dsimp only at h
    split_ifs at h
    · obtain ⟨n, -, hn⟩ := bind_eq_ok.1 h
      cases hn
      exact .inr ⟨t, n, rfl, rfl⟩
    · cases h
      exact .inl rfl
  · cases h
    exact .inl rfl

theorem asDuration_of_signed {t : Text} {signs : Nat} {digits : List Char}
    (h : Text.Signed t.trim.points signs digits) :
    asDuration (.text t) = (do return .int (← Text.numeral 10 t.trim)) :=
  if_pos (Text.signed_iff.2 ⟨signs, digits, h⟩)

theorem asDuration_of_not_signed {t : Text} (h : ¬ ∃ signs digits, Text.Signed t.trim.points signs digits) :
    asDuration (.text t) = .ok (.text t) :=
  if_neg (mt Text.signed_iff.1 h)

/-- **Durations that cannot be kept.** These are the misspelt texts. -/
theorem asDuration_text_isOk_iff {t : Text} : (∃ kept, asDuration (.text t) = .ok kept) ↔ ¬ t.Misspelt := by
  by_cases hsigned : ∃ signs digits, Text.Signed t.trim.points signs digits
  · obtain ⟨signs, digits, h⟩ := hsigned
    have hnumeral : (∃ kept, asDuration (.text t) = .ok kept) ↔ ∃ n, Text.numeral 10 t.trim = .ok n := by
      rw [asDuration_of_signed h]
      simp only [bind_eq_ok, pure_eq_ok]
      exact ⟨fun ⟨_, n, hn, _⟩ => ⟨n, hn⟩, fun ⟨n, hn⟩ => ⟨_, n, hn, rfl⟩⟩
    rw [hnumeral]
    constructor
    · rintro hn ⟨signs, digits, h, hbad⟩
      obtain ⟨hsigns, hdecimal, hlength⟩ := h.numeral_isOk_iff.1 hn
      rcases hbad with hbad | ⟨c, hc, hbad⟩ | hbad
      · omega
      · have hsome := hdecimal c hc
        rw [hbad] at hsome
        cases hsome
      · omega
    · intro hnot
      refine h.numeral_isOk_iff.2 ⟨?_, fun c hc => ?_, ?_⟩
      · by_contra hsigns
        exact hnot ⟨signs, digits, h, .inl (by omega)⟩
      · by_contra hnone
        exact hnot ⟨signs, digits, h, .inr (.inl ⟨c, hc, by simpa using hnone⟩)⟩
      · by_contra hlong
        exact hnot ⟨signs, digits, h, .inr (.inr (by omega))⟩
  · refine iff_of_true ⟨_, asDuration_of_not_signed hsigned⟩ ?_
    rintro ⟨signs, digits, h, -⟩
    exact hsigned ⟨signs, digits, h⟩

theorem asDuration_isOk_iff {raw : Value} :
    (∃ kept, asDuration raw = .ok kept) ↔ ∀ t, raw = .text t → ¬ t.Misspelt := by
  by_cases htext : ∃ t, raw = .text t
  · obtain ⟨t, rfl⟩ := htext
    rw [asDuration_text_isOk_iff]
    exact ⟨fun h _ ht => Value.text.inj ht ▸ h, fun h => h t rfl⟩
  · have hno : ∀ t, raw ≠ .text t := not_exists.1 htext
    refine iff_of_true ⟨raw, ?_⟩ fun t ht => absurd ht (hno t)
    unfold asDuration
    split
    · next t => exact absurd rfl (hno t)
    · rfl

end Lending
