/-
Durations that are given as texts.

A text denotes a number if it is decimal digits, perhaps behind one minus sign, once the blanks around it are dropped
(`Text.Denotes`). A duration of such a text is kept as the number and any other as it is, unless the text is misspelt
(`asDuration_of_denotes`, `asDuration_of_not_denotes`). What is kept can always be written out, and so a duration that is
not a positive whole number is told of when its period is added (`addTo_eq_badDuration`). `ofValues_text` puts these
together; `ofValues_misspelt` are two texts that stop a document from being read.
-/
import Lending.Proofs.Period
import Lending.Proofs.Period.Duration

namespace Lending

namespace Text

variable {t : Text} {n : Int}

/-- the number that a text denotes: trimmed, it is one or more decimal digits, perhaps behind a minus sign -/
inductive Denotes (t : Text) : Int → Prop
  | plain {digits : List Char} {values : List Nat} :
    t.trim.points = digits.map .char → digits ≠ [] → digits.map decimal? = values.map some →
    Denotes t (Nat.ofDigits 10 values.reverse : Nat)
  | negative {digits : List Char} {values : List Nat} :
    t.trim.points = .char '-' :: digits.map .char → digits ≠ [] → digits.map decimal? = values.map some →
    Denotes t (-(Nat.ofDigits 10 values.reverse : Nat))

/-- digits are read from the most significant one on -/
theorem ofDigits_eq (base : Nat) (values : List Nat) : ofDigits base values = Nat.ofDigits base values.reverse := by
  rw [Nat.ofDigits_eq_foldr, List.foldr_reverse, ofDigits]
  congr 1
  funext n d
  simp [Nat.mul_comm, Nat.add_comm]

theorem isSome_of_values {digits : List Char} {values : List Nat} (h : digits.map decimal? = values.map some) :
    ∀ c ∈ digits, (decimal? c).isSome = true := by
  intro c hc
  have hmem : decimal? c ∈ values.map some := h ▸ List.mem_map_of_mem hc
  obtain ⟨d, -, hd⟩ := List.mem_map.1 hmem
  exact hd ▸ rfl

theorem isDigit_of_values {digits : List Char} {values : List Nat} (h : digits.map decimal? = values.map some) :
    ∀ c ∈ digits, isDigit c = true := by
  intro c hc
  rw [isDigit, isSome_of_values h c hc, Bool.true_or]

/-- a text that denotes a number has a decimal digit everywhere, but for a minus sign at the start -/
theorem Denotes.isDecimal (h : t.Denotes n) {i : Nat} {p : Point} (hp : t.trim.points[i]? = some p) :
    (p.char?.bind decimal?).isSome = true ∨ i = 0 ∧ p = .char '-' := by
  obtain ⟨hpoints, -, hvalues⟩ | ⟨hpoints, -, hvalues⟩ := h
  · rw [hpoints] at hp
    obtain ⟨c, hc, rfl⟩ := List.mem_map.1 (List.mem_of_getElem? hp)
    exact .inl (isSome_of_values hvalues c hc)
  · rw [hpoints] at hp
    cases i with
    | zero => exact .inr ⟨rfl, (Option.some.inj hp).symm⟩
    | succ i =>
      obtain ⟨c, hc, rfl⟩ := List.mem_map.1 (List.mem_of_getElem? (List.getElem?_cons_succ.symm.trans hp))
      exact .inl (isSome_of_values hvalues c hc)

/-- a text that denotes a number is taken for one, with at most one minus sign and digits that all have a value -/
theorem denotes_iff_signed :
    t.Denotes n ↔ ∃ signs digits values, Signed t.trim.points signs digits ∧ digits.map decimal? = values.map some ∧
      (signs = 0 ∧ n = ofDigits 10 values ∨ signs = 1 ∧ n = -(ofDigits 10 values : Int)) := by
  constructor
  · rintro (⟨hpoints, hne, hvalues⟩ | ⟨hpoints, hne, hvalues⟩)
    · exact ⟨0, _, _, ⟨hpoints, hne, isDigit_of_values hvalues⟩, hvalues, .inl ⟨rfl, by rw [ofDigits_eq]⟩⟩
    · exact ⟨1, _, _, ⟨hpoints, hne, isDigit_of_values hvalues⟩, hvalues, .inr ⟨rfl, by rw [ofDigits_eq]⟩⟩
  · rintro ⟨signs, digits, values, h, hvalues, ⟨rfl, rfl⟩ | ⟨rfl, rfl⟩⟩
    · rw [ofDigits_eq]
      exact .plain h.points_eq h.ne_nil hvalues
    · rw [ofDigits_eq]
      exact .negative h.points_eq h.ne_nil hvalues

theorem ofDigits_lt {values : List Nat} {limit : Nat} (hdigit : ∀ d ∈ values, d < 10) (hle : values.length ≤ limit) :
    ofDigits 10 values < Nat.pow 10 limit := calc ofDigits 10 values
  _ = Nat.ofDigits 10 values.reverse := ofDigits_eq 10 values
  _ < 10 ^ values.reverse.length := Nat.ofDigits_lt_base_pow_length (by decide) (by simpa using hdigit)
  _ ≤ 10 ^ limit := Nat.pow_le_pow_right (by decide) (by simpa using hle)

/-- a number of as many digits as a numeral may have is not too long to be written out -/
theorem isLong_eq_false {values : List Nat} (hdigit : ∀ d ∈ values, d < 10) (hle : values.length ≤ numeralLimit)
    (hn : n.natAbs = ofDigits 10 values) : isLong n = false := by
  have hlt : ofDigits 10 values < leastLong := by
    unfold leastLong
    exact ofDigits_lt hdigit hle
  rw [isLong, hn]
  exact decide_eq_false (Nat.not_le.2 hlt)

theorem kind_of_numeral_error {f : Fault} (h : numeral 10 t = .error f) : f.kind = .value := by
  rw [numeral_ten, ofValues] at h
  split at h
  · cases h
    rfl
  · split at h
    · cases h
    · cases h
      rfl

end Text

theorem Value.shown_int {n : Int} (h : Text.isLong n = false) : (Value.int n).shown = .ok (Text.ofString (toString n)) := by
  simp [shown, literal, holdsLongNumber, writtenIn, h, Except.map]

/-! ## What is kept of a text -/

section

variable {t : Text} {kept : Value} {n : Int}

/-- a text that denotes a number is kept as that number, which is not too long to be written out -/
theorem asDuration_of_denotes (h : t.Denotes n) (hkept : asDuration (.text t) = .ok kept) :
    kept = .int n ∧ Text.isLong n = false := by
  obtain ⟨signs, digits, values, hsigned, hvalues, hn⟩ := Text.denotes_iff_signed.1 h
  rw [asDuration_of_signed hsigned] at hkept
  obtain ⟨m, hm, hint⟩ := bind_eq_ok.1 hkept
  obtain ⟨values', hvalues', hle, hm⟩ := hsigned.numeral_eq_ok.1 hm
  cases List.map_injective_iff.2 (Option.some_injective Nat) (hvalues.symm.trans hvalues')
  have heq : m = n := by omega
  refine ⟨by rw [← heq]; exact (Except.ok.inj hint).symm, Text.isLong_eq_false ?_ hle (by omega)⟩
  intro d hd
  have hmem : some d ∈ digits.map Text.decimal? := hvalues ▸ List.mem_map_of_mem hd
  obtain ⟨c, -, hc⟩ := List.mem_map.1 hmem
  exact Text.decimal?_lt hc

/-- a text that denotes no number is kept as it is -/
theorem asDuration_of_not_denotes (h : ¬ ∃ n, t.Denotes n) (hkept : asDuration (.text t) = .ok kept) :
    kept = .text t := by
  by_cases hsigned : ∃ signs digits, Text.Signed t.trim.points signs digits
  · obtain ⟨signs, digits, hsigned⟩ := hsigned
    rw [asDuration_of_signed hsigned] at hkept
    obtain ⟨m, hm, -⟩ := bind_eq_ok.1 hkept
    obtain ⟨values, hvalues, -, hm⟩ := hsigned.numeral_eq_ok.1 hm
    exact absurd ⟨m, Text.denotes_iff_signed.2 ⟨signs, digits, values, hsigned, hvalues, hm⟩⟩ h
  · rw [asDuration_of_not_signed hsigned] at hkept
    exact (Except.ok.inj hkept).symm

theorem ne_null_of_kept (hkept : asDuration (.text t) = .ok kept) : kept ≠ .null := by
  rcases asDuration_eq_ok hkept with rfl | ⟨-, n, -, rfl⟩ <;> exact nofun

/-- a text that is not kept has a value that is no number -/
theorem kind_of_not_kept {f : Fault} (h : asDuration (.text t) = .error f) : f.kind = .value := by
  by_cases hsigned : ∃ signs digits, Text.Signed t.trim.points signs digits
  · obtain ⟨signs, digits, hsigned⟩ := hsigned
    rw [asDuration_of_signed hsigned] at h
    rcases bind_eq_error.1 h with hnumeral | ⟨m, -, hpure⟩
    · exact Text.kind_of_numeral_error hnumeral
    · cases hpure
  · rw [asDuration_of_not_signed hsigned] at h
    cases h

/-- what is kept of a text can be written out -/
theorem shown_of_kept (hkept : asDuration (.text t) = .ok kept) : ∃ shown, kept.shown = .ok shown := by
  by_cases hdenotes : ∃ n, t.Denotes n
  · obtain ⟨n, hn⟩ := hdenotes
    obtain ⟨rfl, hshort⟩ := asDuration_of_denotes hn hkept
    exact ⟨_, Value.shown_int hshort⟩
  · rw [asDuration_of_not_denotes hdenotes hkept]
    exact ⟨t, rfl⟩

end

/-! ## Periods -/

namespace Period

variable {p : Period} {base : Option DateTime} {errorFor : Text → Violation} {field : Option Text} {shown : Text}

/-- a bad duration is told of as the policy's, by what is written for it and by where it stands -/
theorem addTo_eq_badDuration (hunit : p.unit?.isSome = true) (hnull : p.duration ≠ .null) (hnone : p.duration? = none)
    (hshown : p.duration.shown = .ok shown) :
    p.addTo base errorFor field = .ok (.violation (errorFor
      ("the duration \"" ++ shown ++ "\" in " ++ PeriodProblem.message.place field ++ " is invalid")).asConfiguration) := by
  rw [addTo, check_eq_iff.2 (.duration hnull hunit hnone)]
  dsimp only
  rw [PeriodProblem.message, hshown]
  rfl

/-- **Durations that are texts.** A text is kept, with any interval, unless it is misspelt; then the fault is one of its
value. One that denotes a number is kept as that number, and any other as it is. If the unit is recognized and what is kept
is not a positive whole number, then adding the period fails with one violation, which is put down to the policy and names
the duration. -/
theorem ofValues_text (t : Text) (id : Option Text) :
    ((∃ p, ofValues (.text t) id = .ok p) ↔ ¬ t.Misspelt) ∧
      (∀ f, ofValues (.text t) id = .error f → f.kind = .value) ∧
      ∀ p, ofValues (.text t) id = .ok p →
        p.interval = id ∧ (∀ n, t.Denotes n → p.duration = .int n) ∧ ((¬ ∃ n, t.Denotes n) → p.duration = .text t) ∧
        (p.unit?.isSome = true → p.duration? = none → ∃ shown, p.duration.shown = .ok shown ∧
          ∀ base errorFor field, p.addTo base errorFor field = .ok (.violation (errorFor
            ("the duration \"" ++ shown ++ "\" in " ++ PeriodProblem.message.place field ++ " is invalid")
            ).asConfiguration)) := by
  refine ⟨?_, ?_, ?_⟩
  · rw [← asDuration_text_isOk_iff]
    simp only [ofValues, bind_eq_ok, pure_eq_ok]
    exact ⟨fun ⟨_, kept, hkept, _⟩ => ⟨kept, hkept⟩, fun ⟨kept, hkept⟩ => ⟨_, kept, hkept, rfl⟩⟩
  · intro f hf
    rcases bind_eq_error.1 hf with hkept | ⟨kept, -, hpure⟩
    · exact kind_of_not_kept hkept
    · cases hpure
  · intro p hp
    simp only [ofValues, bind_eq_ok, pure_eq_ok] at hp
    obtain ⟨kept, hkept, rfl⟩ := hp
    refine ⟨rfl, fun n hn => (asDuration_of_denotes hn hkept).1, fun hnot => asDuration_of_not_denotes hnot hkept, ?_⟩
    intro hunit hnone
    obtain ⟨shown, hshown⟩ := shown_of_kept hkept
    exact ⟨shown, hshown, fun base errorFor field => addTo_eq_badDuration hunit (ne_null_of_kept hkept) hnone hshown⟩

/-- **A misspelt duration is not kept.** Two minus signs before a digit, and a superscript, are taken for numbers; they
denote none, and stop the period from being read. -/
theorem ofValues_misspelt :
    (¬ ∃ n, Text.Denotes "--5" n) ∧ ofValues (.text "--5") (some "Days") = .error (.numeralMalformed "--5" 10) ∧
      (¬ ∃ n, Text.Denotes "²" n) ∧ ofValues (.text "²") (some "Days") = .error (.numeralMalformed "²" 10) := by
  refine ⟨?_, by decide +kernel, ?_, by decide +kernel⟩
  · rintro ⟨n, h⟩
    have hsecond : (Text.ofString "--5").trim.points[1]? = some (.char '-') := by decide
    rcases h.isDecimal hsecond with hdecimal | ⟨hfirst, -⟩
    · cases hdecimal
    · cases hfirst
  · rintro ⟨n, h⟩
    have hfirst : (Text.ofString "²").trim.points[0]? = some (.char '²') := by decide
    exact absurd (h.isDecimal hfirst) (by decide +kernel)

/-- a minus sign and a digit, with blanks around them -/
example : ofValues (.text " -5 ") (some "Days") = .ok ⟨.int (-5), some "Days"⟩ := by decide +kernel

end Period

end Lending
