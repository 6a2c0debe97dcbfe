/-
Adding a period to a date.

`Checked` lists what a check of a period can come to, and when (`check_eq_iff`). A period is good if its unit is recognized
and its duration is a positive whole number (`check_eq_ok_iff`, `isUsable_iff`). A good period gives a date, unless a fault
stops the arithmetic (`addTo_eq_ok`); a bad one gives a single violation that is put down to the policy (`addTo_eq_failed`).
-/
import Lending.Period
import Lending.Proofs.Time.Order

namespace Lending

theorem Interval.ofId?_name (i : Interval) : Interval.ofId? (some i.name) = some i := by
  cases i <;> decide

namespace Period

/-- what a check of a period comes to: its unit and its duration, or the first thing that is wrong with it -/
inductive Checked (p : Period) : Except PeriodProblem (Interval × Nat) → Prop
  | incomplete : p.duration = .null ∨ p.interval = none → Checked p (.error .incomplete)
  | interval {id : Text} : p.duration ≠ .null → p.interval = some id → p.unit? = none → Checked p (.error (.interval id))
  | duration : p.duration ≠ .null → p.unit?.isSome = true → p.duration? = none → Checked p (.error (.duration p.duration))
  | good {i : Interval} {n : Nat} : p.unit? = some i → p.duration? = some n → Checked p (.ok (i, n))

theorem interval_ne_none {p : Period} (h : p.unit?.isSome = true) : p.interval ≠ none := by
  intro hinterval
  rw [unit?, hinterval] at h
  cases h

theorem duration_ne_null {p : Period} (h : p.duration?.isSome = true) : p.duration ≠ .null := by
  intro hnull
  rw [duration?, hnull] at h
  cases h

theorem check_eq_iff {p : Period} {r : Except PeriodProblem (Interval × Nat)} : p.check = r ↔ p.Checked r := by
  constructor
  · rintro rfl
    unfold check
    split
    · next hinterval => exact .incomplete (.inr hinterval)
    · next id hinterval =>
      split_ifs with hnull
      · exact .incomplete (.inl hnull)
      · split
        · next hunit => exact .interval hnull hinterval hunit
        · next i hunit hduration => exact .duration hnull (Option.isSome_of_eq_some hunit) hduration
        · next i n hunit hduration => exact .good hunit hduration
  · intro h
    cases h with
    | incomplete h =>
      unfold check
      rcases h with hnull | hinterval
      · split
        · rfl
        · rw [if_pos hnull]
      · rw [hinterval]
    | interval hnull hinterval hunit => simp [check, hnull, hinterval, hunit]
    | duration hnull hunit hduration =>
      obtain ⟨id, hinterval⟩ := Option.ne_none_iff_exists'.1 (interval_ne_none hunit)
      obtain ⟨i, hi⟩ := Option.isSome_iff_exists.1 hunit
      simp [check, hnull, hinterval, hi, hduration]
    | good hunit hduration =>
      have hnull := duration_ne_null (Option.isSome_of_eq_some hduration)
      obtain ⟨id, hinterval⟩ := Option.ne_none_iff_exists'.1 (interval_ne_none (Option.isSome_of_eq_some hunit))
      simp [check, hnull, hinterval, hunit, hduration]

/-- a good period has a unit that is recognized and a duration that is a positive whole number -/
theorem check_eq_ok_iff {p : Period} {i : Interval} {n : Nat} :
    p.check = .ok (i, n) ↔ p.unit? = some i ∧ p.duration? = some n := by
  rw [check_eq_iff]
  constructor
  · rintro (_ | _ | _ | ⟨hunit, hduration⟩)
    exact ⟨hunit, hduration⟩
  · rintro ⟨hunit, hduration⟩
    exact .good hunit hduration

theorem duration?_pos {p : Period} {n : Nat} (h : p.duration? = some n) : 0 < n := by
  unfold duration? at h
  split at h
  · split_ifs at h
    cases h
    omega
  · cases h

/-! ## Periods that can be used -/

section Usable

variable {p : Period}

/-- whether a period has both of its parts -/
def IsComplete (p : Period) : Prop := p.duration ≠ .null ∧ p.interval ≠ none

/-- whether the unit of a period is recognized and its duration is a positive whole number -/
def IsUsable (p : Period) : Prop := p.unit?.isSome = true ∧ p.duration?.isSome = true

instance (p : Period) : Decidable p.IsComplete := by unfold IsComplete; infer_instance

instance (p : Period) : Decidable p.IsUsable := by unfold IsUsable; infer_instance

theorem isUsable_iff : p.IsUsable ↔ ∃ good, p.check = .ok good := by
  constructor
  · rintro ⟨hunit, hduration⟩
    obtain ⟨i, hi⟩ := Option.isSome_iff_exists.1 hunit
    obtain ⟨n, hn⟩ := Option.isSome_iff_exists.1 hduration
    exact ⟨(i, n), check_eq_ok_iff.2 ⟨hi, hn⟩⟩
  · rintro ⟨⟨i, n⟩, h⟩
    obtain ⟨hi, hn⟩ := check_eq_ok_iff.1 h
    rw [IsUsable, hi, hn]
    exact ⟨rfl, rfl⟩

/-- a period that cannot be used has a problem -/
theorem exists_problem (h : ¬ p.IsUsable) : ∃ problem, p.check = .error problem := by
  rcases hcheck : p.check with problem | good
  · exact ⟨problem, rfl⟩
  · exact absurd (isUsable_iff.2 ⟨good, hcheck⟩) h

theorem not_isUsable {problem : PeriodProblem} (h : p.check = .error problem) : ¬ p.IsUsable := by
  intro husable
  obtain ⟨good, hgood⟩ := isUsable_iff.1 husable
  cases hgood.symm.trans h

/-- the duration that is blamed is that of the period -/
theorem eq_duration_of_check {value : Value} (h : p.check = .error (.duration value)) : value = p.duration := by
  cases check_eq_iff.1 h
  rfl

/-- a period has a problem other than a missing part only if it has both parts and cannot be used -/
theorem check_eq_error {problem : PeriodProblem} (h : p.check = .error problem) (hp : problem ≠ .incomplete) :
    p.IsComplete ∧ ¬ p.IsUsable := by
  refine ⟨?_, not_isUsable h⟩
  cases check_eq_iff.1 h with
  | incomplete => exact absurd rfl hp
  | interval hnull hinterval hunit => exact ⟨hnull, Option.ne_none_iff_exists'.2 ⟨_, hinterval⟩⟩
  | duration hnull hunit hduration => exact ⟨hnull, interval_ne_none hunit⟩

end Usable

/-! ## Sums -/

/-- the span of a good period is so many of its units -/
theorem delta?_of_check {p : Period} {i : Interval} {n : Nat} (h : p.check = .ok (i, n)) :
    p.delta? = some (i.delta n) := by
  obtain ⟨hunit, hduration⟩ := check_eq_ok_iff.1 h
  rw [delta?, hduration, hunit]
  rfl

/-- a good period is added by its span -/
theorem addTo_of_check {p : Period} {i : Interval} {n : Nat} (h : p.check = .ok (i, n)) (base : DateTime)
    (errorFor : Text → Violation) (field : Option Text) :
    p.addTo (some base) errorFor field = (i.delta n).bind fun span => (span.addTo base).map .ok := by
  rw [addTo, h]
  rfl

theorem addTo_eq_ok {p : Period} {base : Option DateTime} {errorFor : Text → Violation} {field : Option Text}
    {d : DateTime} :
    p.addTo base errorFor field = .ok (.ok d) ↔
      ∃ i n span b, p.check = .ok (i, n) ∧ i.delta n = .ok span ∧ base = some b ∧ span.addTo b = .ok d := by
  unfold addTo
  cases hc : p.check with
  | error problem => simp only [bind_eq_ok, pure_eq_ok]; simp
  | ok good =>
    obtain ⟨i, n⟩ := good
    cases base with
    | none => simp only [bind_eq_ok]; simp
    | some b => simp only [bind_eq_ok, pure_eq_ok]; simp

theorem addTo_eq_failed {p : Period} {base : Option DateTime} {errorFor : Text → Violation} {field : Option Text}
    {c : Cause} :
    p.addTo base errorFor field = .ok (.failed c) ↔
      ∃ problem message, p.check = .error problem ∧ problem.message field = .ok message ∧
        c = .violations [(errorFor message).asConfiguration] := by
  unfold addTo
  cases hc : p.check with
  | error problem => simp only [bind_eq_ok, pure_eq_ok]; simp [eq_comm]
  | ok good =>
    obtain ⟨i, n⟩ := good
    cases base with
    | none => simp only [bind_eq_ok]; simp
    | some b => simp only [bind_eq_ok, pure_eq_ok]; simp

/-- whether a date is a period after another -/
def Adds (period : Period) (base due : DateTime) : Prop :=
  ∃ i n span, period.check = .ok (i, n) ∧ i.delta n = .ok span ∧ span.addTo base = .ok due

theorem addTo_some_eq_ok {period : Period} {base due : DateTime} (errorFor : Text → Violation)
    (field : Option Text := none) : period.addTo (some base) errorFor field = .ok (.ok due) ↔ period.Adds base due := by
  simp [addTo_eq_ok, Adds]

/-- a date and a period later have the same zone -/
theorem addTo_zone {p : Period} {base : Option DateTime} {errorFor : Text → Violation} {field : Option Text}
    {d : DateTime} (h : p.addTo base errorFor field = .ok (.ok d)) : ∃ b, base = some b ∧ d.zone = b.zone := by
  obtain ⟨i, n, span, b, -, -, hb, hd⟩ := addTo_eq_ok.1 h
  exact ⟨b, hb, Delta.addTo_zone hd⟩

theorem Adds.zone_eq {period : Period} {base due : DateTime} (h : period.Adds base due) : due.zone = base.zone := by
  obtain ⟨i, n, span, -, -, hdue⟩ := h
  exact Delta.addTo_zone hdue

end Period

end Lending
