/-
What adding a period to a date comes to.

A period that lacks its interval or its duration, whose unit is not recognized, or whose duration is not a positive whole
number, is refused with one violation of configuration, which is about the first of these faults. Every other period has a
span, or its number is too great for one, and is added by it: what adding it comes to is the outcome of that arithmetic.
`addTo_classified` goes through these cases in their order and says that no other period is refused.
-/
import Mathlib.Tactic
import Lending.Proofs.Arithmetic

namespace Lending

/-- whether a value is a positive whole number; no truth value, no number with a point and no text is one -/
def Value.IsPositive (v : Value) : Prop := ∃ n : Int, 0 < n ∧ v = .int n

theorem Value.IsPositive.ne_null {v : Value} (h : v.IsPositive) : v ≠ .null := by
  obtain ⟨n, -, rfl⟩ := h
  exact nofun

/-- a number of a unit has a span, or is too great -/
theorem Interval.eq_beyondDouble {i : Interval} {n : Nat} {f : Fault} (h : i.delta n = .error f) : f = .beyondDouble := by
  cases i with
  | days => cases h
  | weeks => cases h
  | _ =>
    simp only [delta, Delta.ofMinutes, Delta.ofHours, Delta.ofMonths] at h
    split_ifs at h
    cases h
    rfl

namespace Period

variable {p : Period} {base : DateTime} {errorFor : Text → Violation} {field : Option Text} {problem : PeriodProblem}

theorem duration?_isSome_iff : p.duration?.isSome = true ↔ p.duration.IsPositive := by
  unfold duration? Value.IsPositive
  split
  · next n hn =>
    rw [hn]
    simp
  · next hn => exact iff_of_false (by simp) fun ⟨n, _, h⟩ => hn n h

/-- a period is refused for a problem if the one violation is what is told of the problem, put down to configuration -/
def RefusedFor (p : Period) (base : DateTime) (errorFor : Text → Violation) (field : Option Text)
    (problem : PeriodProblem) : Prop :=
  ∃ message, problem.message field = .ok message ∧
    p.addTo (some base) errorFor field =
      .ok (.failed (.violations [⟨(errorFor message).message, (errorFor message).parameters, .configuration⟩]))

/-- a period is summed if adding it is adding its span, or stops for want of one -/
structure Summed (p : Period) (base : DateTime) (errorFor : Text → Violation) (field : Option Text)
    (span : Except Fault Delta) : Prop where
  delta : p.delta? = some span
  tooGreat : ∀ f, span = .error f → f = .beyondDouble
  sum : p.addTo (some base) errorFor field = (span.bind (·.addTo base)).map .ok
  stopped : ∀ f, span.bind (·.addTo base) = .error f → f.isArithmetic = true

/-- what a check finds is what the period is refused for -/
theorem refusedFor_of_check (hshort : p.duration.holdsLongNumber = false) (hcheck : p.check = .error problem) :
    p.RefusedFor base errorFor field problem := by
  obtain ⟨message, hmessage⟩ : ∃ message, problem.message field = .ok message := by
    rcases problem.message_cases field with h | ⟨value, rfl, hlong, -⟩
    · exact h
    · rw [eq_duration_of_check hcheck, hshort] at hlong
      cases hlong
  exact ⟨message, hmessage, addTo_eq_failed.2 ⟨problem, message, hcheck, hmessage, rfl⟩⟩

theorem summed_of_check {i : Interval} {n : Nat} (hcheck : p.check = .ok (i, n)) :
    p.Summed base errorFor field (i.delta n) where
  delta := delta?_of_check hcheck
  tooGreat _ := Interval.eq_beyondDouble
  sum := by
    rw [addTo_of_check hcheck]
    cases i.delta n <;> rfl
  stopped := ArithmeticFaults.bind (i.arithmeticFaults_delta n) fun span _ => span.arithmeticFaults_addTo base

theorem isUsable_iff_isPositive : p.IsUsable ↔ p.unit? ≠ none ∧ p.duration.IsPositive := by
  rw [IsUsable, Option.isSome_iff_ne_none, duration?_isSome_iff]

/-- a check finds a problem if the interval or the duration is missing, or one of them is no good -/
theorem exists_problem_iff :
    (∃ problem, p.check = .error problem) ↔
      p.interval = none ∨ p.duration = .null ∨ p.unit? = none ∨ ¬ p.duration.IsPositive := by
  have husable : (∃ problem, p.check = .error problem) ↔ ¬ p.IsUsable := by
    constructor
    · rintro ⟨problem, hproblem⟩
      exact not_isUsable hproblem
    · exact exists_problem
  rw [husable, isUsable_iff_isPositive]
  constructor
  · intro hbad
    by_contra! hgood
    exact hbad hgood.2.2
  · intro hbad hgood
    have hinterval := interval_ne_none (Option.isSome_iff_ne_none.2 hgood.1)
    simp [hinterval, hgood.2.ne_null, hgood] at hbad

/-- **Every period is refused or summed.** A period is refused for lacking its interval or duration, else for a unit that is
not recognized, else for a duration that is not a positive whole number; the violation is told as the caller words it and
put down to configuration. Any other period is summed, and is not refused. -/
theorem addTo_classified (hshort : p.duration.holdsLongNumber = false) (base : DateTime) (errorFor : Text → Violation)
    (field : Option Text) :
    (p.interval = none ∨ p.duration = .null → p.RefusedFor base errorFor field .incomplete) ∧
      (∀ id, p.interval = some id → p.duration ≠ .null → p.unit? = none →
        p.RefusedFor base errorFor field (.interval id)) ∧
      (p.duration ≠ .null → p.unit? ≠ none → ¬ p.duration.IsPositive →
        p.RefusedFor base errorFor field (.duration p.duration)) ∧
      (p.unit? ≠ none → p.duration.IsPositive → ∃ span, p.Summed base errorFor field span) ∧
      ((∃ c, p.addTo (some base) errorFor field = .ok (.failed c)) ↔
        p.interval = none ∨ p.duration = .null ∨ p.unit? = none ∨ ¬ p.duration.IsPositive) := by
  refine ⟨fun h => ?_, fun id hid hnull hunit => ?_, fun hnull hunit hpositive => ?_, fun hunit hpositive => ?_, ?_⟩
  · exact refusedFor_of_check hshort (check_eq_iff.2 (.incomplete h.symm))
  · exact refusedFor_of_check hshort (check_eq_iff.2 (.interval hnull hid hunit))
  · have hnone : p.duration? = none := by
      rw [← Option.not_isSome_iff_eq_none, duration?_isSome_iff]
      exact hpositive
    exact refusedFor_of_check hshort (check_eq_iff.2 (.duration hnull (Option.isSome_iff_ne_none.2 hunit) hnone))
  · obtain ⟨⟨i, n⟩, hcheck⟩ := isUsable_iff.1 (isUsable_iff_isPositive.2 ⟨hunit, hpositive⟩)
    exact ⟨i.delta n, summed_of_check hcheck⟩
  · rw [← exists_problem_iff]
    constructor
    · rintro ⟨c, hc⟩
      obtain ⟨problem, -, hproblem, -⟩ := addTo_eq_failed.1 hc
      exact ⟨problem, hproblem⟩
    · rintro ⟨problem, hproblem⟩
      obtain ⟨message, -, hrefused⟩ := refusedFor_of_check hshort hproblem
      exact ⟨_, hrefused⟩

/-- a truth value is no duration, and a unit that is not recognized is told first -/
theorem addTo_classified_true :
    let today := DateTime.utcDay 2024 1 10
    let weeks : Period := ⟨.bool true, some "weeks"⟩
    let fortnights : Period := ⟨.bool true, some "fortnights"⟩
    weeks.duration.holdsLongNumber = false ∧ weeks.unit? ≠ none ∧ ¬ weeks.duration.IsPositive ∧
      weeks.RefusedFor today ({ message := · }) none (.duration (.bool true)) ∧
      fortnights.RefusedFor today ({ message := · }) none (.interval "fortnights") := by
  intro today weeks fortnights
  have hpositive : ¬ weeks.duration.IsPositive := fun ⟨_, _, h⟩ => nomatch h
  have hunit : weeks.unit? ≠ none := by decide
  exact ⟨rfl, hunit, hpositive, (addTo_classified rfl today _ none).2.2.1 nofun hunit hpositive,
    (addTo_classified rfl today _ none).2.1 "fortnights" rfl nofun (by decide)⟩

end Period

end Lending
