/-
Loan periods as a policy document configures them.

A `Period` holds whatever the document gave as duration and interval, so that bad configuration shows when the period is
used: `Period.check` finds what is wrong with it, `Period.addTo` adds a good one to a date.
-/
import Lending.Document.Value
import Lending.Outcome
import Lending.Period.Delta
import Lending.Text.Caseless
import Lending.Text.Numeral

namespace Lending

/-- a unit of time that a period may be given in -/
inductive Interval
  | minutes
  | hours
  | days
  | weeks
  | months
deriving DecidableEq

namespace Interval

def all : List Interval := [minutes, hours, days, weeks, months]

/-- the name of a unit in documents -/
def name : Interval → String
  | minutes => "Minutes"
  | hours => "Hours"
  | days => "Days"
  | weeks => "Weeks"
  | months => "Months"

/-- the unit with an id, whose case and surrounding blanks do not matter -/
def ofId? (id : Option Text) : Option Interval :=
  let word := (id.getD {}).trim.lower
  all.find? fun i => (Text.ofString i.name).lower = word

/-- the span of a number of units -/
def delta (i : Interval) (n : Nat) : Except Fault Delta :=
  match i with
  | minutes => Delta.ofMinutes n
  | hours => Delta.ofHours n
  | days => .ok (.ofDays n)
  | weeks => .ok (.ofDays (7 * n))
  | months => Delta.ofMonths n

end Interval

/-- a duration as it is kept: a text of digits, perhaps after minus signs, is a number -/
def asDuration (raw : Value) : Except Fault Value :=
  match raw with
  | .text t =>
    let t := t.trim
    let digits := t.points.dropWhile (· = .char '-')
    if !digits.isEmpty && digits.all (Point.isA Text.isDigit) then do return .int (← Text.numeral 10 t)
    else .ok raw
  | _ => .ok raw

/-- a duration and the id of its interval, as configured -/
structure Period where
  duration : Value := .null
  interval : Option Text := none
deriving DecidableEq

/-- what is wrong with a period -/
inductive PeriodProblem
  /-- no interval or no duration -/
  | incomplete
  | interval (id : Text)
  | duration (value : Value)
deriving DecidableEq

/-- the wording of a problem with the period in the named field of a policy, or with its loan period; an empty name counts
as none -/
def PeriodProblem.message (p : PeriodProblem) (field : Option Text) : Except Fault Text :=
  match p with
  | incomplete =>
    match field.filter (!·.isEmpty) with
    | some f => .ok ("the \"" ++ f ++ "\" in the loan policy is not recognized")
    | none => .ok "the loan period in the loan policy is not recognized"
  | interval id => .ok ("the interval \"" ++ id ++ "\" in " ++ place ++ " is not recognized")
  | duration value => do
    let shown ← value.shown
    return "the duration \"" ++ shown ++ "\" in " ++ place ++ " is invalid"
where
  /-- the field or the loan policy itself -/
  place : Text :=
    match field.filter (!·.isEmpty) with
    | some f => "\"" ++ f ++ "\""
    | none => "the loan policy"

namespace Period

/-- a period as a document gives it -/
def ofValues (duration : Value) (interval : Option Text) : Except Fault Period := do
  return ⟨← asDuration duration, interval⟩

/-- a period of whole units -/
def of (i : Interval) (n : Int) : Period := ⟨.int n, some i.name⟩

/-- the unit, if it is recognized -/
def unit? (p : Period) : Option Interval := Interval.ofId? p.interval

/-- the duration, if it is a positive whole number -/
def duration? (p : Period) : Option Nat :=
  match p.duration with
  | .int n => if 0 < n then some n.toNat else none
  | _ => none

/-- the span of a period, if its unit and duration make one -/
def delta? (p : Period) : Option (Except Fault Delta) := do
  let n ← p.duration?
  let i ← p.unit?
  return i.delta n

/-- unit and duration, or what is wrong with the period -/
def check (p : Period) : Except PeriodProblem (Interval × Nat) :=
  match p.interval with
  | none => .error .incomplete
  | some id =>
    if p.duration = .null then .error .incomplete
    else match p.unit?, p.duration? with
      | none, _ => .error (.interval id)
      | some _, none => .error (.duration p.duration)
      | some i, some n => .ok (i, n)

/-- the date a period after another; a bad period is a violation put down to the policy -/
def addTo (p : Period) (base : Option DateTime) (errorFor : Text → Violation) (field : Option Text := none) :
    Except Fault (Outcome DateTime) :=
  match p.check with
  | .error problem => do
    let message ← problem.message field
    return .violation (errorFor message).asConfiguration
  | .ok (i, n) => do
    let span ← i.delta n
    match base with
    | none => .error .periodWithoutDate
    | some d => return .ok (← span.addTo d)

end Period

end Lending
