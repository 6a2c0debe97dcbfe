/-
What a rule decides.

An `Outcome` is a value or the cause of a failure. The cause is a list of violated rules, so that every violation can be
told at once, or a fault of the server, of which only the reason is known. A violation that comes from bad policy data is
marked as such.
-/
import Lending.Fault

namespace Lending

/-- whether a violation is of a rule or comes from incomplete or malformed policy data -/
inductive ViolationKind
  | rule
  | configuration
deriving DecidableEq

/-- a violated rule, with named parameters for what violates it -/
structure Violation where
  message : Text
  parameters : List (Text × Option Text) := []
  kind : ViolationKind := .rule
deriving DecidableEq

/-- the same violation, put down to policy data -/
def Violation.asConfiguration (v : Violation) : Violation := { v with kind := .configuration }

/-- why there is no value -/
inductive Cause
  | violations (errors : List Violation)
  | serverError (reason : Text)
deriving DecidableEq

namespace Cause

/-- the violations of a cause, none for a server error -/
def errors : Cause → List Violation
  | violations es => es
  | serverError _ => []

/-- the cause that stands for a fault -/
def ofFault (f : Fault) : Cause := serverError f.report

/-- whether a violation has the given message -/
def hasMessage (c : Cause) (message : Text) : Bool := c.errors.any (·.message = message)

end Cause

/-- a value, or the cause of a failure -/
inductive Outcome (α : Type)
  | ok (value : α)
  | failed (cause : Cause)
deriving DecidableEq

namespace Outcome

variable {α β γ : Type}

instance : Monad Outcome where
  pure := ok
  bind x f := match x with
    | ok a => f a
    | failed c => failed c

/-- fail for one violated rule -/
def violation (v : Violation) : Outcome α := failed (.violations [v])

/-- fail for one violated rule with one parameter -/
def refuse (message key : Text) (value : Option Text) : Outcome α := violation ⟨message, [(key, value)], .rule⟩

def isOk : Outcome α → Bool
  | ok _ => true
  | failed _ => false

def toOption : Outcome α → Option α
  | ok a => some a
  | failed _ => none

/-- the violations, none for a value or a server error -/
def errors : Outcome α → List Violation
  | ok _ => []
  | failed c => c.errors

/-- join two values; of two failures the first counts -/
def combine (x : Outcome α) (y : Outcome β) (f : α → β → γ) : Outcome γ := do
  let a ← x
  let b ← y
  return f a b

/-- go on with the value of a decision that a fault may have stopped -/
def andThen (x : Except Fault (Outcome α)) (f : α → Except Fault (Outcome β)) : Except Fault (Outcome β) := do
  match ← x with
  | ok a => f a
  | failed c => return failed c

/-- a decision that a fault may have stopped, the fault being a server error -/
def settle : Except Fault (Outcome α) → Outcome α
  | .ok o => o
  | .error f => failed (.ofFault f)

end Outcome

end Lending
