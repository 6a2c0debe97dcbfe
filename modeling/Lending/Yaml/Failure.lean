/-
Why a YAML text has no value.
-/
import Lending.Fault

namespace Lending.Yaml

/-- why a text has no value -/
inductive Failure
  /-- the text is not YAML, or nothing is known about a node of it -/
  | unreadable
  /-- a part of the text has the right form but no value -/
  | fault (f : Fault)
deriving DecidableEq

/-- a part that was found, or else a text that is not YAML -/
def readable {α : Type} : Option α → Except Failure α
  | some a => .ok a
  | none => .error .unreadable

/-- a value, or the fault that there is in place of it -/
def faultless {α : Type} (x : Except Fault α) : Except Failure α := x.mapError .fault

end Lending.Yaml
