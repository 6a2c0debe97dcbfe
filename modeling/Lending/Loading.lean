/-
Loading single documents.

A document is checked against its schema, which is logged and in strict settings refused if it does not hold; then it is
read. A loan policy takes the schedules it refers to from those at hand, and goes without one that is missing.
-/
import Lending.Document.PolicySchemas
import Lending.LoanPolicy.Basic
import Lending.RequestPolicy
import Lending.Settings
import Lending.Yaml.Document

namespace Lending

/-- why something cannot be loaded -/
inductive LoadError
  /-- the file is not there or not YAML -/
  | unreadable (path : Path)
  | notMapping (path : Path)
  /-- a strict check against the schema fails -/
  | invalid (source : Text) (problem : String)
  | unparsed (source : Text) (problems : List ReadProblem)
  | noDirectory
  | directoryMissing (path : Path)
  | loanPolicyMissing (id : Text)
  | requestPolicyMissing (id : Text)
  | fault (f : Fault)
deriving DecidableEq

/-- the wording of a load error -/
def LoadError.message : LoadError → Text
  | unreadable path => s!"Unable to read policy document {path.text}"
  | notMapping path => s!"Policy document {path.text} must contain a mapping"
  | invalid source problem => "Policy document " ++ source ++ s!" is invalid: {problem}"
  | unparsed source _ => "Policy document " ++ source ++ " could not be parsed"
  | noDirectory => "No policy directory configured (CIRCULATION_POLICY_DIR)"
  | directoryMissing path => s!"Policy directory {path.text} does not exist"
  | loanPolicyMissing id => "Loan policy " ++ id ++ " is not loaded"
  | requestPolicyMissing id => "Request policy " ++ id ++ " is not loaded"
  | fault f => f.message

/-- a load that may fail, with the events on the way -/
abbrev Loading := ExceptT LoadError Logged

namespace Loading

def log (e : Event) : Loading Unit := ExceptT.lift (Logged.log e)

/-- a step that may meet a fault -/
def ofFault {α : Type} : Except Fault α → Loading α
  | .ok a => pure a
  | .error f => throw (.fault f)

/-- what was read from a document -/
def ofReading {α : Type} (source : Text) (r : Reading α) : Loading α :=
  match r.toExcept with
  | .ok a => pure a
  | .error problems => throw (.unparsed source problems)

end Loading

/-- the problems of a document, which are logged; a strict check refuses a document that has any -/
def Schema.check (schema : Schema) (source : Text) (strict : Bool) (v : Value) : Loading (List String) := do
  match ← Loading.ofFault ((schema.problems v).mapM (·.text)) with
  | [] => return []
  | first :: rest => do
    Loading.log (.schemaViolated source (first :: rest))
    if strict then throw (.invalid source first)
    return first :: rest

/-- the source of a document that is not in a file -/
def memorySource : Text := "<memory>"

/-- load a schedule document; its dates without a zone are in the zone of the settings -/
def Schedule.load (settings : Settings) (source : Text) (v : Value) : Loading Schedule := do
  let _ ← Schema.schedule.check source settings.strict v
  let s ← Loading.ofReading source (Schedule.read v)
  let z ← ExceptT.lift settings.zone
  return s.inZone z

/-- load a request policy document -/
def RequestPolicy.load (settings : Settings) (source : Text) (v : Value) : Loading RequestPolicy := do
  let _ ← Schema.requestPolicy.check source settings.strict v
  Loading.ofReading source (RequestPolicy.read v)

namespace LoanPolicy

/-- the schedule with an id, none if it is missing, which is logged -/
def scheduleFor (schedules : List (Text × Schedule)) (source : Text) (id : Option Text) : Loading Schedule :=
  match id with
  | none => pure .unconfigured
  | some id =>
    if id.isEmpty then pure .unconfigured
    else match schedules.lookup id with
      | some s => pure s
      | none => do
        Loading.log (.scheduleMissing id source)
        return .unconfigured

/-- load a loan policy document, with the schedules at hand -/
def load (settings : Settings) (schedules : List (Text × Schedule)) (source : Text) (v : Value) :
    Loading LoanPolicy := do
  let _ ← Schema.loanPolicy.check source settings.strict v
  let doc ← Loading.ofReading source (LoanPolicyDocument.read v)
  let checkout ← scheduleFor schedules source (doc.loans.bind (·.scheduleId))
  let renewal ← scheduleFor schedules source doc.renewals.alternateScheduleId
  let policy ← Loading.ofFault (ofDocument doc checkout renewal)
  Loading.log (.policyLoaded policy.id source)
  return policy

end LoanPolicy

end Lending
