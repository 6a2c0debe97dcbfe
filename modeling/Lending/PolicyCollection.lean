/-
The policies of a directory.

`PolicyCollection.load` reads every document in a directory, in order of their names, and `PolicyCollection.ofDocuments`
sorts them by shape: a `schedules` field marks a schedule, a `requestTypes` field a request policy, and anything else is a
loan policy. Loan policies come last, so that they find the schedules they refer to. Of two documents of a kind with one
id the later counts, and a document without an id is not kept.
-/
import Lending.Document.KeyOrder
import Lending.Files
import Lending.Loading
import Lending.Text.Utf8

namespace Lending

/-- the schedules and policies of a directory, by id -/
structure PolicyCollection where
  loanPolicies : List (Text × LoanPolicy) := []
  requestPolicies : List (Text × RequestPolicy) := []
  schedules : List (Text × Schedule) := []
deriving DecidableEq

/-- what a document is about -/
inductive DocumentKind
  | schedule
  | requestPolicy
  | loanPolicy
deriving DecidableEq

/-- a document that is a mapping, and where it comes from -/
structure SourceDocument where
  source : Text
  entries : List (Value × Value)
deriving DecidableEq

namespace SourceDocument

def value (d : SourceDocument) : Value := .mapping d.entries

/-- the kind of a document, by its fields -/
def kind (d : SourceDocument) : DocumentKind :=
  if (Value.lookup? d.entries "schedules").isSome then .schedule
  else if (Value.lookup? d.entries "requestTypes").isSome then .requestPolicy
  else .loanPolicy

/-- log the document and its keys, which must have an order -/
def announce (d : SourceDocument) : Loading Unit := do
  let keys ← Loading.ofFault (Value.sorted? (d.entries.map (·.1)))
  Loading.log (.documentFound d.source keys)

/-- the document in a file -/
def read (files : Files) (path : Path) : Loading SourceDocument :=
  match files.read? path with
  | none => throw (.unreadable path)
  | some bytes => do
    let text ← Loading.ofFault (Text.Utf8.readLines bytes)
    match Value.ofYaml text with
    | .error .unreadable => throw (.unreadable path)
    | .error (.fault f) => throw (.fault f)
    | .ok v =>
      match v.opened with
      | .mapping entries => return ⟨path.text, entries⟩
      | _ => throw (.notMapping path)

end SourceDocument

namespace PolicyCollection

/-- keep something under an id, in place of what was kept under it; without an id it is not kept -/
def keep {α : Type} (id : Option Text) (a : α) (kept : List (Text × α)) : List (Text × α) :=
  match id with
  | none => kept
  | some id => if id.isEmpty then kept else put id a kept
where
  put (id : Text) (a : α) : List (Text × α) → List (Text × α)
    | [] => [(id, a)]
    | e :: es => if e.1 = id then (id, a) :: es else e :: put id a es

/-- add a schedule or a request policy -/
def addShared (settings : Settings) (c : PolicyCollection) (d : SourceDocument) : Loading PolicyCollection := do
  if settings.debug then d.announce
  match d.kind with
  | .schedule =>
    let s ← Schedule.load settings d.source d.value
    return { c with schedules := keep s.id? s c.schedules }
  | .requestPolicy =>
    let p ← RequestPolicy.load settings d.source d.value
    return { c with requestPolicies := keep p.id p c.requestPolicies }
  | .loanPolicy => return c

/-- add a loan policy -/
def addLoanPolicy (settings : Settings) (c : PolicyCollection) (d : SourceDocument) : Loading PolicyCollection := do
  let p ← LoanPolicy.load settings c.schedules d.source d.value
  return { c with loanPolicies := keep p.id p c.loanPolicies }

/-- the collection that documents give -/
def ofDocuments (settings : Settings) (documents : List SourceDocument) : Loading PolicyCollection := do
  let shared ← documents.foldlM (addShared settings) {}
  (documents.filter (·.kind = .loanPolicy)).foldlM (addLoanPolicy settings) shared

/-- whether a file holds a document, by its name -/
def isDocumentName (name : String) : Bool :=
  let suffix := (Text.ofString (Path.suffix name)).lower
  [".yaml", ".yml", ".json"].any fun s => Text.ofString s = suffix

/-- the collection of a directory, by default the one in the settings -/
def load (files : Files) (settings : Settings) (directory : Option Path) : Loading PolicyCollection := do
  let some folder := directory.or settings.policyDir | throw .noDirectory
  if !files.isFolder folder then throw (.directoryMissing folder)
  let names := (files.namesIn folder).filter isDocumentName
  let documents ← names.mapM fun name => SourceDocument.read files (folder.child name)
  ofDocuments settings documents

/-- the loan policy with an id -/
def loanPolicy (c : PolicyCollection) (id : Text) : Except LoadError LoanPolicy :=
  match c.loanPolicies.lookup id with
  | some p => .ok p
  | none => .error (.loanPolicyMissing id)

/-- the request policy with an id -/
def requestPolicy (c : PolicyCollection) (id : Text) : Except LoadError RequestPolicy :=
  match c.requestPolicies.lookup id with
  | some p => .ok p
  | none => .error (.requestPolicyMissing id)

/-- the schedule with an id -/
def schedule? (c : PolicyCollection) (id : Text) : Option Schedule := c.schedules.lookup id

end PolicyCollection

end Lending
