/-
Schemas of documents.

A schema is a list of keywords, and each keyword asks one thing of a value. `Schema.problems` lists what a value does not
satisfy: keywords in the order of the schema, fields in the order of the schema, items in the order of the document, and
then, without disturbing that order otherwise, by the place in the document.
-/
import Lending.Document.Value

namespace Lending

/-- a type that a schema may ask for -/
inductive ValueType
  | object
  | array
  | string
  | boolean
  | integer
deriving DecidableEq

namespace ValueType

def name : ValueType → String
  | object => "object"
  | array => "array"
  | string => "string"
  | boolean => "boolean"
  | integer => "integer"

/-- whether a value is of a type; a float without a fraction is an integer, a truth value is not -/
def admits (t : ValueType) (v : Value) : Bool :=
  match t, v.opened with
  | object, .mapping _ => true
  | array, .list _ => true
  | string, .text _ => true
  | boolean, .bool _ => true
  | integer, .int _ => true
  | integer, .float x => x.toInt?.isSome
  | _, _ => false

end ValueType

/-- one demand on a value -/
inductive Keyword
  /-- the value is of the type -/
  | type (t : ValueType)
  /-- a mapping has entries with these names -/
  | required (names : List String)
  /-- the value is one of these texts -/
  | choices (options : List String)
  /-- a number is not less than this -/
  | minimum (n : Int)
  /-- entries with these names, where a mapping has them, satisfy their demands -/
  | properties (fields : List (String × List Keyword))
  /-- each item of a list satisfies the demands -/
  | items (schema : List Keyword)

/-- the demands on a document -/
abbrev Schema := List Keyword

/-- a step from a value into it -/
inductive Step
  | key (name : String)
  | index (n : Int)
deriving DecidableEq

namespace Step

/-- how a step is written in a path -/
def text : Step → String
  | key name => name
  | index n => toString n

/-- names by their characters, positions by number -/
def before : Step → Step → Bool
  | key a, key b => a < b
  | index m, index n => m < n
  | index _, key _ => true
  | key _, index _ => false

end Step

/-- what is wrong with a value -/
inductive Complaint
  | wrongType (v : Value) (t : ValueType)
  | missing (name : String)
  | notAmong (v : Value) (options : List String)
  | below (v : Value) (n : Int)
deriving DecidableEq

/-- the wording of a complaint, which shows the value -/
def Complaint.message : Complaint → Except Fault String
  | wrongType v t => do
    let shown ← v.literal
    return s!"{shown} is not of type '{t.name}'"
  | missing name => .ok s!"{Text.quoted name} is a required property"
  | notAmong v options => do
    let shown ← v.literal
    let known := ", ".intercalate (options.map fun o : String => Text.quoted o)
    return s!"{shown} is not one of [{known}]"
  | below v n => do
    let shown ← v.literal
    return s!"{shown} is less than the minimum of {n}"

/-- a demand that a document does not satisfy, and where -/
structure SchemaProblem where
  path : List Step
  complaint : Complaint
deriving DecidableEq

namespace SchemaProblem

/-- the same problem of a value that is found one step further into a document -/
def under (s : Step) (p : SchemaProblem) : SchemaProblem := { p with path := s :: p.path }

/-- the place and the message -/
def text (p : SchemaProblem) : Except Fault String := do
  let place := if p.path.isEmpty then "<root>" else "/".intercalate (p.path.map Step.text)
  let message ← p.complaint.message
  return s!"{place}: {message}"

end SchemaProblem

/-- whether one path comes before another -/
def pathBefore : List Step → List Step → Bool
  | [], [] => false
  | [], _ :: _ => true
  | _ :: _, [] => false
  | a :: as, b :: bs => if a = b then pathBefore as bs else a.before b

namespace Schema

/-- a problem with the value itself -/
def here (c : Complaint) : List SchemaProblem := [⟨[], c⟩]

/-- whether a number is less than a bound; what is no number is not -/
def isLess (v : Value) (n : Int) : Bool :=
  match v with
  | .int m => m < n
  | .float x => x.ltInt n
  | _ => false

mutual

/-- what a value does not satisfy, keyword by keyword -/
def unordered : List Keyword → Value → List SchemaProblem
  | [], _ => []
  | k :: ks, v => ofKeyword k v ++ unordered ks v

/-- what a value does not satisfy of one keyword -/
def ofKeyword : Keyword → Value → List SchemaProblem
  | .type t, v => if t.admits v then [] else here (.wrongType v t)
  | .required names, v =>
    match v.opened with
    | .mapping entries =>
      names.flatMap fun n => if (Value.lookup? entries n).isSome then [] else here (.missing n)
    | _ => []
  | .choices options, v => if options.any v.isText then [] else here (.notAmong v options)
  | .minimum n, v => if isLess v n then here (.below v n) else []
  | .properties fields, v => ofFields fields v
  | .items schema, v =>
    match v.opened with
    | .list items => (items.zipIdx.map fun (w, i) => (unordered schema w).map (·.under (.index i))).flatten
    | _ => []

/-- what the entries of a mapping do not satisfy -/
def ofFields : List (String × List Keyword) → Value → List SchemaProblem
  | [], _ => []
  | (name, schema) :: fields, v =>
    (match v.field? name with
      | none => []
      | some w => (unordered schema w).map (·.under (.key name))) ++ ofFields fields v

end

/-- insert a problem behind those that do not come after it -/
def insertProblem (p : SchemaProblem) : List SchemaProblem → List SchemaProblem
  | [] => [p]
  | q :: qs => if pathBefore p.path q.path then p :: q :: qs else q :: insertProblem p qs

/-- what a value does not satisfy, by place -/
def problems (schema : Schema) (v : Value) : List SchemaProblem :=
  (unordered schema v).foldl (fun sorted p => insertProblem p sorted) []

end Schema

end Lending
