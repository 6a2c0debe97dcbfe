/-
Reading the sections of a document.

A section is a mapping whose fields have a name in documents and another in records; either may be used, and the first
wins. Reading goes on after a field that cannot be read, so that every problem is found: a `Reading` holds a value and
the problems met, and the value counts only if there are none. Only a section with a key that is no string is not read at all.
-/
import Lending.Document.Schema
import Lending.Document.Whole
import Lending.Text.Utf8

namespace Lending

/-- why a part of a document cannot be read -/
inductive ReadIssue
  | missing
  | mapping
  | list
  | text
  | truthSpelling
  | truth
  | wholeSpelling
  | wholeSize
  | fraction
  | finite
  | whole
  | timestamp
  | key
  /-- a text that is no string, or bytes that are no text, where a string is asked for -/
  | surrogate
deriving DecidableEq

/-- the name under which an issue is reported -/
def ReadIssue.name : ReadIssue → String
  | missing => "missing"
  | mapping => "model_type"
  | list => "list_type"
  | text => "string_type"
  | truthSpelling => "bool_parsing"
  | truth => "bool_type"
  | wholeSpelling => "int_parsing"
  | wholeSize => "int_parsing_size"
  | fraction => "int_from_float"
  | finite => "finite_number"
  | whole => "int_type"
  | timestamp => "value_error"
  | key => "invalid_key"
  | surrogate => "string_unicode"

/-- an issue and its place -/
structure ReadProblem where
  place : List Step
  issue : ReadIssue
deriving DecidableEq

/-- a value read from a document, with the problems met on the way -/
structure Reading (α : Type) where
  value : α
  problems : List ReadProblem := []

namespace Reading

variable {α : Type}

instance : Monad Reading where
  pure a := ⟨a, []⟩
  bind x f :=
    let y := f x.value
    ⟨y.value, x.problems ++ y.problems⟩

/-- a problem with the value itself, and a value to go on with -/
def issue (i : ReadIssue) (a : α) : Reading α := ⟨a, [⟨[], i⟩]⟩

/-- the same reading of a value found one step further into a document -/
def under (s : Step) (r : Reading α) : Reading α :=
  { r with problems := r.problems.map fun p => { p with place := s :: p.place } }

/-- the value, or the problems -/
def toExcept (r : Reading α) : Except (List ReadProblem) α :=
  if r.problems.isEmpty then .ok r.value else .error r.problems

/-! ## Words of 64 bits -/

/-- the first number behind the signed words of 64 bits -/
def wordLimit : Int := Nat.pow 2 63

/-- whether a whole number is a signed word of 64 bits -/
def isWord (n : Int) : Bool := -wordLimit ≤ n && n < wordLimit

/-- whether a number that was rounded to double precision is such a word for certain: the least word does not count -/
def fitsWord (n : Int) : Bool := -wordLimit < n && n < wordLimit

/-! ## Fields and sections -/

/-- an entry under either name of a field -/
def entry? (entries : List (Value × Value)) (name recordName : String) : Option Value :=
  match Value.lookup? entries name with
  | some v => some v
  | none => Value.lookup? entries recordName

/-- a field that may be left out -/
def field (entries : List (Value × Value)) (name recordName : String) (absent : α) (read : Value → Reading α) :
    Reading α :=
  match entry? entries name recordName with
  | none => pure absent
  | some v => (read v).under (.key name)

/-- a field that must be there -/
def requiredField (entries : List (Value × Value)) (name recordName : String) (absent : α)
    (read : Value → Reading α) : Reading α :=
  match entry? entries name recordName with
  | none => (issue .missing absent).under (.key name)
  | some v => (read v).under (.key name)

/-- the name of a key that is no text -/
def keyName (v : Value) : String :=
  match v.literal with
  | .ok name => name
  | .error _ => s!"<unprintable {v.typeName} object>"

/-- the place of a key that is no text: a number of 64 bits as an index, a truth value as one or zero -/
def keyStep : Value → Step
  | .bool b => .index (if b then 1 else 0)
  | .int n => if isWord n then .index n else .key (keyName (.int n))
  | v => .key (keyName v)

/-- keys that are no text have no place in a section -/
def otherKeys (entries : List (Value × Value)) : Reading Unit :=
  ⟨(), entries.filterMap fun e => match e.1 with
    | .text _ => none
    | k => some ⟨[keyStep k], .key⟩⟩

/-- whether a key is a text but no string -/
def isBroken : Value → Bool
  | .text t => t.string?.isNone
  | _ => false

/-- a section, whose fields are read in order -/
def ofSection (absent : α) (fields : List (Value × Value) → Reading α) (v : Value) : Reading α :=
  match v.opened with
  | .mapping entries =>
    if entries.any fun e => isBroken e.1 then issue .surrogate absent
    else do
      let a ← fields entries
      otherKeys entries
      return a
  | _ => issue .mapping absent

/-- null, or what a reader makes of the value -/
def optional (read : Value → Reading α) : Value → Reading (Option α)
  | .null => pure none
  | v => do return some (← read v)

/-- the values in a list, a set or a pair -/
def items? (v : Value) : Option (List Value) :=
  match v.opened with
  | .list items => some items
  | .set members => some members
  | .pair key value => some [key, value]
  | _ => none

/-- the items of a list, also of one given as a set or a pair -/
def list (read : Value → Reading α) (v : Value) : Reading (List α) :=
  match items? v with
  | some items => items.zipIdx.mapM fun (v, i) => (read v).under (.index i)
  | none => issue .list []

/-! ## Plain values -/

/-- what a reader makes of the text that bytes hold, or an issue and a value to go on with -/
def ofBytes (bs : List UInt8) (read : Text → Reading α) (i : ReadIssue) (absent : α) : Reading α :=
  match Text.Utf8.decode bs with
  | .ok cs => read (.ofChars cs)
  | .error _ => issue i absent

/-- a text, also in bytes -/
def text : Value → Reading Text
  | .text t => pure t
  | .bytes bs => ofBytes bs pure .surrogate {}
  | _ => issue .text {}

/-- spellings of true -/
def trueSpellings : List String := ["1", "on", "t", "true", "y", "yes"]

/-- spellings of false -/
def falseSpellings : List String := ["0", "off", "f", "false", "n", "no"]

/-- a truth value in words -/
def truthText (t : Text) : Reading Bool :=
  match t.string? with
  | none => issue .surrogate false
  | some s =>
    let word := s.toLower
    if falseSpellings.contains word then pure false
    else if trueSpellings.contains word then pure true
    else issue .truthSpelling false

/-- a truth value as a whole number -/
def truthNumber (n : Int) : Reading Bool :=
  if n = 0 then pure false
  else if n = 1 then pure true
  else issue .truthSpelling false

/-- a truth value, also as a number or in words -/
def truth : Value → Reading Bool
  | .bool b => pure b
  | .int n => if isWord n then truthNumber n else issue .truth false
  | .float x =>
    match x.toInt? with
    | some n => if fitsWord n then truthNumber n else issue .truth false
    | none => issue .truth false
  | .text t => truthText t
  | .bytes bs => ofBytes bs truthText .truthSpelling false
  | _ => issue .truth false

/-- a whole number in text -/
def wholeText (t : Text) : Reading Int :=
  match t.chars? with
  | none => issue .surrogate 0
  | some cs =>
    match Whole.ofChars cs with
    | .ok n => pure n
    | .error .spelling => issue .wholeSpelling 0
    | .error .size => issue .wholeSize 0

/-- a whole number, also as a truth value, a float without a fraction, or in text -/
def whole : Value → Reading Int
  | .bool b => pure (if b then 1 else 0)
  | .int n => pure n
  | .float x =>
    match x with
    | .finite _ _ =>
      match x.toInt? with
      | none => issue .fraction 0
      | some n => if fitsWord n then pure n else issue .wholeSize 0
    | _ => issue .finite 0
  | .text t => wholeText t
  | .bytes bs => ofBytes bs wholeText .wholeSpelling 0
  | _ => issue .whole 0

/-- a timestamp, also one given by a value that is shown as one -/
def timestamp (absent : DateTime) : Value → Reading DateTime
  | .dateTime d => pure d
  | .date d => pure ⟨.of d .midnight, none, false⟩
  | v =>
    match v.shown.bind (Timestamp.parse ·) with
    | .ok d => pure d
    | .error _ => issue .timestamp absent

end Reading

end Lending
