/-
The values that policy documents are made of.

A document is a tree of mappings and lists over plain values. A mapping keeps its entries in order, and its keys may be
any plain value; `Value.field?` looks an entry up by a text key. The members of a set have no fixed order; they are kept as
they are written. A list or mapping may also hold itself, perhaps by way of others: each of these is `looped` under a number,
and `again` stands for it inside itself. `Value.opened` follows a loop once, so that there is always a value to look into,
and each part of a loop is known wherever it is met. `Value.shown` is the text of a value and `Value.literal` its text inside
another value, where texts are quoted.
-/
import Lending.Number.Shortest
import Lending.Text.Numeral
import Lending.Time.Timestamp

namespace Lending

/-- a value in a document -/
inductive Value
  | null
  | bool (b : Bool)
  | int (n : Int)
  | float (x : Binary64)
  | text (t : Text)
  | date (d : Date)
  | dateTime (d : DateTime)
  | bytes (bs : List UInt8)
  | list (items : List Value)
  /-- a set of plain values, in the order in which they are written -/
  | set (members : List Value)
  /-- a key and a value by themselves, as lists of pairs hold them -/
  | pair (key value : Value)
  | mapping (entries : List (Value × Value))
  /-- a list or mapping that holds itself, and the number by which it is known inside -/
  | looped (label : Nat) (v : Value)
  /-- the list or mapping around this place that is known by a number; whether it is a list -/
  | again (label : Nat) (isList : Bool)
deriving Inhabited

namespace Value

/-! ## Equality -/

mutual

/-- whether two values are built alike -/
def alike : Value → Value → Bool
  | null, null => true
  | bool a, bool b => a = b
  | int m, int n => m = n
  | float x, float y => x = y
  | text s, text t => s = t
  | date d, date e => d = e
  | dateTime d, dateTime e => d = e
  | bytes a, bytes b => a = b
  | list vs, list ws => allAlike vs ws
  | set vs, set ws => allAlike vs ws
  | pair k v, pair l w => alike k l && alike v w
  | mapping es, mapping fs => entriesAlike es fs
  | looped m v, looped n w => m = n && alike v w
  | again m b, again n c => m = n && b = c
  | _, _ => false

def allAlike : List Value → List Value → Bool
  | [], [] => true
  | v :: vs, w :: ws => alike v w && allAlike vs ws
  | _, _ => false

def entriesAlike : List (Value × Value) → List (Value × Value) → Bool
  | [], [] => true
  | (k, v) :: es, (l, w) :: fs => alike k l && (alike v w && entriesAlike es fs)
  | _, _ => false

end

mutual

theorem alike_iff (v w : Value) : alike v w = true ↔ v = w := by
  cases v <;> cases w <;> simp [alike]
  · exact allAlike_iff _ _
  · exact allAlike_iff _ _
  · rw [alike_iff, alike_iff]
  · exact entriesAlike_iff _ _
  · exact fun _ => alike_iff _ _

theorem allAlike_iff (vs ws : List Value) : allAlike vs ws = true ↔ vs = ws := by
  cases vs <;> cases ws <;> simp [allAlike]
  · rw [alike_iff, allAlike_iff]

theorem entriesAlike_iff (es fs : List (Value × Value)) : entriesAlike es fs = true ↔ es = fs := by
  match es, fs with
  | [], [] => simp [entriesAlike]
  | [], _ :: _ => simp [entriesAlike]
  | _ :: _, [] => simp [entriesAlike]
  | (k, v) :: es, (l, w) :: fs =>
    simp only [entriesAlike, Bool.and_eq_true, List.cons.injEq, Prod.mk.injEq]
    rw [alike_iff k l, alike_iff v w, entriesAlike_iff es fs, and_assoc]

end

instance : DecidableEq Value := fun v w => decidable_of_iff (alike v w = true) (alike_iff v w)

/-- the name under which the type of a value is reported -/
def typeName : Value → String
  | null => "NoneType"
  | bool _ => "bool"
  | int _ => "int"
  | float _ => "float"
  | text _ => "str"
  | date _ => "date"
  | dateTime _ => "datetime"
  | bytes _ => "bytes"
  | list _ => "list"
  | set _ => "set"
  | pair _ _ => "tuple"
  | mapping _ => "dict"
  | looped _ v => typeName v
  | again _ isList => if isList then "list" else "dict"

/-! ## Loops -/

mutual

/-- put a value in the places where another stands under a label -/
def fill (label : Nat) (whole : Value) : Value → Value
  | again n isList => if n = label then whole else again n isList
  | looped n v => if n = label then looped n v else looped n (fill label whole v)
  | list items => list (fillAll label whole items)
  | pair k v => pair (fill label whole k) (fill label whole v)
  | mapping entries => mapping (fillEntries label whole entries)
  | v => v

def fillAll (label : Nat) (whole : Value) : List Value → List Value
  | [] => []
  | v :: vs => fill label whole v :: fillAll label whole vs

def fillEntries (label : Nat) (whole : Value) : List (Value × Value) → List (Value × Value)
  | [] => []
  | (k, v) :: es => (k, fill label whole v) :: fillEntries label whole es

end

mutual

/-- whether one of some labels is used in a value -/
def mentions (labels : List Nat) : Value → Bool
  | again n _ => labels.contains n
  | looped _ v => mentions labels v
  | list items => anyMentions labels items
  | pair k v => mentions labels k || mentions labels v
  | mapping entries => entriesMention labels entries
  | _ => false

def anyMentions (labels : List Nat) : List Value → Bool
  | [] => false
  | v :: vs => mentions labels v || anyMentions labels vs

def entriesMention (labels : List Nat) : List (Value × Value) → Bool
  | [] => false
  | (_, v) :: es => mentions labels v || entriesMention labels es

end

/-- a value that can be looked into: a list or mapping that holds itself stands in it as a whole -/
def opened : Value → Value
  | looped n v => fill n (looped n v) v
  | v => v

/-! ## Entries -/

/-- whether a value is the given text -/
def isText (v : Value) (s : String) : Bool :=
  match v with
  | text t => t = s
  | _ => false

/-- the entry of a mapping under a text key -/
def lookup? (entries : List (Value × Value)) (key : String) : Option Value :=
  (entries.find? fun e => e.1.isText key).map (·.2)

/-- the entry of a value under a text key, if the value is a mapping that has one -/
def field? (v : Value) (key : String) : Option Value :=
  match v.opened with
  | mapping entries => lookup? entries key
  | _ => none

/-- whether two plain values are one key: numbers and truth values are compared by size, dates with zones by instant; what
is no number is one key -/
def sameKey : Value → Value → Bool
  | null, null => true
  | text s, text t => s = t
  | date d, date e => d = e
  | dateTime d, dateTime e =>
    if d.zone = e.zone then d.wall.ticks = e.wall.ticks
    else match d.instant?, e.instant? with
      | some i, some j => i = j
      | _, _ => false
  | bytes a, bytes b => a = b
  | float x, float y => x = y || x.same y
  | float x, v => match whole? v with
    | some n => x.toInt? = some n
    | none => false
  | v, float x => match whole? v with
    | some n => x.toInt? = some n
    | none => false
  | v, w => match whole? v, whole? w with
    | some m, some n => m = n
    | _, _ => false
where
  /-- the size of a whole number or a truth value -/
  whole? : Value → Option Int
    | int n => some n
    | bool b => some (if b then 1 else 0)
    | _ => none

/-! ## Text -/

/-- numbers as arguments -/
def argumentsText (ns : List Nat) : String := ", ".intercalate (ns.map toString)

/-- a fixed offset as a literal -/
def offsetLiteral (o : Offset) : String :=
  if o.ticks = 0 then "datetime.timezone.utc"
  else
    let span := Fault.spanText o.ticks
    s!"datetime.timezone({span})"

/-- a zone as a literal -/
def zoneLiteral : Zone → String
  | .fixed o => offsetLiteral o
  | .region r => s!"zoneinfo.ZoneInfo(key={Text.quoted r.name})"

/-- a date as a literal -/
def dateTimeLiteral (d : DateTime) : String :=
  let day := d.wall.date
  let time := d.wall.time
  let tail := if time.micro ≠ 0 then [time.second, time.micro]
    else if time.second ≠ 0 then [time.second] else []
  let zone := match d.zone with
    | none => ""
    | some z => s!", tzinfo={zoneLiteral z}"
  let fields := argumentsText ([day.year, day.month, day.day, time.hour, time.minute] ++ tail)
  s!"datetime.datetime({fields}{zone})"

mutual

/-- the text of a value inside the lists and mappings with some labels; one that holds itself is not written out again -/
def writtenIn (around : List Nat) : Value → String
  | null => "None"
  | bool b => if b then "True" else "False"
  | int n => toString n
  | float x => x.text
  | text t => Text.quoted t
  | date d => s!"datetime.date({argumentsText [d.year, d.month, d.day]})"
  | dateTime d => dateTimeLiteral d
  | bytes bs => Text.quotedBytes bs
  | set [] => "set()"
  | set members => "\x7b" ++ ", ".intercalate (allWritten around members) ++ "\x7d"
  | pair k v => "(" ++ writtenIn around k ++ ", " ++ writtenIn around v ++ ")"
  | list items => "[" ++ ", ".intercalate (allWritten around items) ++ "]"
  | mapping entries => "\x7b" ++ ", ".intercalate (entriesWritten around entries) ++ "\x7d"
  | looped n v => if around.contains n then outline v else writtenIn (n :: around) v
  | again n isList => outline (again n isList)
where
  /-- what is written for a list or mapping inside itself -/
  outline : Value → String
    | list _ | again _ true => "[...]"
    | _ => "\x7b...\x7d"

def allWritten (around : List Nat) : List Value → List String
  | [] => []
  | v :: vs => writtenIn around v :: allWritten around vs

def entriesWritten (around : List Nat) : List (Value × Value) → List String
  | [] => []
  | (k, v) :: es => (writtenIn around k ++ ": " ++ writtenIn around v) :: entriesWritten around es

end

mutual

/-- whether there is a whole number in a value that has too many digits to be written -/
def holdsLongNumber : Value → Bool
  | int n => Text.isLong n
  | list items => anyLongNumber items
  | set members => anyLongNumber members
  | pair k v => holdsLongNumber k || holdsLongNumber v
  | mapping entries => entriesLongNumber entries
  | looped _ v => holdsLongNumber v
  | _ => false

def anyLongNumber : List Value → Bool
  | [] => false
  | v :: vs => holdsLongNumber v || anyLongNumber vs

def entriesLongNumber : List (Value × Value) → Bool
  | [] => false
  | (k, v) :: es => holdsLongNumber k || holdsLongNumber v || entriesLongNumber es

end

/-- the text of a value inside another -/
def literal (v : Value) : Except Fault String :=
  if v.holdsLongNumber then .error .numberTooLong else .ok (v.writtenIn [])

/-- the text of a value that stands alone -/
def shown : Value → Except Fault Text
  | text t => .ok t
  | date d => .ok (.ofChars (Timestamp.dateChars d))
  | dateTime d => .ok (.ofChars (Timestamp.charsWith ' ' d))
  | v => v.literal.map Text.ofString

end Value

end Lending
