/-
The tags of YAML nodes, and what a scalar stands for.

`Tag.ofName` knows the tags that have a meaning. `Tag.ofPlain` classifies the text of a plain scalar without a tag: null,
truth value, number, timestamp, and text for everything else. The readers below it give the value of a text under a tag,
which need not be of the class.
-/
import Lending.Document.Value
import Lending.Number.Decimal
import Lending.Text.Base64
import Lending.Text.Caseless
import Lending.Yaml.Failure

namespace Lending.Yaml

open Lending.Text

/-- the kinds of node that have a meaning -/
inductive Tag
  | null
  | bool
  | int
  | float
  | timestamp
  | text
  | binary
  | sequence
  | pairs
  | mapping
  | set
  | merge
  | value
  | unknown
deriving DecidableEq

namespace Tag

/-- the part of a tag's name that all known tags share -/
def namePrefix : String := "tag:yaml.org,2002:"

/-- the tag with a name -/
def ofName (name : List Char) : Tag :=
  let known : List (String × Tag) :=
    [("null", null), ("bool", bool), ("int", int), ("float", float), ("timestamp", timestamp), ("str", text),
      ("binary", binary), ("seq", sequence), ("omap", pairs), ("pairs", pairs), ("map", mapping), ("set", set),
      ("merge", merge), ("value", value)]
  (known.lookup (String.ofList (name.drop namePrefix.length)) |>.filter fun _ =>
    name.take namePrefix.length = namePrefix.toList).getD unknown

/-! ## Forms of text -/

/-- drop a sign -/
def unsigned : List Char → List Char
  | '+' :: rest => rest
  | '-' :: rest => rest
  | cs => cs

def isDecimal (c : Char) : Bool := (asciiDigit? c).isSome

/-- an ASCII digit of a base up to 16 -/
def isDigitIn (base : Nat) (c : Char) : Bool := c.toNat < 0x80 && (valueIn? base c).isSome

/-- digits of a base and underscores, at least one -/
def isDigits (base : Nat) (cs : List Char) : Bool :=
  !cs.isEmpty && cs.all fun c => c = '_' || isDigitIn base c

/-- a decimal digit, and then digits and underscores -/
def isDecimalRun : List Char → Bool
  | [] => false
  | c :: rest => isDecimal c && rest.all fun c => c = '_' || isDecimal c

/-- one or two digits below sixty -/
def isSixtieth : List Char → Bool
  | [c] => isDecimal c
  | [t, c] => '0' ≤ t && t ≤ '5' && isDecimal c
  | _ => false

/-- cut a text at every occurrence of a character -/
def splitAt {α : Type} [DecidableEq α] (sep : α) (cs : List α) : List (List α) :=
  cs.foldr (fun c parts => if c = sep then [] :: parts else match parts with
    | [] => [[c]]
    | p :: ps => (c :: p) :: ps) [[]]

/-- a text as a whole number: binary, octal, hexadecimal, decimal, or in sixties -/
def isInt (cs : List Char) : Bool :=
  match unsigned cs with
  | ['0'] => true
  | '0' :: 'b' :: rest => isDigits 2 rest
  | '0' :: 'x' :: rest => isDigits 16 rest
  | '0' :: rest => isDigits 8 rest
  | cs =>
    match splitAt ':' cs with
    | head :: sixtieths => isDecimalRun head && sixtieths.all isSixtieth
    | [] => false

/-- an exponent with its sign, or nothing -/
def isExponent : List Char → Bool
  | [] => true
  | e :: sign :: digits => (e = 'e' || e = 'E') && (sign = '+' || sign = '-') && !digits.isEmpty && digits.all isDecimal
  | _ => false

/-- digits and underscores, and then an exponent or nothing -/
def isFraction (cs : List Char) : Bool :=
  isExponent (cs.dropWhile fun c => c = '_' || isDecimal c)

/-- a text as a number with a point -/
def isFloat (cs : List Char) : Bool :=
  let word := String.ofList cs
  if [".nan", ".NaN", ".NAN"].contains word then true
  else if [".inf", ".Inf", ".INF"].contains (String.ofList (unsigned cs)) then true
  else match cs with
    | '.' :: rest => rest.head?.any isDecimal && isFraction rest
    | _ =>
      let body := unsigned cs
      let whole := body.takeWhile (· ≠ '.')
      match body.dropWhile (· ≠ '.') with
      | [] => false
      | _ :: rest =>
        match splitAt ':' whole with
        | [head] => isDecimalRun head && isFraction rest
        | head :: sixtieths =>
          isDecimalRun head && sixtieths.all isSixtieth && rest.all fun c => c = '_' || isDecimal c
        | [] => false

/-! ## Timestamps -/

/-- the numbers of a day, and what follows them -/
def dayFields? (cs : List Char) : Option ((Nat × Nat × Nat) × List Char) := do
  let (y, cs) := (cs.takeWhile isDecimal, cs.dropWhile isDecimal)
  let '-' :: cs := cs | none
  let (m, cs) := (cs.takeWhile isDecimal, cs.dropWhile isDecimal)
  let '-' :: cs := cs | none
  let (d, cs) := (cs.takeWhile isDecimal, cs.dropWhile isDecimal)
  if y.length ≠ 4 || 2 < m.length || 2 < d.length then none
  return ((← asciiNumber? y, ← asciiNumber? m, ← asciiNumber? d), cs)

/-- drop the `T` or the blanks between day and time -/
def dropSeparator? : List Char → Option (List Char)
  | 'T' :: rest => some rest
  | 't' :: rest => some rest
  | cs => if cs.head? = some ' ' || cs.head? = some '\t' then some (cs.dropWhile fun c => c = ' ' || c = '\t') else none

/-- the offset at the end of a timestamp in microseconds; nothing for none -/
def offset? (cs : List Char) : Option (Option Int) :=
  match cs.dropWhile (fun c => c = ' ' || c = '\t') with
  | [] => if cs.isEmpty then some none else none
  | ['Z'] => some (some 0)
  | sign :: rest => do
    if sign ≠ '+' && sign ≠ '-' then none
    let hours := rest.takeWhile isDecimal
    let minutes ← match rest.dropWhile isDecimal with
      | [] => pure 0
      | ':' :: ms => if ms.length = 2 then asciiNumber? ms else none
      | _ => none
    if 2 < hours.length then none
    let n : Int := ((← asciiNumber? hours) * ticksPerHour + minutes * ticksPerMinute : Nat)
    return some (if sign = '-' then -n else n)

/-- a fraction of a second in microseconds; places beyond the sixth are dropped -/
def microseconds (digits : List Char) : Nat :=
  ((asciiNumber? ((digits ++ List.replicate 6 '0').take 6)).getD 0)

/-- the numbers of a timestamp; a day alone has no clock -/
def timestampFields? (cs : List Char) : Option ((Nat × Nat × Nat) × Option (Timestamp.ClockFields × Option Int)) := do
  let (day, rest) ← dayFields? cs
  if rest.isEmpty then return (day, none)
  else
    let rest ← dropSeparator? rest
    let hour := rest.takeWhile isDecimal
    if 2 < hour.length then none
    let ':' :: m1 :: m2 :: ':' :: s1 :: s2 :: rest := rest.dropWhile isDecimal | none
    let (micro, rest) := match rest with
      | '.' :: digits => (microseconds (digits.takeWhile isDecimal), digits.dropWhile isDecimal)
      | _ => (0, rest)
    let clock : Timestamp.ClockFields := {
      hour := ← asciiNumber? hour
      minute := ← asciiNumber? [m1, m2]
      second := ← asciiNumber? [s1, s2]
      micro }
    return (day, some (clock, ← offset? rest))

/-- a text as a day or a date; a day alone has all its digits -/
def isTimestamp (cs : List Char) : Bool :=
  match timestampFields? cs with
  | some (_, none) => cs.length = 10
  | some (_, some _) => true
  | none => false

/-- a day or a date, or what is wrong with its numbers -/
def timestampValue (day : Nat × Nat × Nat) (clock : Option (Timestamp.ClockFields × Option Int)) :
    Except Fault Value :=
  match clock with
  | none => (Date.ofFields day.1 day.2.1 day.2.2).map .date
  | some (clock, offset) =>
    (Timestamp.Fields.toDateTime ⟨day.1, day.2.1, day.2.2, clock, offset⟩).map .dateTime

/-! ## Plain scalars -/

/-- the words for truth values -/
def truthWords : List (String × Bool) :=
  [("yes", true), ("no", false), ("true", true), ("false", false), ("on", true), ("off", false)]

/-- a word in lower case, in upper case, or with a capital -/
def isCased (word : String) (cs : List Char) : Bool :=
  let lower := word.toList
  cs = lower || cs = lower.map Char.toUpper || cs = match lower with
    | [] => []
    | c :: rest => c.toUpper :: rest

/-- what the characters of a plain scalar stand for -/
def ofChars (cs : List Char) : Tag :=
  if cs = [] || cs = ['~'] || isCased "null" cs then null
  else if truthWords.any fun w => isCased w.1 cs then bool
  else if isFloat cs then float
  else if isInt cs then int
  else if cs = ['<', '<'] then merge
  else if isTimestamp cs then timestamp
  else if cs = ['='] then value
  else text

/-- the characters of a text, which may end with one line break more -/
def line? (t : Text) : Option (List Char) :=
  t.chars?.map fun cs => if cs.length > 1 && cs.getLast? = some '\n' then cs.dropLast else cs

/-- what a plain scalar stands for -/
def ofPlain (t : Text) : Tag :=
  match line? t with
  | some cs => ofChars cs
  | none => text

/-! ## Values -/

/-- drop a sign; whether it was a minus -/
def takeSign (ps : List Point) : Bool × List Point :=
  match ps with
  | .char '-' :: rest => (true, rest)
  | .char '+' :: rest => (false, rest)
  | _ => (false, ps)

/-- a text without its underscores -/
def withoutUnderscores (t : Text) : List Point := t.points.filter (· ≠ .char '_')

/-- a whole number from its sixties, the largest first -/
def ofSixties (parts : List Int) : Int := parts.foldl (fun n d => n * 60 + d) 0

/-- the whole number that a text gives; one that starts with a zero is octal, and a colon separates sixties -/
def intValue (t : Text) : Except Fault Int := do
  let (negative, body) := takeSign (withoutUnderscores t)
  let n ← match body with
    | [] => .error .textEnded
    | [.char '0'] => pure 0
    | .char '0' :: .char 'b' :: rest => numeral 2 ⟨rest⟩
    | .char '0' :: .char 'x' :: rest => numeral 16 ⟨rest⟩
    | .char '0' :: rest => numeral 8 ⟨.char '0' :: rest⟩
    | body => ofSixties <$> (splitAt (.char ':') body).mapM fun part => numeral 10 ⟨part⟩
  return if negative then -n else n

/-- the decimal that a text gives -/
def decimal (ps : List Point) : Except Fault Binary64 :=
  match Decimal.read? ⟨ps⟩ with
  | some x => .ok x
  | none => .error (.decimalMalformed ⟨ps⟩)

/-- add up sixties, the smallest first, each step rounded -/
def addSixties : Nat → Binary64 → List Binary64 → Except Fault Binary64
  | _, sum, [] => .ok sum
  | base, sum, d :: ds =>
    match Binary64.ofInt base with
    | .finite s u => addSixties (base * 60) (sum + d * .finite s u) ds
    | _ => .error .beyondDouble

/-- the number with a point that a text gives -/
def floatValue (t : Text) : Except Fault Binary64 := do
  let digits := withoutUnderscores t.lower
  if digits.isEmpty then throw .textEnded
  let (negative, body) := takeSign digits
  let word : Text := ⟨body⟩
  let x ← if word = ".inf" then pure (Binary64.infinity false)
    else if word = ".nan" then pure Binary64.nan
    else match splitAt (.char ':') body with
      | [one] => decimal one
      | parts => do addSixties 1 (.finite false 0) (← parts.mapM decimal).reverse
  return if negative then -x else x

/-- the truth value that a word gives -/
def truthValue (t : Text) : Except Fault Bool :=
  match t.lower.string?.bind fun word => truthWords.lookup word with
  | some b => .ok b
  | none => .error (.truthWordUnknown t.lower)

/-- the bytes that a text in ASCII gives in base 64 -/
def binaryValue? (t : Text) : Option (List UInt8) := do
  let cs ← t.chars?
  if cs.all fun c => c.toNat < 0x80 then Base64.decode? cs else none

/-- the value of a text under a tag -/
def scalarValue (tag : Tag) (t : Text) : Except Failure Value :=
  match tag with
  | null => .ok .null
  | bool => faultless ((truthValue t).map .bool)
  | int => faultless ((intValue t).map .int)
  | float => faultless ((floatValue t).map .float)
  | timestamp =>
    match (line? t).bind timestampFields? with
    | some (day, clock) => faultless (timestampValue day clock)
    | none => .error (.fault (.nothingThere "groupdict"))
  | text => .ok (.text t)
  | binary => (readable (binaryValue? t)).map .bytes
  | _ => .error .unreadable

end Tag

end Lending.Yaml
