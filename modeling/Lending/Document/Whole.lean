/-
Whole numbers in documents that are given as text.

White space may stand around the number and a sign before it; single underscores may stand between its digits, and a point
with zeros behind them. A number may start with zeros and underscores, which do not count; a minus sign may also stand
behind those zeros.
-/
import Lending.Text.Blank
import Lending.Text.Numeral

namespace Lending.Whole

/-- why a text gives no whole number -/
inductive Issue
  | spelling
  /-- more digits, with the sign, than a numeral may have -/
  | size
deriving DecidableEq

def isDigit (c : Char) : Bool := (Text.asciiDigit? c).isSome

/-- whether a number may go on with a character behind leading zeros -/
def isLead (c : Char) : Bool := c = '-' || (isDigit c && c ≠ '0')

/-- what counts behind a leading zero, the character before being given: a last one and one before a point count -/
def behindZero? (last : Char) : List Char → Option (List Char)
  | [] => some [last]
  | c :: rest =>
    if c = '0' || c = '_' then behindZero? c rest
    else if c = '.' then some (last :: c :: rest)
    else if isLead c then some (c :: rest)
    else none

/-- a number without the zeros that it starts with -/
def dropZeros? : List Char → Option (List Char)
  | [] => none
  | c :: rest =>
    if c = '0' then behindZero? c rest
    else if isLead c then some (c :: rest)
    else none

/-- a number without a point and zeros at its end -/
def dropPlaces (cs : List Char) : List Char :=
  match cs.dropWhile (· ≠ '.') with
  | _ :: z :: zeros => if (z :: zeros).all (· = '0') then cs.takeWhile (· ≠ '.') else cs
  | _ => cs

/-- whether two underscores stand side by side -/
def hasDouble : List Char → Bool
  | '_' :: '_' :: _ => true
  | _ :: rest => hasDouble rest
  | [] => false

/-- a number without its underscores, if each of them stands alone between others -/
def dropUnderscores (cs : List Char) : List Char :=
  if cs.head? = some '_' || cs.getLast? = some '_' || hasDouble cs then cs else cs.filter (· ≠ '_')

/-- a number in digits, with a minus sign or without, that starts with a zero only if it is zero -/
def ofDigits (cs : List Char) : Except Issue Int :=
  let (negative, body) := match cs with
    | '-' :: rest => (true, rest)
    | _ => (false, cs)
  let digits := body.takeWhile isDigit
  if digits.head? = some '0' && 1 < digits.length then .error .spelling
  else if Text.numeralLimit < digits.length + cs.length - body.length then .error .size
  else if digits.length < body.length then .error .spelling
  else match Text.asciiNumber? digits with
    | some n => .ok (if negative then -n else n)
    | none => .error .spelling

/-- the number that a text gives -/
def ofChars (cs : List Char) : Except Issue Int :=
  let cs := Text.trimBy Text.isWhiteSpace cs
  let (sign, body) := match cs with
    | '-' :: rest => (['-'], rest)
    | '+' :: '-' :: rest => ([], '+' :: '-' :: rest)
    | '+' :: rest => ([], rest)
    | rest => ([], rest)
  match dropZeros? body with
  | none => .error .spelling
  | some number => ofDigits (sign ++ dropUnderscores (dropPlaces number))

end Lending.Whole
