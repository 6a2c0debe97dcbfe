/-
Decimals in text.

`Decimal.read?` reads a number with or without a point and an exponent, or one of the words for infinity and for what is no
number. White space may stand around it, and its digits may be of any script.
-/
import Lending.Number.Binary64
import Lending.Text.Blank
import Lending.Text.Digit

namespace Lending.Decimal

/-- a decimal digit of any script as the ASCII one of the same value -/
def asciiDigit (c : Char) : Char :=
  match Text.decimal? c with
  | some d => Char.ofNat (0x30 + d)
  | none => c

def isDigit (c : Char) : Bool := (Text.asciiDigit? c).isSome

/-- drop a sign; whether it was a minus -/
def takeSign : List Char → Bool × List Char
  | '-' :: rest => (true, rest)
  | '+' :: rest => (false, rest)
  | cs => (false, cs)

/-- the exponent at the end of a decimal, zero for none -/
def exponent? : List Char → Option Int
  | [] => some 0
  | e :: rest => do
    if e ≠ 'e' && e ≠ 'E' then none
    let (negative, digits) := takeSign rest
    let n : Int := ← Text.asciiNumber? digits
    return if negative then -n else n

/-- the number that characters give, the nearest one to what they say -/
def ofChars? (cs : List Char) : Option Binary64 := do
  let (negative, body) := takeSign cs
  let word := String.ofList (body.map Char.toLower)
  if word = "inf" || word = "infinity" then return .infinity negative
  if word = "nan" then return .nan
  let whole := body.takeWhile isDigit
  let (places, rest) := match body.dropWhile isDigit with
    | '.' :: rest => (rest.takeWhile isDigit, rest.dropWhile isDigit)
    | rest => ([], rest)
  return .ofDecimal negative (← Text.asciiNumber? (whole ++ places)) ((← exponent? rest) - places.length)

/-- the number that a text gives -/
def read? (t : Text) : Option Binary64 :=
  t.chars?.bind fun cs => ofChars? ((Text.trimBy Text.isWhiteSpace cs).map asciiDigit)

end Lending.Decimal
