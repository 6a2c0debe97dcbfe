/-
Numerals: whole numbers in text.

`numeral` reads a number in a base. White space may stand around it, a sign and then the mark of the base before its digits,
and the decimal digits among them may be of any script.
-/
import Lending.Fault
import Lending.Text.Blank
import Lending.Text.Digit

namespace Lending.Text

/-- the most digits that a decimal numeral may have -/
def numeralLimit : Nat := 4300

/-- the least number that has more digits than a decimal numeral may have -/
def leastLong : Nat := Nat.pow 10 numeralLimit

/-- whether a whole number has more digits than a decimal numeral may have -/
def isLong (n : Int) : Bool := leastLong ≤ n.natAbs

/-- the value of a digit of a base up to 16, a decimal digit or a letter -/
def valueIn? (base : Nat) (c : Char) : Option Nat :=
  let v := if 'a' ≤ c ∧ c ≤ 'f' then some (c.toNat - 0x57)
    else if 'A' ≤ c ∧ c ≤ 'F' then some (c.toNat - 0x37)
    else decimal? c
  v.filter (· < base)

/-- the letters that may follow a zero to mark a base -/
def baseMarks (base : Nat) : List Char :=
  if base = 2 then ['b', 'B']
  else if base = 8 then ['o', 'O']
  else if base = 16 then ['x', 'X']
  else []

/-- drop the mark of a base -/
def dropMark (base : Nat) (ps : List Point) : List Point :=
  match ps with
  | .char '0' :: .char mark :: rest => if (baseMarks base).contains mark then rest else ps
  | _ => ps

/-- the number that a numeral in a base denotes -/
def numeral (base : Nat) (t : Text) : Except Fault Int :=
  let (negative, body) := match trimBy (Point.isA isWhiteSpace) t.points with
    | .char '-' :: rest => (true, rest)
    | .char '+' :: rest => (false, rest)
    | rest => (false, rest)
  let digits := (dropMark base body).map fun p => p.char?.bind (valueIn? base)
  let known := (digits.takeWhile Option.isSome).length
  if base = 10 && numeralLimit < known then .error (.numeralTooLong known)
  else match digits.mapM id with
    | some (d :: ds) =>
      let n : Int := ofDigits base (d :: ds)
      .ok (if negative then -n else n)
    | _ => .error (.numeralMalformed t base)

end Lending.Text
