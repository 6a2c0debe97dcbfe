/-
The decimal text of a number of double precision.

`shortest?` finds the fewest digits that read back as the number, and of those the nearest to it. `Binary64.text` writes
them positionally between `1e-05` and `1e+16` and with an exponent of at least two digits otherwise.
-/
import Lending.Number.Binary64

namespace Lending.Binary64

/-- the exponent `k` with `10 ^ (k - 1) ≤ num / den < 10 ^ k` -/
def decimalExponent (num den : Nat) : Int :=
  if den ≤ num then digitCount (num / den)
  else 1 - digitCount ((den + num - 1) / num - 1)

/-- the number of decimal steps `10 ^ -places` in a fraction, rounded down, and what is left over as a fraction -/
def steps (num den : Nat) (places : Int) : Nat × Nat × Nat :=
  let n := if places < 0 then num else num * Nat.pow 10 places.natAbs
  let d := if places < 0 then den * Nat.pow 10 places.natAbs else den
  (n / d, n % d, d)

/-- whether the decimal reads back as the number with these units -/
def readsBack (units digits : Nat) (exponent : Int) : Bool :=
  ofDecimal false digits exponent = .finite false units

/-- the digits on a decimal grid that read back, the nearer of the two neighbours first -/
def onGrid? (units : Nat) (places : Int) : Option Nat :=
  let (lo, rest, d) := steps units one places
  let below := readsBack units lo (-places)
  let above := readsBack units (lo + 1) (-places)
  let preferBelow := 2 * rest < d || (2 * rest == d && lo % 2 == 0)
  if below && (preferBelow || !above) then some lo
  else if above then some (lo + 1)
  else none

/-- drop the zeros at the end of a number, counting them -/
def dropZeros : Nat → Nat → Int → Nat × Int
  | 0, n, e => (n, e)
  | fuel + 1, n, e => if n ≠ 0 ∧ n % 10 = 0 then dropZeros fuel (n / 10) (e + 1) else (n, e)

/-- the fewest digits that read back, with their exponent -/
def shortest (units : Nat) : Nat × Int :=
  let k := decimalExponent units one
  let found := (List.range 17).findSome? fun n =>
    let places : Int := (n + 1 : Nat) - k
    (onGrid? units places).map fun digits => dropZeros 20 digits (-places)
  found.getD (0, 0)

/-- digits with the point at the given place, or with an exponent when the point would be far away -/
def place (digits : List Char) (exponent : Int) : List Char :=
  let point : Int := digits.length + exponent
  let zeros (n : Nat) := List.replicate n '0'
  if -4 < point ∧ point ≤ 16 then
    if point ≤ 0 then '0' :: '.' :: zeros point.natAbs ++ digits
    else if exponent < 0 then digits.take point.toNat ++ '.' :: digits.drop point.toNat
    else digits ++ zeros exponent.toNat ++ ['.', '0']
  else
    let e := point - 1
    let size := Nat.toDigits 10 e.natAbs
    let head := match digits with
      | [] => []
      | d :: [] => [d]
      | d :: ds => d :: '.' :: ds
    head ++ 'e' :: (if e < 0 then '-' else '+') :: zeros (2 - size.length) ++ size

/-- the decimal text of a number -/
def text : Binary64 → String
  | .nan => "nan"
  | .infinity s => if s then "-inf" else "inf"
  | .finite s u =>
    let cs := if u = 0 then "0.0".toList else
      let (digits, e) := shortest u
      place (Nat.toDigits 10 digits) e
    String.ofList (if s then '-' :: cs else cs)

end Lending.Binary64
