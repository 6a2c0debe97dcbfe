/-
Numbers of double precision.

Every finite one is a whole multiple of `2 ^ -1074`, so it is kept as a sign and the number of such units. `round` gives
the nearest one to a fraction, an exact half going to the even neighbour; reading a decimal and arithmetic go through it.
-/
namespace Lending

/-- a number of double precision; the finite ones count units of 2 ^ -1074 -/
inductive Binary64
  | nan
  | infinity (negative : Bool)
  | finite (negative : Bool) (units : Nat)
deriving DecidableEq, Inhabited

namespace Binary64

/-- how many units make one -/
def one : Nat := Nat.pow 2 1074

/-- the first multiple of a unit that is beyond the finite range -/
def limit : Nat := Nat.pow 2 2098

/-- the nearest whole number to a fraction, an exact half going to the even neighbour -/
def roundDiv (num den : Nat) : Nat :=
  let q := num / den
  let r := num % den
  if 2 * r < den then q
  else if den < 2 * r then q + 1
  else if q % 2 = 0 then q else q + 1

/-- the units of the nearest number with 53 significant bits -/
def roundUnits (num den : Nat) : Nat :=
  let n := num * one
  let shift := (n / den).log2 - 52
  roundDiv n (den * Nat.pow 2 shift) * Nat.pow 2 shift

/-- the nearest number to a fraction -/
def round (negative : Bool) (num den : Nat) : Binary64 :=
  let u := roundUnits num den
  if u < limit then .finite negative u else .infinity negative

/-- the nearest number to a whole number -/
def ofInt (n : Int) : Binary64 := round (n < 0) n.natAbs 1

/-- how many decimal digits a number has -/
def digitCount (n : Nat) : Nat := (Nat.toDigits 10 n).length

/-- the nearest number to `digits * 10 ^ exponent` -/
def ofDecimal (negative : Bool) (digits : Nat) (exponent : Int) : Binary64 :=
  let top := digitCount digits + exponent
  if digits = 0 ∨ top < -330 then .finite negative 0
  else if 310 < top then .infinity negative
  else if exponent < 0 then round negative digits (Nat.pow 10 exponent.natAbs)
  else round negative (digits * Nat.pow 10 exponent.natAbs) 1

def neg : Binary64 → Binary64
  | .nan => .nan
  | .infinity s => .infinity !s
  | .finite s u => .finite (!s) u

instance : Neg Binary64 := ⟨neg⟩

/-- the units of a finite number with their sign -/
def signed (negative : Bool) (units : Nat) : Int := if negative then -units else units

/-- the nearest number to a sum -/
def add : Binary64 → Binary64 → Binary64
  | .nan, _ => .nan
  | _, .nan => .nan
  | .infinity s, .infinity t => if s = t then .infinity s else .nan
  | .infinity s, _ => .infinity s
  | _, .infinity t => .infinity t
  | .finite s u, .finite t v =>
    let n := signed s u + signed t v
    if n = 0 then .finite (s && t) 0 else round (n < 0) n.natAbs one

/-- the nearest number to a product -/
def mul : Binary64 → Binary64 → Binary64
  | .nan, _ => .nan
  | _, .nan => .nan
  | .infinity s, .infinity t => .infinity (s != t)
  | .infinity s, .finite t v => if v = 0 then .nan else .infinity (s != t)
  | .finite s u, .infinity t => if u = 0 then .nan else .infinity (s != t)
  | .finite s u, .finite t v => round (s != t) (u * v) (one * one)

instance : Add Binary64 := ⟨add⟩
instance : Mul Binary64 := ⟨mul⟩

/-- the whole number that this is, if it is one -/
def toInt? : Binary64 → Option Int
  | .finite s u => if u % one = 0 then some (signed s (u / one)) else none
  | _ => none

/-- whether the number is less than a whole number -/
def ltInt (x : Binary64) (n : Int) : Bool :=
  match x with
  | .nan => false
  | .infinity s => s
  | .finite s u => signed s u < n * one

/-- whether the number is greater than a whole number -/
def gtInt (x : Binary64) (n : Int) : Bool :=
  match x with
  | .nan => false
  | .infinity s => !s
  | .finite s u => n * one < signed s u

/-- whether one number is less than another; not a number is in no order -/
def less : Binary64 → Binary64 → Bool
  | .infinity s, .infinity t => s && !t
  | .infinity s, .finite _ _ => s
  | .finite _ _, .infinity t => !t
  | .finite s u, .finite t v => signed s u < signed t v
  | _, _ => false

/-- whether two numbers are equal: not a number differs from itself, and the two zeros are one -/
def same : Binary64 → Binary64 → Bool
  | .infinity s, .infinity t => s == t
  | .finite s u, .finite t v => signed s u == signed t v
  | _, _ => false

end Binary64

end Lending
