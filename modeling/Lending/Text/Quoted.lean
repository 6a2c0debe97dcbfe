/-
Texts and bytes written as quoted literals.

Single quotes are preferred; double quotes are taken for a text that holds a single quote and no double one. The quote
in use, the backslash and everything that is not printable are escaped, so that a literal is a string.
-/
import Lending.Text.Basic
import Lending.Text.Printable

namespace Lending.Text

/-- one hexadecimal digit in lower case -/
def hexDigit (n : Nat) : Char :=
  if n < 10 then Char.ofNat (0x30 + n) else Char.ofNat (0x57 + n)

/-- a number in hexadecimal, of exactly the given width -/
def hex : Nat → Nat → List Char
  | 0, _ => []
  | w + 1, n => hex w (n / 16) ++ [hexDigit (n % 16)]

/-- one character inside a literal with the given quote -/
def escapedChar (quote c : Char) : List Char :=
  if c = quote ∨ c = '\\' then ['\\', c]
  else if c = '\t' then ['\\', 't']
  else if c = '\n' then ['\\', 'n']
  else if c = '\r' then ['\\', 'r']
  else if isPrintable c then [c]
  else if c.toNat ≤ 0xff then '\\' :: 'x' :: hex 2 c.toNat
  else if c.toNat ≤ 0xffff then '\\' :: 'u' :: hex 4 c.toNat
  else '\\' :: 'U' :: hex 8 c.toNat

/-- one code point inside a literal with the given quote; a surrogate is always escaped -/
def escapedPoint (quote : Char) : Point → List Char
  | .char c => escapedChar quote c
  | .surrogate n => '\\' :: 'u' :: hex 4 (0xd800 + n)

/-- the quote that a literal of this text takes -/
def quoteFor (t : Text) : Char :=
  if t.points.contains (.char '\'') && !t.points.contains (.char '"') then '"' else '\''

/-- the characters of a text as a quoted literal -/
def quotedChars (t : Text) : List Char :=
  let q := quoteFor t
  q :: t.points.flatMap (escapedPoint q) ++ [q]

/-- a text as a quoted literal -/
def quoted (t : Text) : String := String.ofList (quotedChars t)

/-- one byte inside a literal with the given quote; one that is no ASCII character is always escaped -/
def escapedByte (quote : Char) (b : UInt8) : List Char :=
  if b.toNat < 0x7f then escapedChar quote (Char.ofNat b.toNat) else '\\' :: 'x' :: hex 2 b.toNat

/-- bytes as a quoted literal -/
def quotedBytes (bs : List UInt8) : String :=
  let q := if bs.contains 0x27 && !bs.contains 0x22 then '"' else '\''
  String.ofList ('b' :: q :: bs.flatMap (escapedByte q) ++ [q])

end Lending.Text
