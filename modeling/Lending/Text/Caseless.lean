/-
Spellings that differ only in case.

`lower` and `upper` are the case maps of Unicode on the characters whose image is made of ASCII letters; every other
character is left as it is. A comparison with an ASCII word therefore answers as the full case maps would.
-/
import Lending.Text.Basic

namespace Lending.Text

/-- the lower-case form of a character, where it is an ASCII letter -/
def lowerChar (c : Char) : Char :=
  if c.toNat = 0x212a then 'k' else c.toLower

/-- the upper-case form of a character, where it is made of ASCII letters -/
def upperChar (c : Char) : List Char :=
  match c.toNat with
  | 0x131 => ['I']
  | 0x17f => ['S']
  | 0xdf => ['S', 'S']
  | 0xfb00 => ['F', 'F']
  | 0xfb01 => ['F', 'I']
  | 0xfb02 => ['F', 'L']
  | 0xfb03 => ['F', 'F', 'I']
  | 0xfb04 => ['F', 'F', 'L']
  | 0xfb05 => ['S', 'T']
  | 0xfb06 => ['S', 'T']
  | _ => [c.toUpper]

/-- a text in lower case -/
def lower (t : Text) : Text := t.replaceChars fun c => [lowerChar c]

/-- a text in upper case -/
def upper (t : Text) : Text := t.replaceChars upperChar

end Lending.Text
