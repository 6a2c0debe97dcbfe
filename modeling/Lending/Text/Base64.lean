/-
Reading bytes from base 64.

Four characters of the alphabet give three bytes. Other characters do not count. Equals signs stand for the characters that
a last group lacks; where they complete it, nothing is read beyond them.
-/
namespace Lending.Text.Base64

/-- the six bits that a character of the alphabet stands for -/
def sixBits? (c : Char) : Option Nat :=
  if 'A' ≤ c && c ≤ 'Z' then some (c.toNat - 0x41)
  else if 'a' ≤ c && c ≤ 'z' then some (c.toNat - 0x61 + 26)
  else if '0' ≤ c && c ≤ '9' then some (c.toNat - 0x30 + 52)
  else if c = '+' then some 62
  else if c = '/' then some 63
  else none

/-- the bytes of characters; `place` is how many characters of a group have been read, `left` the bits of them that are
not in a byte yet, and `signs` how many equals signs stand for others -/
def decodeFrom (place left signs : Nat) : List Char → Option (List UInt8)
  | [] => if place = 0 then some [] else none
  | c :: cs =>
    if c = '=' then
      if place < 2 then decodeFrom place left signs cs
      else if 4 ≤ place + signs + 1 then some []
      else decodeFrom place left (signs + 1) cs
    else match sixBits? c with
      | none => decodeFrom place left signs cs
      | some n =>
        if place = 0 then decodeFrom 1 n 0 cs
        else
          let bits := left * 64 + n
          let rest := 4 ^ (3 - place)
          (UInt8.ofNat (bits / rest) :: ·) <$> decodeFrom ((place + 1) % 4) (bits % rest) 0 cs

/-- the bytes that characters give, if the groups are complete -/
def decode? (cs : List Char) : Option (List UInt8) := decodeFrom 0 0 0 cs

end Lending.Text.Base64
