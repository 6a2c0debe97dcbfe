/-
White space as Unicode counts it, and trimming.

`isBlank` is the class that trimming a text removes: the characters with the property White_Space and the four
information separators. `trim` drops them from both ends.
-/
import Lending.Text.Basic

namespace Lending.Text

/-- the characters with the Unicode property White_Space -/
def isWhiteSpace (c : Char) : Bool :=
  let n := c.toNat
  (0x09 ≤ n && n ≤ 0x0d) || n == 0x20 || n == 0x85 || n == 0xa0 || n == 0x1680 || (0x2000 ≤ n && n ≤ 0x200a) ||
    n == 0x2028 || n == 0x2029 || n == 0x202f || n == 0x205f || n == 0x3000

/-- white space, or one of the information separators U+001C to U+001F -/
def isBlank (c : Char) : Bool :=
  isWhiteSpace c || (0x1c ≤ c.toNat && c.toNat ≤ 0x1f)

/-- drop what belongs to a class from both ends of a list -/
def trimBy {α : Type} (p : α → Bool) (xs : List α) : List α :=
  ((xs.dropWhile p).reverse.dropWhile p).reverse

/-- drop the blanks at both ends -/
def trim (t : Text) : Text := ⟨trimBy (Point.isA isBlank) t.points⟩

end Lending.Text
