/-
Texts.

A `Text` is a sequence of Unicode code points. Ids, names and messages are texts and not strings, because an escape in a
document may name a surrogate, a code point that stands for no character; such a point is kept as it is and is never joined
with its neighbour. A string counts as the text of its characters.
-/
namespace Lending

/-- one code point -/
inductive Point
  | char (c : Char)
  /-- a surrogate, by its distance from the first of them -/
  | surrogate (n : Fin 0x800)
deriving DecidableEq

namespace Point

/-- the number of a code point -/
def code : Point → Nat
  | char c => c.toNat
  | surrogate n => 0xd800 + n

/-- the code point with a number below U+110000 -/
def ofCode (n : Nat) : Point :=
  if 0xd800 ≤ n ∧ n < 0xe000 then .surrogate (Fin.ofNat 0x800 (n - 0xd800)) else .char (Char.ofNat n)

/-- the character that a code point stands for -/
def char? : Point → Option Char
  | char c => some c
  | surrogate _ => none

/-- whether a code point stands for a character of a class -/
def isA (p : Char → Bool) : Point → Bool
  | char c => p c
  | surrogate _ => false

end Point

/-- a sequence of code points -/
structure Text where
  points : List Point := []
deriving DecidableEq

namespace Text

/-- the text of some characters -/
def ofChars (cs : List Char) : Text := ⟨cs.map .char⟩

/-- the text of a string -/
def ofString (s : String) : Text := ofChars s.toList

instance : Coe String Text := ⟨ofString⟩

instance : Inhabited Text := ⟨{}⟩

instance : Append Text := ⟨fun s t => ⟨s.points ++ t.points⟩⟩

def isEmpty (t : Text) : Bool := t.points.isEmpty

/-- the characters of a text, if each of its code points stands for one -/
def chars? (t : Text) : Option (List Char) := t.points.mapM Point.char?

/-- the string that a text is, if each of its code points stands for a character -/
def string? (t : Text) : Option String := t.chars?.map String.ofList

/-- the text with every character of it replaced by others -/
def replaceChars (f : Char → List Char) (t : Text) : Text :=
  ⟨t.points.flatMap fun
    | .char c => (f c).map .char
    | p => [p]⟩

/-- texts in a row, with another between them -/
def join (separator : Text) : List Text → Text
  | [] => {}
  | [t] => t
  | t :: u :: rest => t ++ separator ++ join separator (u :: rest)

/-- whether one row of code points comes before another -/
def pointsBefore : List Point → List Point → Bool
  | [], [] => false
  | [], _ :: _ => true
  | _ :: _, [] => false
  | p :: ps, q :: qs => if p = q then pointsBefore ps qs else p.code < q.code

/-- whether one text comes before another: by the first code point in which they differ -/
def before (s t : Text) : Bool := pointsBefore s.points t.points

@[simp] theorem points_append (s t : Text) : (s ++ t).points = s.points ++ t.points := rfl

theorem chars?_ofChars (cs : List Char) : (ofChars cs).chars? = some cs := by
  induction cs with
  | nil => rfl
  | cons c cs ih =>
    unfold chars? ofChars at *
    simp only [List.map_cons, List.mapM_cons, Point.char?, ih]
    rfl

/-- a text begins with the character that its string begins with -/
theorem head?_ofString {s : String} {c : Char} {cs : List Char} (h : s = String.ofList (c :: cs)) (t : String) :
    (ofString (s ++ t)).points.head? = some (.char c) := by
  subst h
  simp [ofString, ofChars]

end Text

end Lending
