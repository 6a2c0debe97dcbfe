/-
A place in a YAML text.

A `Cursor` holds the characters that are left, with the line and column of the next one. Lines end with any of the five
line breaks of YAML 1.1; a carriage return with a line feed behind it is one break.
-/
namespace Lending.Yaml

/-- whether a character may stand in a YAML text -/
def isAllowed (c : Char) : Bool :=
  let n := c.toNat
  n == 0x09 || n == 0x0a || n == 0x0d || (0x20 ≤ n && n ≤ 0x7e) || n == 0x85 || (0xa0 ≤ n && n ≤ 0xd7ff) ||
    (0xe000 ≤ n && n ≤ 0xfffd) || 0x10000 ≤ n

/-- whether a character breaks a line -/
def isBreak (c : Char) : Bool := c = '\n' || c = '\r' || c = '\u0085' || c = '\u2028' || c = '\u2029'

/-- whether a character is a space, a tab or a line break -/
def isGap (c : Char) : Bool := c = ' ' || c = '\t' || isBreak c

/-- whether a character may stand in the name of an anchor or a directive -/
def isNameChar (c : Char) : Bool := c.isAlphanum || c = '-' || c = '_'

/-- a place in a text -/
structure Cursor where
  rest : List Char
  index : Nat := 0
  line : Nat := 0
  column : Nat := 0

namespace Cursor

def next? (c : Cursor) : Option Char := c.rest.head?

/-- the character a number of places ahead -/
def peek? (c : Cursor) (n : Nat) : Option Char := c.rest[n]?

/-- whether the text ends or a class of characters goes on -/
def endsOr (p : Char → Bool) : Option Char → Bool
  | none => true
  | some c => p c

/-- whether the text ends or a gap follows, a number of places ahead -/
def gapAt (c : Cursor) (n : Nat) : Bool := endsOr isGap (c.peek? n)

/-- whether the text ends, its line does, or a space follows -/
def atSpaceOrLineEnd (c : Cursor) : Bool := endsOr (fun ch => ch = ' ' || isBreak ch) c.next?

/-- go one character on -/
def step (c : Cursor) : Cursor :=
  match c.rest with
  | [] => c
  | ch :: rest =>
    let newLine := if ch = '\r' then rest.head? != some '\n' else isBreak ch
    { rest
      index := c.index + 1
      line := if newLine then c.line + 1 else c.line
      column := if newLine then 0 else if ch = '\ufeff' then c.column else c.column + 1 }

/-- go some characters on -/
def forward : Nat → Cursor → Cursor
  | 0, c => c
  | n + 1, c => forward n c.step

/-- pass over a class of characters -/
def skip (p : Char → Bool) (c : Cursor) : Cursor := c.forward (c.rest.takeWhile p).length

/-- the next characters of a class, and the place behind them -/
def take (p : Char → Bool) (c : Cursor) : List Char × Cursor := (c.rest.takeWhile p, c.skip p)

/-- pass over spaces -/
def skipSpaces (c : Cursor) : Cursor := c.skip (· = ' ')

/-- pass over spaces and a comment -/
def skipComment (c : Cursor) : Cursor :=
  let c := c.skipSpaces
  if c.next? = some '#' then c.skip (!isBreak ·) else c

/-- a line break as it counts in text, and the place behind it -/
def lineBreak? (c : Cursor) : Option (Char × Cursor) :=
  match c.rest with
  | '\r' :: '\n' :: _ => some ('\n', c.forward 2)
  | ch :: _ =>
    if ch = '\u2028' || ch = '\u2029' then some (ch, c.step)
    else if isBreak ch then some ('\n', c.step)
    else none
  | [] => none

/-- the place behind the rest of a line that may hold a comment only -/
def endLine? (c : Cursor) : Option Cursor :=
  let c := c.skipComment
  match c.lineBreak? with
  | some (_, c) => some c
  | none => if c.rest.isEmpty then some c else none

/-- whether three equal characters that mark a document stand here, with a gap behind them -/
def marks (c : Cursor) (ch : Char) : Bool :=
  c.rest.take 3 = [ch, ch, ch] && c.gapAt 3

/-- whether a document mark stands here -/
def atDocumentMark (c : Cursor) : Bool := c.marks '-' || c.marks '.'

end Cursor

end Lending.Yaml
