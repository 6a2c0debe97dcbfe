/-
Reading a text from bytes.

`Utf8.decode` reads UTF-8 and tells where and why it cannot; `readLines` also reads each of the three ways to end a line
as a line feed.
-/
import Lending.Fault

namespace Lending.Text.Utf8

/-- whether a byte continues a character -/
def isContinuation (b : Nat) : Bool := 0x80 ≤ b && b < 0xc0

/-- how many bytes a character takes, by its first byte -/
def size? (b : Nat) : Option Nat :=
  if b < 0x80 then some 1
  else if b < 0xc2 then none
  else if b < 0xe0 then some 2
  else if b < 0xf0 then some 3
  else if b < 0xf5 then some 4
  else none

/-- whether a byte may follow a first byte: longer than needed, surrogate and too large characters are shut out -/
def mayFollow (first second : Nat) : Bool :=
  isContinuation second &&
    (if first = 0xe0 then 0xa0 ≤ second
      else if first = 0xed then second < 0xa0
      else if first = 0xf0 then 0x90 ≤ second
      else if first = 0xf4 then second < 0x90
      else true)

/-- how many of the bytes after a first byte are good, up to the given number -/
def goodAfter (first : Nat) (n : Nat) (bs : List Nat) : Nat :=
  match bs with
  | [] => 0
  | second :: rest =>
    if mayFollow first second then 1 + ((rest.take (n - 1)).takeWhile isContinuation).length else 0

/-- the character of a first byte and those that continue it -/
def character (size first : Nat) (rest : List Nat) : Char :=
  let lead := if size = 1 then first else if size = 2 then first % 32 else if size = 3 then first % 16 else first % 8
  Char.ofNat (rest.foldl (fun n b => n * 64 + b % 64) lead)

/-- the fault of bytes that make no character -/
def fault (position count : Nat) (first : Nat) (reason : String) : Fault :=
  if count = 1 then .invalidByte first position reason
  else .invalidBytes position (position + count - 1) reason

/-- the characters of bytes from a position on -/
def decodeFrom (position : Nat) (bs : List Nat) : Except Fault (List Char) :=
  match bs with
  | [] => .ok []
  | first :: rest =>
    match size? first with
    | none => .error (fault position 1 first "invalid start byte")
    | some size =>
      let good := if size = 1 then 0 else goodAfter first (size - 1) rest
      if good + 1 = size then do
        return character size first (rest.take good) :: (← decodeFrom (position + size) (rest.drop good))
      else if rest.length = good then .error (fault position (good + 1) first "unexpected end of data")
      else .error (fault position (good + 1) first "invalid continuation byte")
termination_by bs.length
decreasing_by simp only [List.length_drop, List.length_cons]; omega

/-- the characters of bytes -/
def decode (bs : List UInt8) : Except Fault (List Char) := decodeFrom 0 (bs.map (·.toNat))

/-- the text with every line ended by a line feed -/
def lineFeeds : List Char → List Char
  | [] => []
  | '\r' :: '\n' :: rest => '\n' :: lineFeeds rest
  | '\r' :: rest => '\n' :: lineFeeds rest
  | c :: rest => c :: lineFeeds rest

/-- the text that bytes hold -/
def readLines (bs : List UInt8) : Except Fault (List Char) := (decode bs).map lineFeeds

end Lending.Text.Utf8
