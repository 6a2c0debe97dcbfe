/-
Timestamps: the ISO 8601 text of a date.

`Timestamp.text` writes a date: the day, a `T`, the time with six places of a second or none, and the offset if there is
one. `Timestamp.parse` reads the calendar and week forms of a day, extended or compact, then any one character and a time
with an optional offset. A final `Z` is read as `+00:00`.
-/
import Lending.Text.Blank
import Lending.Text.Digit
import Lending.Time.DateTime

namespace Lending.Timestamp

open Lending.Text

/-! ## Writing -/

/-- a number in decimal, of exactly the given width -/
def pad : Nat → Nat → List Char
  | 0, _ => []
  | w + 1, n => pad w (n / 10) ++ [Char.ofNat (0x30 + n % 10)]

/-- a day as `YYYY-MM-DD` -/
def dateChars (d : Date) : List Char := pad 4 d.year ++ '-' :: pad 2 d.month ++ '-' :: pad 2 d.day

/-- six places of a second after a point, or nothing for none -/
def fractionChars (micro : Nat) : List Char := if micro = 0 then [] else '.' :: pad 6 micro

/-- a time as `HH:MM:SS[.ffffff]` -/
def timeChars (t : TimeOfDay) : List Char :=
  pad 2 t.hour ++ ':' :: pad 2 t.minute ++ ':' :: pad 2 t.second ++ fractionChars t.micro

/-- an offset in microseconds as `+HH:MM[:SS[.ffffff]]` -/
def offsetChars (o : Int) : List Char :=
  let n := o.natAbs
  let tail := if n % ticksPerMinute = 0 then []
    else ':' :: pad 2 (n / ticksPerSecond % 60) ++ fractionChars (n % ticksPerSecond)
  (if o < 0 then '-' else '+') :: pad 2 (n / ticksPerHour) ++ ':' :: pad 2 (n / ticksPerMinute % 60) ++ tail

/-- the offset of a date, or nothing without a zone -/
def zoneChars (d : DateTime) : List Char :=
  match d.offset? with
  | none => []
  | some o => offsetChars o

/-- a date with the given character between day and time -/
def charsWith (separator : Char) (d : DateTime) : List Char :=
  dateChars d.wall.date ++ separator :: timeChars d.wall.time ++ zoneChars d

/-- the timestamp of a date -/
def text (d : DateTime) : String := String.ofList (charsWith 'T' d)

/-! ## Reading -/

/-- the number in the next characters, all of which must be digits, and what follows them -/
def digits? (n : Nat) (cs : List Char) : Option (Nat × List Char) :=
  if cs.length < n then none else (asciiNumber? (cs.take n)).map (·, cs.drop n)

/-- whether a character is an ASCII digit -/
def isAsciiDigit (c : Char) : Bool := (asciiDigit? c).isSome

/-- how many characters at the start make up the day -/
def dayLength? (cs : List Char) : Option Nat :=
  let at? (i : Nat) (c : Char) := cs[i]? == some c
  if cs.length < 7 then none
  else if cs.length = 7 then some 7
  else if at? 4 '-' then
    if at? 5 'W' then
      if at? 8 '-' then
        if cs.length = 9 then none
        else if (cs[10]?).any isAsciiDigit then some 8
        else some 10
      else some 8
    else some 10
  else if at? 4 'W' then
    let stop := 7 + ((cs.drop 7).takeWhile isAsciiDigit).length
    if stop < 9 then some stop else if stop % 2 = 0 then some 7 else some 8
  else some 8

/-- whether a year has 53 weeks: it starts on a Thursday, or on a Wednesday and is a leap year -/
def hasLongYear (y : Nat) : Bool :=
  let first := daysBeforeYear y % 7
  first == 3 || (first == 2 && isLeap y)

/-- the number of the Monday on which the first week of a year starts, with 7 added -/
def weekOneMonday (y : Nat) : Nat :=
  let first := daysBeforeYear y
  let monday := first + 7 - first % 7
  if first % 7 ≤ 3 then monday else monday + 7

/-- year, month and day of a day given by week; a day before year 1 has no month -/
def ofWeek? (y week day : Nat) : Option (Nat × Nat × Nat) :=
  if week = 0 ∨ 53 < week ∨ (week = 53 ∧ !hasLongYear y) ∨ day = 0 ∨ 7 < day then none
  else if y = 0 then some (1, 0, day)
  else
    let n := weekOneMonday y + (week - 1) * 7 + (day - 1) - 7
    if h : n < dayCount then
      let d := Date.ofOrdinal n h
      some (d.year, d.month, d.day)
    else some (10000, 1, 1)

/-- drop a hyphen where the extended form has one -/
def hyphen? (extended : Bool) (cs : List Char) : Option (List Char) :=
  if !extended then some cs
  else match cs with
    | '-' :: rest => some rest
    | _ => none

/-- year, month and day of the text of a day -/
def readDay? (cs : List Char) : Option (Nat × Nat × Nat) := do
  let (y, cs) ← digits? 4 cs
  let extended := cs.head? == some '-'
  let cs := if extended then cs.tail else cs
  if cs.head? == some 'W' then
    let (week, cs) ← digits? 2 cs.tail
    if cs.isEmpty then ofWeek? y week 1
    else
      let cs ← hyphen? extended cs
      let (day, _) ← digits? 1 cs
      ofWeek? y week day
  else
    let (m, cs) ← digits? 2 cs
    let cs ← hyphen? extended cs
    let (d, cs) ← digits? 2 cs
    if cs.isEmpty then some (y, m, d) else none

/-- hours, minutes, seconds and microseconds as they are written -/
structure ClockFields where
  hour : Nat
  minute : Nat := 0
  second : Nat := 0
  micro : Nat := 0
deriving DecidableEq

/-- whether a text has ended: nothing is left, or a NUL -/
def ended : List Char → Bool
  | [] => true
  | c :: _ => c = '\x00'

/-- up to six places of a second in microseconds; whether nothing but digits is left -/
def readFraction? (cs : List Char) : Option (Nat × Bool) := do
  let n := min 6 cs.length
  let (value, rest) ← digits? n cs
  return (value * Nat.pow 10 (6 - n), ended (rest.dropWhile isAsciiDigit))

/-- what follows a field of two digits: the end, the next field, or the fraction -/
inductive FieldEnd
  | finish (clean : Bool)
  | field (colons : Bool) (rest : List Char)
  | fraction (rest : List Char)

/-- classify what follows a field; colons are used throughout or not at all; one ASCII character may be left over -/
def fieldEnd? (colons : Option Bool) : List Char → Option FieldEnd
  | [] => some (.finish true)
  | [c] => if c.toNat < 0x80 then some (.finish (c = '\x00')) else none
  | c :: rest =>
    let colons := colons.getD (c = ':')
    if colons && c = ':' then some (.field true rest)
    else if c = '.' ∨ c = ',' then some (.fraction rest)
    else if !colons then some (.field false (c :: rest))
    else none

/-- the fields of a time, and whether they take up the whole text -/
def readClock? (cs : List Char) : Option (ClockFields × Bool) := do
  let (h, cs) ← digits? 2 cs
  match ← fieldEnd? none cs with
  | .finish clean => return (⟨h, 0, 0, 0⟩, clean)
  | .fraction rest =>
    let (us, clean) ← readFraction? rest
    return (⟨h, 0, 0, us⟩, clean)
  | .field colons rest =>
    let (m, cs) ← digits? 2 rest
    match ← fieldEnd? (some colons) cs with
    | .finish clean => return (⟨h, m, 0, 0⟩, clean)
    | .fraction rest =>
      let (us, clean) ← readFraction? rest
      return (⟨h, m, 0, us⟩, clean)
    | .field _ rest =>
      let (s, cs) ← digits? 2 rest
      match ← fieldEnd? (some colons) cs with
      | .finish clean => return (⟨h, m, s, 0⟩, clean)
      | .fraction rest | .field _ rest =>
        let (us, clean) ← readFraction? rest
        return (⟨h, m, s, us⟩, clean)

/-- whether a character starts an offset -/
def startsOffset (c : Char) : Bool := c = '+' || c = '-' || c = 'Z'

/-- an offset in microseconds; a part of a second alone is none at all -/
def ClockFields.offsetTicks (negative : Bool) (f : ClockFields) : Int :=
  let seconds := f.hour * 3600 + f.minute * 60 + f.second
  let ticks : Int := if seconds = 0 then 0 else (seconds * ticksPerSecond + f.micro : Nat)
  if negative then -ticks else ticks

/-- a time and its offset in microseconds, if it has one -/
def readTime? (cs : List Char) : Option (ClockFields × Option Int) := do
  let (fields, clean) ← readClock? (cs.takeWhile (!startsOffset ·))
  match cs.dropWhile (!startsOffset ·) with
  | [] => if clean then some (fields, none) else none
  | 'Z' :: rest => if ended rest then some (fields, some 0) else none
  | c :: rest =>
    let (offset, clean) ← readClock? rest
    if clean then some (fields, some (offset.offsetTicks (c = '-'))) else none

/-- the numbers in a timestamp -/
structure Fields where
  year : Nat
  month : Nat
  day : Nat
  clock : ClockFields
  offset : Option Int
deriving DecidableEq

/-- the numbers in a timestamp, if it has the form of one -/
def readFields? (cs : List Char) : Option Fields := do
  let n ← dayLength? cs
  let (y, m, d) ← readDay? (cs.take n)
  match cs.drop n with
  | [] => return ⟨y, m, d, ⟨0, 0, 0, 0⟩, none⟩
  | _ :: rest =>
    let (clock, offset) ← readTime? rest
    return ⟨y, m, d, clock, offset⟩

/-- the date that the numbers give, or what is wrong with them -/
def Fields.toDateTime (f : Fields) : Except Fault DateTime := do
  let zone ← f.offset.mapM Offset.ofTicks
  let date ← Date.ofFields f.year f.month f.day
  let time ← TimeOfDay.ofFields f.clock.hour f.clock.minute f.clock.second f.clock.micro
  return ⟨Wall.of date time, zone.map .fixed, false⟩

/-- a final `Z` written as an offset -/
def zuluOffset (t : Text) : Text :=
  match t.points.getLast? with
  | some (.char 'Z') | some (.char 'z') => ⟨t.points.dropLast⟩ ++ Text.ofString "+00:00"
  | _ => t

/-- the places in which the character between day and time may stand -/
def separatorPlaces : List Nat := [7, 8, 10]

/-- the characters of a timestamp; a surrogate in the first such place that has one counts as a `T` -/
def timestampChars? (t : Text) : Option (List Char) :=
  match separatorPlaces.find? fun i => (t.points[i]?).any (·.char?.isNone) with
  | some i => Text.chars? ⟨t.points.set i (.char 'T')⟩
  | none => t.chars?

/-- the date that a text gives as it is -/
def parseText (t : Text) : Except Fault DateTime :=
  let t := trim t
  if t.isEmpty then .error .timestampEmpty
  else
    let t := zuluOffset t
    match (timestampChars? t).bind readFields? with
    | none => .error (.timestampMalformed t)
    | some f => f.toDateTime

/-- the date that a text gives; the zone, if given, is for a text without an offset -/
def parse (t : Text) (zone : Option Zone := none) : Except Fault DateTime := do
  let d ← parseText t
  return match zone with
  | none => d
  | some z => d.ensureAware z

end Lending.Timestamp
