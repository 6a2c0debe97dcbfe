/-
Why a computation cannot go on.

A `Fault` is a cause outside the lending rules: a date beyond the calendar, a text that is no number, two things that
have no order. `Fault.kind` and `Fault.message` are its class and wording, each said once.
-/
import Lending.Text.Quoted

namespace Lending

/-- the class of a fault -/
inductive FaultKind
  | overflow
  | value
  | type
  | runtime
  | decode
  | index
  | key
  | attribute
deriving DecidableEq, Repr

/-- the name under which a class of fault is reported -/
def FaultKind.name : FaultKind → String
  | .overflow => "OverflowError"
  | .value => "ValueError"
  | .type => "TypeError"
  | .runtime => "RuntimeError"
  | .decode => "UnicodeDecodeError"
  | .index => "IndexError"
  | .key => "KeyError"
  | .attribute => "AttributeError"

/-- a cause that stops a computation -/
inductive Fault
  /-- a date before year 1 or after year 9999 -/
  | dateOutOfRange
  /-- a span of more days than a span may have -/
  | spanTooLong (days : Int)
  /-- a number of days beyond 32 bits -/
  | daysBeyondWord
  /-- a year outside 1 to 9999 -/
  | yearOutOfRange (year : Int)
  /-- a year beyond 32 bits -/
  | yearBeyondWord
  /-- a year beyond 64 bits -/
  | yearBeyondLong
  /-- a number too large to be rounded to double precision -/
  | beyondDouble
  /-- a period added to no date -/
  | periodWithoutDate
  /-- a range asked about no date -/
  | rangeWithoutDate
  /-- no date compared with a date -/
  | dateMissing
  /-- a date without a zone compared with one that has a zone -/
  | zoneMissing
  /-- two values that have no order, by the names of their types -/
  | noOrder (left right : String)
  /-- a day compared with a date -/
  | dayAgainstDate
  | timestampEmpty
  | timestampMalformed (text : Text)
  | monthOutOfRange
  | dayOutOfRange
  | hourOutOfRange
  | minuteOutOfRange
  | secondOutOfRange
  /-- an offset of a day or more, in microseconds -/
  | offsetOutOfRange (ticks : Int)
  /-- a text that is no numeral in a base -/
  | numeralMalformed (text : Text) (base : Nat)
  | numeralTooLong (digits : Nat)
  /-- a whole number with more digits than a numeral may have -/
  | numberTooLong
  /-- a text that is no decimal with a point -/
  | decimalMalformed (text : Text)
  /-- a text that is no word for a truth value -/
  | truthWordUnknown (text : Text)
  /-- a number at or above U+110000 in place of a code point -/
  | codeOutOfRange
  /-- a number beyond 32 bits in place of a code point -/
  | codeBeyondWord
  /-- a character asked of a text that has ended -/
  | textEnded
  | unknownItemStatus (text : Text)
  | unknownRequestStatus (text : Text)
  /-- a list in place of a text -/
  | listForText
  /-- something asked of a record that is not there -/
  | nothingThere (name : String)
  | noHomeDirectory
  /-- a byte that cannot stand where it does in UTF-8 -/
  | invalidByte (byte position : Nat) (reason : String)
  /-- bytes from one position to another that do not make a character in UTF-8 -/
  | invalidBytes (first last : Nat) (reason : String)
deriving DecidableEq

namespace Fault

/-- the class of a fault -/
def kind : Fault → FaultKind
  | dateOutOfRange | spanTooLong _ | daysBeyondWord | yearBeyondWord | yearBeyondLong | beyondDouble => .overflow
  | codeBeyondWord => .overflow
  | periodWithoutDate | rangeWithoutDate | dateMissing | zoneMissing | noOrder _ _ | dayAgainstDate => .type
  | listForText => .type
  | noHomeDirectory => .runtime
  | invalidByte _ _ _ | invalidBytes _ _ _ => .decode
  | textEnded => .index
  | truthWordUnknown _ => .key
  | nothingThere _ => .attribute
  | _ => .value

/-- a span of time given by its sign and size: days, then seconds and microseconds within the last day -/
def spanText (ticks : Int) : String :=
  let days := Int.fdiv ticks 86400000000
  let rest := (Int.fmod ticks 86400000000).toNat
  let part (name : String) (n : Nat) := if n = 0 then [] else [s!"{name}={n}"]
  let parts := (if days = 0 then [] else [s!"days={days}"]) ++ part "seconds" (rest / 1000000) ++
    part "microseconds" (rest % 1000000)
  let arguments := if parts.isEmpty then "0" else ", ".intercalate parts
  s!"datetime.timedelta({arguments})"

/-- the first characters of a quoted text, as many as a message about a numeral shows -/
def shownNumeral (text : Text) : String := String.ofList ((Text.quotedChars text).take 200)

/-- the wording of a fault -/
def message : Fault → String
  | dateOutOfRange => "date value out of range"
  | spanTooLong days => s!"days={days}; must have magnitude <= 999999999"
  | daysBeyondWord => "Python int too large to convert to C int"
  | yearOutOfRange year => s!"year {year} is out of range"
  | yearBeyondWord => "signed integer is greater than maximum"
  | yearBeyondLong => "Python int too large to convert to C long"
  | beyondDouble => "int too large to convert to float"
  | periodWithoutDate => "unsupported operand type(s) for +: 'NoneType' and 'relativedelta'"
  | rangeWithoutDate => "'<' not supported between instances of 'datetime.datetime' and 'NoneType'"
  | dateMissing => "'>' not supported between instances of 'NoneType' and 'datetime.datetime'"
  | zoneMissing => "can't compare offset-naive and offset-aware datetimes"
  | noOrder left right => s!"'<' not supported between instances of '{left}' and '{right}'"
  | dayAgainstDate => "can't compare datetime.datetime to datetime.date"
  | timestampEmpty => "timestamp is empty"
  | timestampMalformed text => s!"Invalid isoformat string: {Text.quoted text}"
  | monthOutOfRange => "month must be in 1..12"
  | dayOutOfRange => "day is out of range for month"
  | hourOutOfRange => "hour must be in 0..23"
  | minuteOutOfRange => "minute must be in 0..59"
  | secondOutOfRange => "second must be in 0..59"
  | offsetOutOfRange ticks =>
    "offset must be a timedelta strictly between -timedelta(hours=24) and timedelta(hours=24), not " ++
      spanText ticks ++ "."
  | numeralMalformed text base => s!"invalid literal for int() with base {base}: {shownNumeral text}"
  | numeralTooLong digits =>
    s!"Exceeds the limit (4300 digits) for integer string conversion: value has {digits} digits; " ++
      "use sys.set_int_max_str_digits() to increase the limit"
  | numberTooLong =>
    "Exceeds the limit (4300 digits) for integer string conversion; " ++
      "use sys.set_int_max_str_digits() to increase the limit"
  | decimalMalformed text => s!"could not convert string to float: {Text.quoted text}"
  | truthWordUnknown text => Text.quoted text
  | codeOutOfRange => "chr() arg not in range(0x110000)"
  | codeBeyondWord => "Python int too large to convert to C int"
  | textEnded => "string index out of range"
  | unknownItemStatus text => s!"{Text.quoted text} is not a valid ItemStatus"
  | unknownRequestStatus text => s!"{Text.quoted text} is not a valid RequestStatus"
  | listForText => "expected string or bytes-like object, got 'list'"
  | nothingThere name => s!"'NoneType' object has no attribute '{name}'"
  | noHomeDirectory => "Could not determine home directory."
  | invalidByte byte position reason =>
    s!"'utf-8' codec can't decode byte 0x{String.ofList (Text.hex 2 byte)} in position {position}: {reason}"
  | invalidBytes first last reason =>
    s!"'utf-8' codec can't decode bytes in position {first}-{last}: {reason}"

/-- a fault as it is reported when it is caught -/
def report (f : Fault) : String := s!"{f.kind.name}: {f.message}"

end Fault

end Lending
