/-
The three ways to write a scalar in YAML: block, quoted and plain.

Each reader gives the text of the scalar and the place behind it. Line breaks inside are folded: one becomes a space, of
more the first is dropped. An escape between double quotes may give any code point, also a surrogate.
-/
import Lending.Text.Digit
import Lending.Yaml.Cursor
import Lending.Yaml.Failure

namespace Lending.Yaml

/-! ## Block scalars -/

/-- what becomes of the line breaks at the end of a block scalar -/
inductive Chomping
  | strip
  | clip
  | keep
deriving DecidableEq

/-- a chomping indicator -/
def chomping? : Char → Option Chomping
  | '+' => some .keep
  | '-' => some .strip
  | _ => none

/-- an indentation indicator -/
def increment? (c : Char) : Option Nat := (Text.asciiDigit? c).filter (· ≠ 0)

/-- the indicators of a block scalar, in either order -/
def blockIndicators (c : Cursor) : Chomping × Option Nat × Cursor :=
  match c.next?.bind chomping? with
  | some ch =>
    let c := c.step
    match c.next?.bind increment? with
    | some n => (ch, some n, c.step)
    | none => (ch, none, c)
  | none =>
    match c.next?.bind increment? with
    | some n =>
      let c := c.step
      match c.next?.bind chomping? with
      | some ch => (ch, some n, c.step)
      | none => (.clip, some n, c)
    | none => (.clip, none, c)

/-- the empty lines before a block scalar of unknown indentation: their breaks and the widest indentation met -/
def blockIndentation : Nat → Cursor → List Char → Nat → List Char × Nat × Cursor
  | 0, c, breaks, widest => (breaks, widest, c)
  | fuel + 1, c, breaks, widest =>
    match c.lineBreak? with
    | some (b, c) => blockIndentation fuel c (breaks ++ [b]) widest
    | none =>
      if c.next? = some ' ' then blockIndentation fuel c.step breaks (max widest c.step.column)
      else (breaks, widest, c)

/-- pass over at most the spaces of an indentation -/
def skipIndent (indent : Nat) (c : Cursor) : Cursor :=
  c.forward ((c.rest.take (indent - c.column)).takeWhile (· = ' ')).length

/-- the empty lines inside a block scalar -/
def blockBreaks (indent : Nat) : Nat → Cursor → List Char → List Char × Cursor
  | 0, c, breaks => (breaks, c)
  | fuel + 1, c, breaks =>
    let c := skipIndent indent c
    match c.lineBreak? with
    | some (b, c) => blockBreaks indent fuel c (breaks ++ [b])
    | none => (breaks, c)

/-- whether a space or a tab follows -/
def atBlank (c : Cursor) : Bool := c.next? = some ' ' || c.next? = some '\t'

/-- the lines of a block scalar: its text, the last line break, the empty lines behind, and the place behind -/
def blockLines (folded : Bool) (indent : Nat) :
    Nat → Cursor → List Char → List Char → List Char × List Char × List Char × Cursor
  | 0, c, text, breaks => (text, [], breaks, c)
  | fuel + 1, c, text, breaks =>
    let text := text ++ breaks
    let leadingNonSpace := !atBlank c
    let (line, c) := c.take (!isBreak ·)
    let text := text ++ line
    let (lineBreak, c) := match c.lineBreak? with
      | some (b, c) => ([b], c)
      | none => ([], c)
    let (breaks, c) := blockBreaks indent (c.rest.length + 1) c []
    if c.column = indent && !c.rest.isEmpty then
      let joint :=
        if folded && lineBreak = ['\n'] && leadingNonSpace && !atBlank c then
          if breaks.isEmpty then [' '] else []
        else lineBreak
      blockLines folded indent fuel c (text ++ joint) breaks
    else (text, lineBreak, breaks, c)

/-- a block scalar behind its first character, inside a block with an indentation -/
def blockScalar? (folded : Bool) (indent : Int) (c : Cursor) : Option (List Char × Cursor) := do
  let (chomping, increment, c) := blockIndicators c
  if !c.atSpaceOrLineEnd then none
  let c ← c.endLine?
  let least := (max (indent + 1) 1).toNat
  let (breaks, width, c) := match increment with
    | none =>
      let (breaks, widest, c) := blockIndentation (c.rest.length + 1) c [] 0
      (breaks, max least widest, c)
    | some n =>
      let width := least + n - 1
      let (breaks, c) := blockBreaks width (c.rest.length + 1) c []
      (breaks, width, c)
  let (text, lineBreak, breaks, c) :=
    if c.column = width && !c.rest.isEmpty then blockLines folded width (c.rest.length + 1) c [] breaks
    else ([], [], breaks, c)
  let ending := match chomping with
    | .strip => []
    | .clip => lineBreak
    | .keep => lineBreak ++ breaks
  return (text ++ ending, c)

/-! ## Quoted scalars -/

/-- the character that an escape of one letter stands for -/
def escape? : Char → Option Char
  | '0' => some '\x00'
  | 'a' => some '\x07'
  | 'b' => some '\x08'
  | 't' => some '\t'
  | '\t' => some '\t'
  | 'n' => some '\n'
  | 'v' => some '\x0b'
  | 'f' => some '\x0c'
  | 'r' => some '\r'
  | 'e' => some '\x1b'
  | ' ' => some ' '
  | '"' => some '"'
  | '\\' => some '\\'
  | '/' => some '/'
  | 'N' => some '\u0085'
  | '_' => some '\u00a0'
  | 'L' => some '\u2028'
  | 'P' => some '\u2029'
  | _ => none

/-- how many hexadecimal digits follow the letter of an escape -/
def escapeWidth? : Char → Option Nat
  | 'x' => some 2
  | 'u' => some 4
  | 'U' => some 8
  | _ => none

/-- the value of a hexadecimal digit -/
def hexValue? (c : Char) : Option Nat :=
  if '0' ≤ c ∧ c ≤ '9' then some (c.toNat - 0x30)
  else if 'a' ≤ c ∧ c ≤ 'f' then some (c.toNat - 0x57)
  else if 'A' ≤ c ∧ c ≤ 'F' then some (c.toNat - 0x37)
  else none

/-- the code that an escape gives in hexadecimal -/
def hexCode? (width : Nat) (cs : List Char) : Option Nat := do
  if cs.length < width then none
  return Text.ofDigits 16 (← (cs.take width).mapM hexValue?)

/-- the code point that an escape gives in hexadecimal -/
def hexEscape (width : Nat) (cs : List Char) : Except Failure Point :=
  match hexCode? width cs with
  | none => .error .unreadable
  | some code =>
    if code < 0x110000 then .ok (.ofCode code)
    else .error (.fault (if code < Nat.pow 2 31 then .codeOutOfRange else .codeBeyondWord))

/-- the breaks of empty lines inside a quoted scalar, where no document may begin or end -/
def quotedBreaks? : Nat → Cursor → List Char → Option (List Char × Cursor)
  | 0, c, breaks => some (breaks, c)
  | fuel + 1, c, breaks =>
    if c.atDocumentMark then none
    else
      let c := c.skip fun ch => ch = ' ' || ch = '\t'
      match c.lineBreak? with
      | some (b, c) => quotedBreaks? fuel c (breaks ++ [b])
      | none => some (breaks, c)

/-- the text that a line break and the empty lines behind it fold to -/
def folded (lineBreak : Char) (breaks : List Char) : List Char :=
  if lineBreak ≠ '\n' then lineBreak :: breaks
  else if breaks.isEmpty then [' ']
  else breaks

/-- whether a character stands for itself in either kind of quotes -/
def isQuotable (ch : Char) : Bool := !(ch = '\'' || ch = '"' || ch = '\\' || isGap ch)

/-- what an escape behind its backslash gives: a code point, or nothing for the breaks of lines that are joined by it -/
def escaped (c : Cursor) : Except Failure (List Point × Cursor) := do
  let ch ← readable c.next?
  match escape? ch, escapeWidth? ch with
  | some e, _ => return ([.char e], c.step)
  | none, some width => return ([← hexEscape width c.step.rest], c.step.forward width)
  | none, none =>
    let (_, c) ← readable c.lineBreak?
    let (breaks, c) ← readable (quotedBreaks? (c.rest.length + 1) c [])
    return (breaks.map .char, c)

/-- a quoted scalar behind its opening quote -/
def quotedScalar (double : Bool) : Nat → Cursor → List Point → Except Failure (Text × Cursor)
  | 0, _, _ => .error .unreadable
  | fuel + 1, c, text =>
    let (plain, c) := c.take isQuotable
    let text := text ++ plain.map .char
    match c.rest with
    | [] => .error .unreadable
    | ch :: after =>
      if !double && ch = '\'' then
        if after.head? = some '\'' then quotedScalar double fuel (c.forward 2) (text ++ [.char '\''])
        else .ok (⟨text⟩, c.step)
      else if double && ch = '"' then .ok (⟨text⟩, c.step)
      else if double && ch = '\\' then do
        let (points, c) ← escaped c.step
        quotedScalar double fuel c (text ++ points)
      else if isGap ch then
        let (blanks, c) := c.take fun ch => ch = ' ' || ch = '\t'
        match c.lineBreak? with
        | some (b, c) => do
          let (breaks, c) ← readable (quotedBreaks? (c.rest.length + 1) c [])
          quotedScalar double fuel c (text ++ (folded b breaks).map .char)
        | none =>
          if c.rest.isEmpty then .error .unreadable else quotedScalar double fuel c (text ++ blanks.map .char)
      else quotedScalar double fuel c.step (text ++ [.char ch])

/-! ## Plain scalars -/

/-- whether a character sets the parts of a flow collection apart -/
def isFlowMark (ch : Char) : Bool := ch = ',' || ch = '[' || ch = ']' || ch = '\x7b' || ch = '\x7d'

/-- how many characters a plain scalar goes on without a gap -/
def plainLength (flow : Bool) : List Char → Nat
  | [] => 0
  | ch :: rest =>
    let valueFollows := match rest with
      | [] => true
      | after :: _ => isGap after || (flow && isFlowMark after)
    if isGap ch || (ch = ':' && valueFollows) || (flow && (isFlowMark ch || ch = '?')) then 0
    else plainLength flow rest + 1

/-- the breaks of empty lines inside a plain scalar; nothing if a document mark ends it -/
def plainBreaks? : Nat → Cursor → List Char → Option (List Char) × Cursor
  | 0, c, breaks => (some breaks, c)
  | fuel + 1, c, breaks =>
    if c.next? = some ' ' then plainBreaks? fuel c.step breaks
    else match c.lineBreak? with
      | some (b, c) => if c.atDocumentMark then (none, c) else plainBreaks? fuel c (breaks ++ [b])
      | none => (some breaks, c)

/-- the gap between two parts of a plain scalar, nothing if it ends there; whether the line was broken -/
def plainGap (c : Cursor) : Option (List Char) × Bool × Cursor :=
  let (spaces, c) := c.take (· = ' ')
  match c.lineBreak? with
  | none => (if spaces.isEmpty then none else some spaces, false, c)
  | some (b, c) =>
    if c.atDocumentMark then (none, true, c)
    else
      let (breaks, c) := plainBreaks? (c.rest.length + 1) c []
      (breaks.map (folded b), true, c)

/-- a plain scalar; whether it ends at the beginning of a line -/
def plainScalar (flow : Bool) (indent : Int) : Nat → Cursor → List Char → List Char × Bool × Cursor
  | 0, c, text => (text, false, c)
  | fuel + 1, c, text =>
    let n := plainLength flow c.rest
    let part := c.rest.take n
    let text := text ++ part
    let (gap, newLine, after) := plainGap (c.forward n)
    match gap with
    | none => (text, newLine, after)
    | some gap =>
      let m := plainLength flow after.rest
      if after.next? = some '#' || (!flow && (after.column : Int) < indent + 1) || m = 0 then (text, newLine, after)
      else plainScalar flow indent fuel after (text ++ gap)

end Lending.Yaml
