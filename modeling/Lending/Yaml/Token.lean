/-
The tokens of a YAML text.

`Token.scan` cuts a text into tokens. Indentation opens and closes blocks. A key is known only by the colon behind it, so
each place where a key may have begun is remembered until the line ends, and the tokens that open the key are put there
when the colon comes. Where a text cannot be cut any further, the last token is `broken` and says why; before it stand the
tokens that were settled by then, those in front of every place where a key may still have begun.
-/
import Lending.Text.Numeral
import Lending.Text.Utf8
import Lending.Yaml.Scalar

namespace Lending.Yaml

/-- a token -/
inductive Token
  | versionDirective (major : Nat)
  | tagDirective (handle start : List Char)
  | otherDirective
  | documentStart
  | documentEnd
  | blockSequenceStart
  | blockMappingStart
  | blockEnd
  | flowSequenceStart
  | flowSequenceEnd
  | flowMappingStart
  | flowMappingEnd
  | blockEntry
  | flowEntry
  | key
  | value
  | alias (name : List Char)
  | anchor (name : List Char)
  | tag (handle : Option (List Char)) (suffix : List Char)
  | scalar (text : Text) (plain : Bool)
  | broken (f : Failure)
deriving DecidableEq

/-- a place where a key may have begun -/
structure KeyPlace where
  /-- how many tokens stand before it -/
  slot : Nat
  /-- whether nothing but a key may stand here -/
  required : Bool
  index : Nat
  line : Nat
  column : Nat

/-- how far a text has been cut -/
structure Scanner where
  cursor : Cursor
  /-- the tokens found, each with those put before it -/
  slots : Array (List Token) := #[]
  /-- how many flow collections are open -/
  depth : Nat := 0
  /-- the indentation of the block that is open, and of those around it -/
  indent : Int := -1
  outer : List Int := []
  /-- whether a key may begin here -/
  keyAllowed : Bool := true
  /-- the place where a key may have begun, for each depth -/
  keys : List (Nat × KeyPlace) := []

namespace Scanner

def push (t : Token) (s : Scanner) : Scanner := { s with slots := s.slots.push [t] }

/-- a token of some characters -/
def pushOver (n : Nat) (t : Token) (s : Scanner) : Scanner := { s.push t with cursor := s.cursor.forward n }

def inFlow (s : Scanner) : Bool := s.depth ≠ 0

/-! ## Indentation -/

/-- close the blocks that are indented further than a column -/
def unwind (column : Int) (s : Scanner) : Scanner :=
  if s.inFlow then s else go s.outer s
where
  go : List Int → Scanner → Scanner
    | [], s => s
    | previous :: outer, s =>
      if column < s.indent then go outer { s.push .blockEnd with indent := previous, outer } else s

/-- open a block at a column if it is indented further than the one that is open -/
def indentTo (column : Nat) (s : Scanner) : Bool × Scanner :=
  if s.indent < column then (true, { s with outer := s.indent :: s.outer, indent := column }) else (false, s)

/-! ## Places of keys -/

/-- the place at this depth where a key may have begun -/
def keyPlace? (s : Scanner) : Option KeyPlace := s.keys.lookup s.depth

/-- forget the place at this depth; it must not be one where a key is required -/
def dropKey? (s : Scanner) : Option Scanner :=
  if s.keyPlace?.any (·.required) then none
  else some { s with keys := s.keys.filter (·.1 ≠ s.depth) }

/-- forget the places on earlier lines and far behind; none of them may be one where a key is required -/
def dropStaleKeys? (s : Scanner) : Option Scanner :=
  let isStale (k : KeyPlace) := k.line ≠ s.cursor.line || 1024 < s.cursor.index - k.index
  if s.keys.any fun k => isStale k.2 && k.2.required then none
  else some { s with keys := s.keys.filter fun k => !isStale k.2 }

/-- remember that a key may begin here -/
def saveKey? (s : Scanner) : Option Scanner :=
  if s.keyAllowed then do
    let s ← s.dropKey?
    let c := s.cursor
    let place : KeyPlace :=
      ⟨s.slots.size, !s.inFlow && s.indent = c.column, c.index, c.line, c.column⟩
    return { s with keys := (s.depth, place) :: s.keys }
  else some s

/-! ## Tokens -/

/-- pass over spaces, comments and line breaks; outside flow collections a key may begin on a new line -/
def toNextToken : Nat → Scanner → Scanner
  | 0, s => s
  | fuel + 1, s =>
    let c := s.cursor.skipComment
    match c.lineBreak? with
    | some (_, c) => toNextToken fuel { s with cursor := c, keyAllowed := s.keyAllowed || !s.inFlow }
    | none => { s with cursor := c }

/-- a token that ends all open blocks -/
def atDocumentLevel? (s : Scanner) : Option Scanner := do
  let s ← (s.unwind (-1)).dropKey?
  return { s with keyAllowed := false }

/-- digits and the number they make -/
def number (c : Cursor) : Except Failure (Nat × Cursor) := do
  let (digits, c) := c.take fun ch => (Text.asciiDigit? ch).isSome
  if Text.numeralLimit < digits.length then throw (.fault (.numeralTooLong digits.length))
  return (← readable (Text.asciiNumber? digits), c)

/-- whether a character may stand in a tag -/
def isTagChar (ch : Char) : Bool := ch.isAlphanum || "-;/?:@&=+$,_.!~*'()[]%".toList.contains ch

/-- the characters of a tag, with escaped bytes spelled out -/
def tagText? (c : Cursor) : Option (List Char × Cursor) := do
  let (raw, c) := c.take isTagChar
  if raw.isEmpty then none
  return (← unescaped? (raw.length + 1) raw, c)
where
  /-- the bytes that percent signs and two hexadecimal digits give at the start, and what follows them -/
  escapes? : Nat → List Char → Option (List Nat × List Char)
    | fuel + 1, '%' :: rest => do
      let code ← hexCode? 2 rest
      let (codes, after) ← escapes? fuel (rest.drop 2)
      return (code :: codes, after)
    | _, cs => some ([], cs)
  /-- spell out escaped bytes -/
  unescaped? : Nat → List Char → Option (List Char)
    | 0, _ => none
    | _, [] => some []
    | fuel + 1, '%' :: rest => do
      let (codes, after) ← escapes? (fuel + 1) ('%' :: rest)
      return (← (Text.Utf8.decodeFrom 0 codes).toOption) ++ (← unescaped? fuel after)
    | fuel + 1, ch :: rest => do return ch :: (← unescaped? fuel rest)

/-- the handle at the start of a tag: one exclamation mark, or two around a name -/
def tagHandle? (c : Cursor) : Option (List Char × Cursor) :=
  if c.next? ≠ some '!' then none
  else if c.peek? 1 = some ' ' then some (['!'], c.step)
  else
    let (name, after) := c.step.take isNameChar
    if after.next? = some '!' then some ('!' :: name ++ ['!'], after.step) else none

/-- a directive behind its percent sign -/
def directive (c : Cursor) : Except Failure (Token × Cursor) := do
  let (name, c) := c.take isNameChar
  if name.isEmpty || !c.atSpaceOrLineEnd then throw .unreadable
  let (token, c) ←
    if name = "YAML".toList then do
      let (major, c) ← number c.skipSpaces
      if c.next? ≠ some '.' then throw .unreadable
      let (_, c) ← number c.step
      pure (Token.versionDirective major, c)
    else if name = "TAG".toList then do
      let (handle, c) ← readable (tagHandle? c.skipSpaces)
      if c.next? ≠ some ' ' then throw .unreadable
      let (start, c) ← readable (tagText? c.skipSpaces)
      pure (Token.tagDirective handle start, c)
    else pure (Token.otherDirective, c.skip (!isBreak ·))
  if !c.atSpaceOrLineEnd then throw .unreadable
  return (token, ← readable c.endLine?)

/-- the name of an anchor or alias behind its first character -/
def name? (c : Cursor) : Option (List Char × Cursor) :=
  let (name, after) := c.take isNameChar
  let mayFollow (ch : Char) := isGap ch || "?:,]\x7d%@\x60".toList.contains ch
  if name.isEmpty || !Cursor.endsOr mayFollow after.next? then none else some (name, after)

/-- a tag -/
def tag? (c : Cursor) : Option (Token × Cursor) := do
  let (token, c) ←
    if c.peek? 1 = some '<' then do
      let (suffix, c) ← tagText? (c.forward 2)
      if c.next? ≠ some '>' then none
      pure (Token.tag none suffix, c.step)
    else if c.gapAt 1 then pure (Token.tag none ['!'], c.step)
    else do
      let word := c.rest.tail.takeWhile fun ch => !(ch = ' ' || isBreak ch)
      let (handle, c) ← if word.contains '!' then tagHandle? c else pure (['!'], c.step)
      let (suffix, c) ← tagText? c
      pure (Token.tag (some handle) suffix, c)
  if c.atSpaceOrLineEnd then return (token, c) else none

/-- a token that may begin a key and behind which no other may begin -/
def pushKeyed? (read : Cursor → Option (Token × Cursor)) (s : Scanner) : Option Scanner := do
  let s ← s.saveKey?
  let (token, c) ← read s.cursor
  return { s.push token with keyAllowed := false, cursor := c }

/-- a quoted scalar, which may begin a key and behind which no other may begin -/
def pushQuoted (double : Bool) (s : Scanner) : Except Failure Scanner := do
  let s ← readable s.saveKey?
  let (text, c) ← quotedScalar double (s.cursor.rest.length + 1) s.cursor.step []
  return { s.push (.scalar text false) with keyAllowed := false, cursor := c }

/-- a directive, before which all open blocks end -/
def pushDirective (s : Scanner) : Except Failure Scanner := do
  let s ← readable s.atDocumentLevel?
  let (token, c) ← directive s.cursor.step
  return { s.push token with cursor := c }

/-- open a flow collection -/
def openFlow? (t : Token) (s : Scanner) : Option Scanner := do
  let s ← s.saveKey?
  return { s.pushOver 1 t with depth := s.depth + 1, keyAllowed := true }

/-- close a flow collection -/
def closeFlow? (t : Token) (s : Scanner) : Option Scanner := do
  let s ← s.dropKey?
  if s.depth = 0 then none
  return { s.pushOver 1 t with depth := s.depth - 1, keyAllowed := false }

/-- an entry of a block sequence -/
def blockEntry? (s : Scanner) : Option Scanner := do
  let s ← if s.inFlow then pure s
    else if !s.keyAllowed then none
    else
      let (opened, s) := s.indentTo s.cursor.column
      pure (if opened then s.push .blockSequenceStart else s)
  let s ← { s with keyAllowed := true }.dropKey?
  return s.pushOver 1 .blockEntry

/-- open a block mapping here if it is indented further; no key may be open -/
def openMapping? (s : Scanner) : Option Scanner :=
  if s.inFlow then some s
  else if !s.keyAllowed then none
  else
    let (opened, s) := s.indentTo s.cursor.column
    some (if opened then s.push .blockMappingStart else s)

/-- a key that is marked as one -/
def markedKey? (s : Scanner) : Option Scanner := do
  let s ← s.openMapping?
  let s ← { s with keyAllowed := !s.inFlow }.dropKey?
  return s.pushOver 1 .key

/-- a value; what stands in the place where a key may have begun is its key -/
def value? (s : Scanner) : Option Scanner := do
  match s.keyPlace? with
  | some place =>
    let s := { s with keys := s.keys.filter (·.1 ≠ s.depth) }
    let (opened, s) := if s.inFlow then (false, s) else s.indentTo place.column
    let before := if opened then [Token.blockMappingStart, .key] else [.key]
    let slots :=
      if place.slot < s.slots.size then s.slots.modify place.slot (before ++ ·) else s.slots.push before
    return { s with slots, keyAllowed := false }.pushOver 1 .value
  | none =>
    let s ← s.openMapping?
    let s ← { s with keyAllowed := !s.inFlow }.dropKey?
    return s.pushOver 1 .value

/-- a block scalar, behind which a key may begin -/
def pushBlockScalar? (folded : Bool) (s : Scanner) : Option Scanner := do
  let s ← { s with keyAllowed := true }.dropKey?
  let (text, c) ← blockScalar? folded s.indent s.cursor.step
  return { s.push (.scalar (.ofChars text) false) with cursor := c }

/-- a plain scalar; a key may begin behind it if it ends at the beginning of a line -/
def pushPlain? (s : Scanner) : Option Scanner := do
  let s ← s.saveKey?
  let (text, newLine, c) := plainScalar s.inFlow s.indent (s.cursor.rest.length + 1) s.cursor []
  return { s.push (.scalar (.ofChars text) true) with keyAllowed := newLine, cursor := c }

/-- whether a plain scalar may begin with a character, the next one being given too -/
def beginsPlain (s : Scanner) (ch : Char) : Bool :=
  !(isGap ch || "-?:,[]\x7b\x7d#&*!|>'\"%@\x60".toList.contains ch) ||
    (!s.cursor.gapAt 1 && (ch = '-' || (!s.inFlow && (ch = '?' || ch = ':'))))

/-- the token that begins with a character which opens neither a directive nor quotes -/
def token? (s : Scanner) (ch : Char) : Option Scanner :=
  let c := s.cursor
  if c.column = 0 && c.marks '-' then do return (← s.atDocumentLevel?).pushOver 3 .documentStart
  else if c.column = 0 && c.marks '.' then do return (← s.atDocumentLevel?).pushOver 3 .documentEnd
  else if ch = '[' then s.openFlow? .flowSequenceStart
  else if ch = '\x7b' then s.openFlow? .flowMappingStart
  else if ch = ']' then s.closeFlow? .flowSequenceEnd
  else if ch = '\x7d' then s.closeFlow? .flowMappingEnd
  else if ch = ',' then do return (← { s with keyAllowed := true }.dropKey?).pushOver 1 .flowEntry
  else if ch = '-' && c.gapAt 1 then s.blockEntry?
  else if ch = '?' && (s.inFlow || c.gapAt 1) then s.markedKey?
  else if ch = ':' && (s.inFlow || c.gapAt 1) then s.value?
  else if ch = '*' then s.pushKeyed? fun c => (name? c.step).map fun (n, c) => (.alias n, c)
  else if ch = '&' then s.pushKeyed? fun c => (name? c.step).map fun (n, c) => (.anchor n, c)
  else if ch = '!' then s.pushKeyed? tag?
  else if ch = '|' && !s.inFlow then s.pushBlockScalar? false
  else if ch = '>' && !s.inFlow then s.pushBlockScalar? true
  else if s.beginsPlain ch then s.pushPlain?
  else none

/-- the token that begins with a character -/
def token (s : Scanner) (ch : Char) : Except Failure Scanner :=
  if ch = '%' && s.cursor.column = 0 then s.pushDirective
  else if ch = '\'' || ch = '"' then s.pushQuoted (ch = '"')
  else readable (s.token? ch)

/-- go to the next token, or to the end of the text; blocks that do not reach there end -/
def advance? (s : Scanner) : Option Scanner := do
  let s ← (s.toNextToken (s.cursor.rest.length + 1)).dropStaleKeys?
  return s.unwind s.cursor.column

/-- the tokens in front of every place where a key may have begun -/
def settled (s : Scanner) : List Token :=
  let places := ((s.dropStaleKeys?).getD s).keys.map (·.2.slot)
  (s.slots.toList.take (places.min?.getD s.slots.size)).flatten

/-- the tokens of a text that ends here -/
def ending (s : Scanner) : Except Failure (List Token) := do
  let s ← readable (s.unwind (-1)).dropKey?
  return s.slots.toList.flatten

/-- cut the rest of a text into tokens -/
def run : Nat → Scanner → List Token
  | 0, s => s.settled ++ [.broken .unreadable]
  | fuel + 1, s =>
    match s.advance? with
    | none => s.settled ++ [.broken .unreadable]
    | some next =>
      match next.cursor.next? with
      | none =>
        match next.ending with
        | .ok tokens => tokens
        | .error f => s.settled ++ [.broken f]
      | some ch =>
        match next.token ch with
        | .ok after => run fuel after
        | .error f => s.settled ++ [.broken f]

end Scanner

/-- the tokens of a text -/
def Token.scan (text : List Char) : List Token :=
  if !text.all isAllowed then [.broken .unreadable]
  else
    let rest := if text.head? = some '\ufeff' then text.tail else text
    Scanner.run (text.length + 1) { cursor := { rest } }

end Lending.Yaml
