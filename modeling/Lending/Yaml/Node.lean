/-
The nodes of a YAML document.

A document is a `Graph`: nodes under numbers, each with the numbers of the nodes in it. An alias is the number of the node
that it names, which may be a node around it. `Graph.ofTokens` reads the one document of a token list: block and flow
collections, scalars, and what anchors, aliases and tags add to them. A node without a tag gets the one its form or its text
calls for.
-/
import Lending.Yaml.Tag
import Lending.Yaml.Token

namespace Lending.Yaml

/-- what a node is made of, other nodes by their numbers -/
inductive Content
  | scalar (text : Text)
  | sequence (items : List Nat)
  | mapping (entries : List (Nat × Nat))
deriving DecidableEq

/-- a node -/
structure Node where
  tag : Tag
  content : Content
deriving DecidableEq

/-- the node that stands where nothing is written -/
def Node.null : Node := ⟨.null, .scalar {}⟩

instance : Inhabited Node := ⟨.null⟩

/-- nodes by their numbers -/
abbrev Graph := Array Node

namespace Graph

/-- what is left to read, the tag handles, the nodes, and those with an anchor -/
structure Source where
  tokens : List Token
  handles : List (List Char × List Char) := []
  nodes : Graph := #[]
  anchors : List (List Char × Nat) := []

/-- readers of a token list -/
abbrev Reader := StateT Source (Except Failure)

/-- what stands here is not YAML -/
def refuse {α : Type} : Reader α := throw .unreadable

/-! ## Single tokens -/

/-- the next token; nothing can be read beyond a broken one -/
def next? : Reader (Option Token) := do
  match (← get).tokens.head? with
  | some (.broken f) => throw f
  | t => return t

/-- pass over the next token -/
def skip : Reader Unit := modify fun s => { s with tokens := s.tokens.tail }

/-- pass over a token if it is next; whether it was -/
def accept (t : Token) : Reader Bool := do
  if (← next?) = some t then
    skip
    return true
  else return false

/-- pass over a token that must be next -/
def expect (t : Token) : Reader Unit := do
  if !(← accept t) then refuse

/-! ## Anchors and tags -/

/-- an anchor, if one is next -/
def anchor? : Reader (Option (List Char)) := do
  match ← next? with
  | some (.anchor name) =>
    skip
    return some name
  | _ => return none

/-- the parts of a tag, if one is next -/
def tagParts? : Reader (Option (Option (List Char) × List Char)) := do
  match ← next? with
  | some (.tag handle suffix) =>
    skip
    return some (handle, suffix)
  | _ => return none

/-- the full name of a tag, whose handle must be known -/
def tagName : Option (List Char) × List Char → Reader (List Char)
  | (none, suffix) => return suffix
  | (some handle, suffix) => do
    let some start := (← get).handles.lookup handle | refuse
    return start ++ suffix

/-- an anchor and a tag in either order -/
def properties : Reader (Option (List Char) × Option (List Char)) := do
  let before ← anchor?
  let parts ← tagParts?
  let name ← if before.isNone && parts.isSome then anchor? else pure before
  return (name, ← parts.mapM tagName)

/-- the tag that the form of a node calls for, unless it has one of its own; a lone exclamation mark is none -/
def tagOr (form : Tag) (name : Option (List Char)) : Tag :=
  match name with
  | some n => if n = ['!'] then form else Tag.ofName n
  | none => form

/-- the number of the node that an alias names -/
def named (name : List Char) : Reader Nat := do
  let some n := (← get).anchors.lookup name | refuse
  return n

/-! ## Nodes and their numbers -/

/-- a number for a node that is still to be read, under an anchor that nothing else has -/
def reserve (anchor : Option (List Char)) : Reader Nat := do
  let s ← get
  let n := s.nodes.size
  match anchor with
  | none => set { s with nodes := s.nodes.push .null }
  | some name =>
    if (s.anchors.lookup name).isSome then refuse
    set { s with nodes := s.nodes.push .null, anchors := (name, n) :: s.anchors }
  return n

/-- put a node in its place -/
def place (n : Nat) (node : Node) : Reader Unit := modify fun s => { s with nodes := s.nodes.set! n node }

/-- a new node -/
def add (node : Node) : Reader Nat := do
  let n ← reserve none
  place n node
  return n

/-- the node that stands where nothing is written -/
def addNull : Reader Nat := add .null

/-! ## Collections -/

/-- a node, unless one of some tokens shows that nothing is written -/
def nodeUnless (stops : List Token) (read : Reader Nat) : Reader Nat := do
  if (← next?).any stops.contains then addNull else read

/-- items behind dashes -/
def dashed (stops : List Token) (read : Reader Nat) : Nat → Reader (List Nat)
  | 0 => refuse
  | fuel + 1 => do
    if ← accept .blockEntry then
      let item ← nodeUnless stops read
      return item :: (← dashed stops read fuel)
    else return []

/-- a key behind its mark, and the value if one is marked -/
def keyAndValue (keyStops valueStops : List Token) (read : Reader Nat) : Reader (Nat × Nat) := do
  let key ← nodeUnless keyStops read
  let value ← if ← accept .value then nodeUnless valueStops read else addNull
  return (key, value)

/-- the entries of a block mapping -/
def blockEntries (read : Reader Nat) : Nat → Reader (List (Nat × Nat))
  | 0 => refuse
  | fuel + 1 => do
    if ← accept .key then
      let stops := [.key, .value, .blockEnd]
      let entry ← keyAndValue stops stops read
      return entry :: (← blockEntries read fuel)
    else return []

/-- parts of a flow collection between commas, up to its closing bracket; a last comma may be left over -/
def flowParts {α : Type} (close : Token) (read : Reader α) : Nat → Reader (List α)
  | 0 => refuse
  | fuel + 1 => do
    if ← accept close then return []
    let part ← read
    if ← accept close then return [part]
    expect .flowEntry
    return part :: (← flowParts close read fuel)

/-- an item of a flow sequence; a key and a value without brackets make a mapping -/
def flowItem (read : Reader Nat) : Reader Nat := do
  if ← accept .key then
    let stops := [.flowEntry, .flowSequenceEnd]
    let n ← reserve none
    let entry ← keyAndValue (.value :: stops) stops read
    place n ⟨.mapping, .mapping [entry]⟩
    return n
  else read

/-- an entry of a flow mapping; a node that is not marked is a key without a value -/
def flowPair (read : Reader Nat) : Reader (Nat × Nat) := do
  if ← accept .key then
    let stops := [.flowEntry, .flowMappingEnd]
    keyAndValue (.value :: stops) stops read
  else return (← read, ← addNull)

/-! ## Nodes -/

/-- where a node stands: it may be a block, and its items may stand at the column of their key -/
inductive Setting
  | flow
  | block
  | blockOrDashes
deriving DecidableEq

/-- the tag of a scalar: a plain one without a tag has the tag that its text calls for -/
def scalarTag (name : Option (List Char)) (plain : Bool) (text : Text) : Tag :=
  match name with
  | some n => if n = ['!'] then Tag.ofPlain text else Tag.ofName n
  | none => if plain then Tag.ofPlain text else .text

/-- what a node with an anchor or a tag is made of; `inner` reads the nodes in it -/
def content (inner : Setting → Reader Nat) (fuel : Nat) (setting : Setting) (hasAnchor : Bool)
    (tag : Option (List Char)) : Reader Node := do
  match ← next? with
  | some (.scalar text plain) =>
    skip
    return ⟨scalarTag tag plain text, .scalar text⟩
  | some .flowSequenceStart =>
    skip
    return ⟨tagOr .sequence tag, .sequence (← flowParts .flowSequenceEnd (flowItem (inner .flow)) fuel)⟩
  | some .flowMappingStart =>
    skip
    return ⟨tagOr .mapping tag, .mapping (← flowParts .flowMappingEnd (flowPair (inner .flow)) fuel)⟩
  | some .blockEntry =>
    if setting = .blockOrDashes then
      return ⟨tagOr .sequence tag,
        .sequence (← dashed [.blockEntry, .key, .value, .blockEnd] (inner .block) fuel)⟩
    else empty
  | some .blockSequenceStart =>
    if setting = .flow then empty
    else
      skip
      let items ← dashed [.blockEntry, .blockEnd] (inner .block) fuel
      expect .blockEnd
      return ⟨tagOr .sequence tag, .sequence items⟩
  | some .blockMappingStart =>
    if setting = .flow then empty
    else
      skip
      let entries ← blockEntries (inner .blockOrDashes) fuel
      expect .blockEnd
      return ⟨tagOr .mapping tag, .mapping entries⟩
  | _ => empty
where
  /-- an anchor or a tag alone, on a node where nothing is written -/
  empty : Reader Node :=
    if hasAnchor || tag.isSome then return ⟨scalarTag tag true {}, .scalar {}⟩ else refuse

/-- a node, which has its number before what is in it is read -/
def node : Nat → Setting → Reader Nat
  | 0, _ => refuse
  | fuel + 1, setting => do
    match ← next? with
    | some (.alias name) =>
      skip
      named name
    | _ =>
      let (anchor, tag) ← properties
      let _ ← next?
      let n ← reserve anchor
      place n (← content (node fuel) (fuel + 1) setting anchor.isSome tag)
      return n

/-! ## Documents -/

/-- the directives before a document; a version or a handle is given once, and the version is the first -/
def directives (versioned : Bool) : Nat → Reader Unit
  | 0 => refuse
  | fuel + 1 => do
    match ← next? with
    | some (.versionDirective major) =>
      if versioned || major ≠ 1 then refuse
      skip
      directives true fuel
    | some (.tagDirective handle start) =>
      if ((← get).handles.lookup handle).isSome then refuse
      skip
      modify fun s => { s with handles := (handle, start) :: s.handles }
      directives versioned fuel
    | some .otherDirective =>
      skip
      directives versioned fuel
    | _ => return

/-- the handles that need no directive -/
def defaultHandles : List (List Char × List Char) :=
  [(['!'], ['!']), (['!', '!'], Tag.namePrefix.toList)]

/-- whether a document begins with directives or its mark -/
def opensDocument : Token → Bool
  | .versionDirective _ => true
  | .tagDirective _ _ => true
  | .otherDirective => true
  | .documentStart => true
  | _ => false

/-- what may follow the one document: marks of its end -/
def afterDocument : Nat → Reader Unit
  | 0 => refuse
  | fuel + 1 => do
    if ← accept .documentEnd then afterDocument fuel
    else if (← next?).isSome then refuse

/-- the number of the outermost node; the end of the document may be marked, and nothing follows -/
def document (fuel : Nat) : Reader Nat := do
  let marked := (← next?).any opensDocument
  if marked then
    directives false fuel
    expect .documentStart
  modify fun s => { s with handles := s.handles ++ defaultHandles }
  let isEmpty := (← next?) = none || (marked && (← next?) = some .documentEnd)
  let root ← if isEmpty then addNull else node fuel .block
  afterDocument fuel
  return root

/-- the one document of a token list, and the number of its outermost node -/
def ofTokens (tokens : List Token) : Except Failure (Graph × Nat) := do
  let (root, s) ← (document (tokens.length + 2)).run { tokens }
  return (s.nodes, root)

end Graph

end Lending.Yaml
