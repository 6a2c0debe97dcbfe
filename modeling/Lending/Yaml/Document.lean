/-
The value of a YAML document.

The nodes of a document are made into values one after another: a scalar at once, a list, mapping or set at first empty and
filled when everything met before it is done. The first thing that is wrong in this order is what the document fails with. A node is
made once, however often it is named. `Value.ofYaml` goes the whole way from the text.
-/
import Lending.Yaml.Merge

namespace Lending

namespace Yaml

/-- what a node has been made into; the values in a list or mapping are given by the numbers of their nodes, and those in
the mapping that a set is written as are left out -/
inductive Made
  | plain (v : Value)
  | list (items : List Nat)
  | pairs (entries : List (Nat × Nat))
  | mapping (entries : List (Value × Nat))
  | set (members : List Value)

/-- the nodes, what they have been made into, and the lists and mappings that are still to be filled, the first one first -/
structure Making where
  nodes : Graph
  made : List (Nat × Made) := []
  waiting : List Nat := []

/-- steps in making values -/
abbrev Maker := StateT Making (Except Failure)

/-- put a value among entries; a later value replaces an earlier one in its place -/
def putEntry {α : Type} (entries : List (Value × α)) (key : Value) (value : α) : List (Value × α) :=
  if entries.any fun e => e.1.sameKey key then
    entries.map fun e => if e.1.sameKey key then (e.1, value) else e
  else entries ++ [(key, value)]

namespace Maker

/-- the text of a node that should be a scalar; a mapping gives the text under its equals sign -/
def textOf (g : Graph) : Nat → Nat → Except Failure Text
  | 0, _ => .error .unreadable
  | fuel + 1, n =>
    match (g.nodeAt n).content with
    | .scalar text => .ok text
    | .sequence _ => .error .unreadable
    | .mapping entries =>
      match entries.find? fun e => g.hasTag e.1 .value with
      | some e => textOf g fuel e.2
      | none => .error .unreadable

/-- note what a node has been made into -/
def note (n : Nat) (m : Made) : Maker Unit := modify fun s => { s with made := (n, m) :: s.made }

/-- note a list or mapping that is to be filled later -/
def postpone (n : Nat) (m : Made) : Maker Unit := do
  note n m
  modify fun s => { s with waiting := s.waiting ++ [n] }

/-- make a node into a value, unless it has been made before; a timestamp is not looked for under an equals sign -/
def make (n : Nat) : Maker Made := do
  let s ← get
  match s.made.lookup n with
  | some m => return m
  | none =>
    match (s.nodes.nodeAt n).tag with
    | .sequence =>
      postpone n (.list [])
      return .list []
    | .pairs =>
      postpone n (.pairs [])
      return .pairs []
    | .mapping =>
      postpone n (.mapping [])
      return .mapping []
    | .set =>
      postpone n (.set [])
      return .set []
    | tag =>
      let text ← textOf s.nodes (s.nodes.size + 1) n
      if tag = .timestamp && (s.nodes.entries? n).isSome then throw (.fault .listForText)
      let v ← tag.scalarValue text
      note n (.plain v)
      return .plain v

/-- make a key, which must be plain -/
def makeKey (n : Nat) : Maker Value := do
  match ← make n with
  | .plain v => return v
  | _ => throw .unreadable

/-- make the entries of a mapping -/
def makeEntries (done : List (Value × Nat)) : List (Nat × Nat) → Maker (List (Value × Nat))
  | [] => return done
  | (k, v) :: es => do
    let key ← makeKey k
    let _ ← make v
    makeEntries (putEntry done key v) es

/-- make the one entry of a mapping in a list of pairs -/
def makePair (n : Nat) : Maker (Nat × Nat) := do
  let some [(k, v)] := (← get).nodes.entries? n | throw .unreadable
  let _ ← make k
  let _ ← make v
  return (k, v)

/-- carry out the merges of a mapping -/
def flatten (n : Nat) : Maker Unit := do
  let s ← get
  let ((), nodes) ← (Graph.flatten n).run s.nodes
  set { s with nodes }

/-- carry out the merges of a mapping and make its entries -/
def makeMapping (n : Nat) : Maker (List (Value × Nat)) := do
  flatten n
  makeEntries [] (((← get).nodes.entries? n).getD [])

/-- fill a list or mapping, which must be what its tag says -/
def fill (n : Nat) : Maker Unit := do
  let node := (← get).nodes.nodeAt n
  match node.tag, node.content with
  | .sequence, .sequence items =>
    items.forM fun i => do let _ ← make i
    note n (.list items)
  | .pairs, .sequence items => note n (.pairs (← items.mapM makePair))
  | .mapping, .mapping _ => note n (.mapping (← makeMapping n))
  | .set, .mapping _ => note n (.set ((← makeMapping n).map (·.1)))
  | _, _ => throw .unreadable

/-- fill the lists and mappings that wait, and those that come to wait in turn -/
def fillAll : Nat → Maker Unit
  | 0 => return
  | fuel + 1 => do
    let s ← get
    match s.waiting with
    | [] => return
    | n :: rest =>
      set { s with waiting := rest }
      fill n
      fillAll fuel

/-- make the node with a number and all that is in it -/
def makeAll (root : Nat) : Maker Unit := do
  let _ ← make root
  fillAll ((← get).nodes.size + 1)

end Maker

/-! ## Values -/

/-- a list or mapping with the number of its node, if that node or one around it is named inside: it is part of a loop -/
def closed (n : Nat) (around : List Nat) (v : Value) : Value :=
  if v.mentions (n :: around) then .looped n v else v

/-- the value of a node inside others; one of those others is a loop -/
def valueIn (made : List (Nat × Made)) : Nat → List Nat → Nat → Value
  | 0, _, _ => .null
  | fuel + 1, around, n =>
    match made.lookup n with
    | none => .null
    | some (.plain v) => v
    | some (.list items) =>
      if around.contains n then .again n true
      else closed n around (.list (items.map (valueIn made fuel (n :: around))))
    | some (.pairs entries) =>
      if around.contains n then .again n true
      else closed n around (.list (entries.map fun e =>
        .pair (valueIn made fuel (n :: around) e.1) (valueIn made fuel (n :: around) e.2)))
    | some (.set members) => .set members
    | some (.mapping entries) =>
      if around.contains n then .again n false
      else closed n around (.mapping (entries.map fun e => (e.1, valueIn made fuel (n :: around) e.2)))

end Yaml

/-- the value of a YAML text -/
def Value.ofYaml (text : List Char) : Except Yaml.Failure Value := do
  let (nodes, root) ← Yaml.Graph.ofTokens (Yaml.Token.scan text)
  let ((), s) ← (Yaml.Maker.makeAll root).run { nodes }
  return Yaml.valueIn s.made (nodes.size + 1) [] root

end Lending
