/-
Merges in YAML mappings.

A merge key takes the entries of another mapping, or of the mappings in a list, into the one that it stands in. `flatten`
carries out the merges of one mapping, and first those of the mappings that it merges; a mapping may also merge itself. It
changes the nodes in place, so what an alias names is changed with them.
-/
import Lending.Yaml.Node

namespace Lending.Yaml.Graph

/-- the node with a number -/
def nodeAt (g : Graph) (n : Nat) : Node := g.getD n .null

/-- whether a node has a tag -/
def hasTag (g : Graph) (n : Nat) (tag : Tag) : Bool := (nodeAt g n).tag = tag

/-- the entries of a node, if it is a mapping -/
def entries? (g : Graph) (n : Nat) : Option (List (Nat × Nat)) :=
  match (nodeAt g n).content with
  | .mapping entries => some entries
  | _ => none

/-- a mapping with other entries -/
def setEntries (g : Graph) (n : Nat) (entries : List (Nat × Nat)) : Graph :=
  g.set! n ⟨(nodeAt g n).tag, .mapping entries⟩

/-- a node with another tag -/
def setTag (g : Graph) (n : Nat) (tag : Tag) : Graph := g.set! n ⟨tag, (nodeAt g n).content⟩

/-- changes of nodes that may fail -/
abbrev Change := StateT Graph (Except Failure)

/-- the entries of a node that must be a mapping -/
def entries (n : Nat) : Change (List (Nat × Nat)) := do
  let some es := entries? (← get) n | throw .unreadable
  return es

/-- take the first merge out of a mapping: the number of the node to be merged -/
def takeMerge? (n : Nat) : Change (Option Nat) := do
  let g ← get
  let isMerge (e : Nat × Nat) := hasTag g e.1 .merge
  let es ← entries n
  match es.find? isMerge with
  | none => return none
  | some e =>
    set (setEntries g n (es.eraseP isMerge))
    return some e.2

/-- make the keys of a mapping that are an equals sign texts -/
def settleKeys (n : Nat) : Change Unit := do
  (← entries n).forM fun e => modify fun g => if hasTag g e.1 .value then setTag g e.1 .text else g

/-- how many merges there are in a graph -/
def mergeCount (g : Graph) : Nat :=
  g.toList.foldl (fun count node => match node.content with
    | .mapping es => count + (es.filter fun e => hasTag g e.1 .merge).length
    | _ => count) 0

mutual

/-- carry out the merges of a mapping; the fuel outlasts the merges of the graph, one of which is taken out at each turn -/
def flattenWith : Nat → Nat → Change Unit
  | 0, _ => throw .unreadable
  | fuel + 1, n => do
    let merged ← gather fuel n
    let own ← entries n
    modify fun g => setEntries g n (merged ++ own)
    settleKeys n

/-- take the merges out of a mapping; the entries that they give -/
def gather : Nat → Nat → Change (List (Nat × Nat))
  | 0, _ => throw .unreadable
  | fuel + 1, n => do
    match ← takeMerge? n with
    | none => return []
    | some m =>
      let first ← merged fuel m
      return first ++ (← gather fuel n)

/-- the entries that a merged node gives: those of a mapping, or of the mappings of a list, the last of them first -/
def merged : Nat → Nat → Change (List (Nat × Nat))
  | 0, _ => throw .unreadable
  | fuel + 1, m => do
    match (nodeAt (← get) m).content with
    | .mapping _ =>
      flattenWith fuel m
      entries m
    | .sequence items =>
      let each ← items.mapM fun item => do
        let _ ← entries item
        flattenWith fuel item
        entries item
      return each.reverse.flatten
    | .scalar _ => throw .unreadable

end

/-- carry out the merges of a mapping -/
def flatten (n : Nat) : Change Unit := do flattenWith (3 * mergeCount (← get) + 4) n

end Lending.Yaml.Graph
