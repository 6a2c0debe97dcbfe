/-
Files as data.

A `Files` is what a file system holds: the bytes of each file under its path, and the folders. Every path above a file or a
folder is a folder too.
-/
import Lending.Path

namespace Lending

/-- what stands at a path -/
inductive FileEntry
  | file (bytes : List UInt8)
  | folder
deriving DecidableEq

/-- the entries of a file system -/
structure Files where
  entries : List (Path × FileEntry)

namespace Files

/-- whether a path leads through another to something below it -/
def isAbove (p q : Path) : Bool := p.root = q.root && p.parts.length < q.parts.length && p.parts.isPrefixOf q.parts

/-- what stands at a path that has no steps upwards -/
def entry? (fs : Files) (p : Path) : Option FileEntry :=
  match fs.entries.lookup p with
  | some e => some e
  | none => if fs.entries.any fun e => isAbove p e.1 then some .folder else none

/-- the path without its steps upwards; a step leads to the parent of a folder -/
def direct? (fs : Files) (root : String) : List String → List String → Option Path
  | above, [] => some ⟨root, above.reverse⟩
  | above, ".." :: rest =>
    if fs.entry? ⟨root, above.reverse⟩ = some .folder then direct? fs root above.tail rest else none
  | above, part :: rest => direct? fs root (part :: above) rest

/-- what stands at a path -/
def find? (fs : Files) (p : Path) : Option FileEntry := (fs.direct? p.root [] p.parts).bind fs.entry?

def isFolder (fs : Files) (p : Path) : Bool := fs.find? p = some .folder

/-- the bytes of a file -/
def read? (fs : Files) (p : Path) : Option (List UInt8) :=
  match fs.find? p with
  | some (.file bytes) => some bytes
  | _ => none

/-- the names of the files that stand directly in a folder, in order -/
def namesIn (fs : Files) (folder : Path) : List String :=
  match fs.direct? folder.root [] folder.parts with
  | none => []
  | some p =>
    let names := fs.entries.filterMap fun
      | (q, .file _) => if isAbove p q && q.parts.length = p.parts.length + 1 then q.parts.getLast? else none
      | _ => none
    names.mergeSort fun a b => decide (a ≤ b)

end Files

end Lending
