/-
Paths of files.

A path is kept as its parts, without empty and dot parts; a leading tilde stands for the home directory.
-/
import Lending.Fault

namespace Lending

/-- a path: what it starts from and its parts -/
structure Path where
  /-- empty for a relative path -/
  root : String
  parts : List String
deriving DecidableEq

namespace Path

/-- the path that a text gives; exactly two leading slashes are kept apart from one -/
def of (s : String) : Path :=
  let slashes := (s.toList.takeWhile (· = '/')).length
  let root := if slashes = 0 then "" else if slashes = 2 then "//" else "/"
  ⟨root, ((s.toList.splitOn '/').map String.ofList).filter fun part => part ≠ "" && part ≠ "."⟩

/-- the text of a path -/
def text (p : Path) : String :=
  let body := "/".intercalate p.parts
  if p.root = "" && p.parts.isEmpty then "." else p.root ++ body

/-- the path within this one -/
def child (p : Path) (name : String) : Path :=
  let inner := of name
  if inner.root = "" then ⟨p.root, p.parts ++ inner.parts⟩ else inner

/-- the path with a leading tilde spelled out: it stands for the home directory of the user named behind it, and alone
for that of the user without a name -/
def expandHome (home? : String → Option String) (p : Path) : Except Fault Path :=
  match p.root, p.parts with
  | "", first :: rest =>
    match first.toList with
    | '~' :: user =>
      match home? (String.ofList user) with
      | some home => .ok ⟨(of home).root, (of home).parts ++ rest⟩
      | none => .error .noHomeDirectory
    | _ => .ok p
  | _, _ => .ok p

/-- what follows the last dot of a file name, with the dot; nothing if the dot is first or last -/
def suffix (name : String) : String :=
  let after := (name.toList.reverse.takeWhile (· ≠ '.')).reverse
  let before := name.length - after.length
  if before ≤ 1 || after.isEmpty then "" else String.ofList ('.' :: after)

end Path

end Lending
