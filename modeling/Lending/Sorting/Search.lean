/-
Finding a place in a row of values.

A place is found by asking of single values whether they belong before it. The question may fail, so it matters which values
are asked and in which order. `halve` asks the middle of what is left; `gallop` starts at a hint and takes longer and longer
steps away from it before it halves.
-/
namespace Lending.Sorting

variable {α ε : Type}

/-- a question about a value that may fail -/
abbrev Question (α ε : Type) := α → Except ε Bool

/-- the question about the value at an index; nothing is asked beyond the end -/
def askAt (below : Question α ε) (xs : List α) (i : Nat) : Except ε Bool :=
  match xs[i]? with
  | some x => below x
  | none => .ok false

/-- the place from one index to another that is behind all values that belong before it, by halving -/
def halve (below : Question α ε) (xs : List α) : Nat → Nat → Nat → Except ε Nat
  | 0, low, _ => .ok low
  | fuel + 1, low, high =>
    if low < high then do
      let middle := low + (high - low) / 2
      if ← askAt below xs middle then halve below xs fuel (middle + 1) high else halve below xs fuel low middle
    else .ok low

/-- steps of 1, 3, 7, ... as long as the answer is yes, less than a limit: the last step with that answer, and the next -/
def stride (goesOn : Nat → Except ε Bool) (limit : Nat) : Nat → Nat → Nat → Except ε (Nat × Nat)
  | 0, last, next => .ok (last, min next limit)
  | fuel + 1, last, next =>
    if next < limit then do
      if ← goesOn next then stride goesOn limit fuel next (2 * next + 1) else return (last, next)
    else .ok (last, limit)

/-- the place behind all values that belong before it, looked for from the index `hint` on -/
def gallop (below : Question α ε) (xs : List α) (hint : Nat) : Except ε Nat := do
  if ← askAt below xs hint then
    let (last, next) ← stride (fun d => askAt below xs (hint + d)) (xs.length - hint) xs.length 0 1
    halve below xs xs.length (hint + last + 1) (hint + next)
  else
    let goesOn (d : Nat) : Except ε Bool := do return !(← askAt below xs (hint - d))
    let (last, next) ← stride goesOn (hint + 1) xs.length 0 1
    halve below xs xs.length (hint + 1 - next) (hint - last)

end Lending.Sorting
