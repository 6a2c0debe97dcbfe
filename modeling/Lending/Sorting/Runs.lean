/-
Sorting by runs.

A run is a part that is in order already; one that descends is turned round, and a short one is extended by putting the next
values in by halving. Runs wait on a stack, each under a power that says how near the middle of the whole it ends, and are
merged when a run of a lower power comes. The order may fail; `sorted?` then fails in the same way, and with the order of the
comparisons it is settled which failure that is.
-/
import Lending.Sorting.Merge

namespace Lending.Sorting

variable {α ε : Type}

/-! ## Finding runs -/

/-- how far a run goes on in which each value comes before the last one, or each does not; its length behind `last` -/
def runLength (less : Less α ε) (descending : Bool) (last : α) : List α → Except ε Nat
  | [] => .ok 0
  | x :: xs => do
    if (← less x last) = descending then return (← runLength less descending x xs) + 1 else return 0

/-- put values one by one into a list in order, behind those that they do not come before -/
def insertAll (less : Less α ε) (sorted : List α) : List α → Except ε (List α)
  | [] => .ok sorted
  | x :: xs => do
    let place ← halve (notAfter less x) sorted (sorted.length + 1) 0 sorted.length
    insertAll less (sorted.take place ++ x :: sorted.drop place) xs

/-- the run at the front, extended to a least length, and what is left -/
def nextRun (less : Less α ε) (least : Nat) : List α → Except ε (List α × List α)
  | x :: y :: rest => do
    let descending ← less y x
    let more ← runLength less descending y rest
    let run := x :: y :: rest.take more
    let rest := rest.drop more
    let missing := least - run.length
    return (← insertAll less (if descending then run.reverse else run) (rest.take missing), rest.drop missing)
  | xs => .ok (xs, [])

/-- the least length of a run: the first six binary digits of the number of values, rounded up -/
def leastRun (n : Nat) : Nat := go n false n
where
  go : Nat → Bool → Nat → Nat
    | 0, odd, n => n + if odd then 1 else 0
    | fuel + 1, odd, n => if 64 ≤ n then go fuel (odd || n % 2 = 1) (n / 2) else n + if odd then 1 else 0

/-! ## Merging runs -/

/-- a run, where it starts, and the power of its end -/
structure Run (α : Type) where
  start : Nat
  values : List α
  power : Nat := 0

/-- the number of the first binary digit in which the middles of two neighbouring runs differ, as fractions of the whole -/
def powerBetween (start first second total : Nat) : Nat :=
  go (2 * total) (2 * start + first) (2 * start + first + (first + second))
where
  go : Nat → Nat → Nat → Nat
    | 0, _, _ => 0
    | fuel + 1, a, b =>
      if total ≤ a then go fuel (2 * (a - total)) (2 * (b - total)) + 1
      else if total ≤ b then 1
      else go fuel (2 * a) (2 * b) + 1

/-- the runs that wait, the last one first, and the threshold of merges -/
structure Stack (α : Type) where
  runs : List (Run α) := []
  threshold : Nat := Merge.worthwhile

namespace Stack

/-- merge two neighbouring runs -/
def join (less : Less α ε) (threshold : Nat) (first second : Run α) : Except ε (Run α × Nat) := do
  let (values, threshold) ← merge less threshold first.values second.values
  return ({ first with values }, threshold)

/-- merge the last runs as long as the one below has more than a power -/
def settle (less : Less α ε) (power : Nat) : Nat → Stack α → Except ε (Stack α)
  | 0, s => .ok s
  | fuel + 1, s =>
    match s.runs with
    | last :: below :: rest =>
      if power < below.power then do
        let (run, threshold) ← join less s.threshold below last
        settle less power fuel ⟨run :: rest, threshold⟩
      else .ok s
    | _ => .ok s

/-- put a run on the stack, merging those that should not wait for it -/
def push (less : Less α ε) (total : Nat) (values : List α) (s : Stack α) : Except ε (Stack α) :=
  match s.runs with
  | [] => .ok { s with runs := [⟨0, values, 0⟩] }
  | last :: _ => do
    let power := powerBetween last.start last.values.length values.length total
    let start := last.start + last.values.length
    let s ← settle less power s.runs.length s
    match s.runs with
    | last :: rest => return { s with runs := ⟨start, values, 0⟩ :: { last with power } :: rest }
    | [] => return s

/-- merge all runs, of three the shorter one at either end with the one between them -/
def collapse (less : Less α ε) : Nat → Stack α → Except ε (List α)
  | 0, s => .ok (s.runs.flatMap (·.values))
  | fuel + 1, s =>
    match s.runs with
    | last :: middle :: first :: rest =>
      if first.values.length < last.values.length then do
        let (run, threshold) ← join less s.threshold first middle
        collapse less fuel ⟨last :: run :: rest, threshold⟩
      else do
        let (run, threshold) ← join less s.threshold middle last
        collapse less fuel ⟨run :: first :: rest, threshold⟩
    | [last, first] => do return (← join less s.threshold first last).1.values
    | [run] => .ok run.values
    | [] => .ok []

end Stack

/-- cut values into runs and put them on a stack -/
def stackRuns (less : Less α ε) (total : Nat) : Nat → List α → Stack α → Except ε (Stack α)
  | 0, _, s => .ok s
  | fuel + 1, xs, s => do
    if xs.isEmpty then return s
    let (run, rest) ← nextRun less (leastRun total) xs
    stackRuns less total fuel rest (← s.push less total run)

/-- the values in order, equal ones as they came -/
def sorted? (less : Less α ε) (xs : List α) : Except ε (List α) := do
  let s ← stackRuns less xs.length xs.length xs {}
  s.collapse less s.runs.length

end Lending.Sorting
