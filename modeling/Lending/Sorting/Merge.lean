/-
Merging two runs.

Both runs are in order, and of equal values the one on the left comes first. Values are taken one by one until one run has
given several in a row; then each run gives as many at once as belong before the next value of the other. Whether that pays
decides how many in a row are needed from then on, the `threshold`. A merge goes up from the least values or down from the
greatest, so that the shorter run is the one that is used up.
-/
import Lending.Sorting.Search

namespace Lending.Sorting

variable {α ε : Type}

/-- an order that may fail -/
abbrev Less (α ε : Type) := α → α → Except ε Bool

/-- whether a value comes before another one -/
def isBefore (less : Less α ε) (key : α) : Question α ε := fun x => less x key

/-- whether a value does not come after another one -/
def notAfter (less : Less α ε) (key : α) : Question α ε := fun x => do return !(← less key x)

/-- what is left of two runs, what has been taken from them, and how many values in a row start the taking of many -/
structure Merge (α : Type) where
  left : List α
  right : List α
  taken : List α := []
  threshold : Nat

namespace Merge

/-- how many values at once keep the taking of many going -/
def worthwhile : Nat := 7

/-- the threshold lowered because taking many goes on -/
def eased (m : Merge α) : Merge α := if 1 < m.threshold then { m with threshold := m.threshold - 1 } else m

/-- the threshold raised because taking many has ended -/
def raised (m : Merge α) : Merge α := { m with threshold := m.threshold + 1 }

/-! ## From the least values up -/

/-- a merge is over when a run is used up; the last value on the left is the greatest -/
def isOverUp (m : Merge α) : Bool := m.left.length ≤ 1 || m.right.isEmpty

/-- take some values from the front of the left run -/
def takeLeftUp (n : Nat) (m : Merge α) : Merge α :=
  { m with left := m.left.drop n, taken := (m.left.take n).reverse ++ m.taken }

/-- take some values from the front of the right run -/
def takeRightUp (n : Nat) (m : Merge α) : Merge α :=
  { m with right := m.right.drop n, taken := (m.right.take n).reverse ++ m.taken }

mutual

/-- take values one by one; the counts are the values in a row that the left and the right run have given -/
def oneByOneUp (less : Less α ε) : Nat → Nat → Nat → Merge α → Except ε (Merge α)
  | 0, _, _, m => .ok m
  | fuel + 1, fromLeft, fromRight, m =>
    match m.left, m.right with
    | x :: _ :: _, y :: _ => do
      if ← less y x then
        let m := m.takeRightUp 1
        if m.isOverUp then return m
        else if m.threshold ≤ fromRight + 1 then manyUp less fuel m
        else oneByOneUp less fuel 0 (fromRight + 1) m
      else
        let m := m.takeLeftUp 1
        if m.isOverUp then return m
        else if m.threshold ≤ fromLeft + 1 then manyUp less fuel m
        else oneByOneUp less fuel (fromLeft + 1) 0 m
    | _, _ => .ok m

/-- take many values at once -/
def manyUp (less : Less α ε) : Nat → Merge α → Except ε (Merge α)
  | 0, m => .ok m
  | fuel + 1, m =>
    match m.right with
    | [] => .ok m
    | y :: _ => do
      let i ← gallop (notAfter less y) m.left 0
      let m := m.takeLeftUp i
      if m.isOverUp then return m
      let m := m.takeRightUp 1
      if m.isOverUp then return m
      match m.left with
      | [] => return m
      | x :: _ =>
        let j ← gallop (isBefore less x) m.right 0
        let m := m.takeRightUp j
        if m.isOverUp then return m
        let m := m.takeLeftUp 1
        if m.isOverUp then return m
        else if worthwhile ≤ i || worthwhile ≤ j then manyUp less fuel m.eased
        else oneByOneUp less fuel 0 0 m.raised

end

/-- merge from the least values up: the first value of the right run comes first -/
def up (less : Less α ε) (m : Merge α) : Except ε (List α × Nat) := do
  let m := m.takeRightUp 1
  let m ← if m.isOverUp then pure m else oneByOneUp less (m.left.length + m.right.length) 0 0 m
  return (m.taken.reverse ++ m.right ++ m.left, m.threshold)

/-! ## From the greatest values down -/

/-- a merge is over when a run is used up; the last value on the right is the least -/
def isOverDown (m : Merge α) : Bool := m.left.isEmpty || m.right.length ≤ 1

/-- take all but some values from the left run -/
def takeLeftDown (keep : Nat) (m : Merge α) : Merge α :=
  { m with left := m.left.take keep, taken := m.left.drop keep ++ m.taken }

/-- take all but some values from the right run -/
def takeRightDown (keep : Nat) (m : Merge α) : Merge α :=
  { m with right := m.right.take keep, taken := m.right.drop keep ++ m.taken }

mutual

/-- take values one by one; the counts are the values in a row that the left and the right run have given -/
def oneByOneDown (less : Less α ε) : Nat → Nat → Nat → Merge α → Except ε (Merge α)
  | 0, _, _, m => .ok m
  | fuel + 1, fromLeft, fromRight, m =>
    match m.left.getLast?, m.right.getLast? with
    | some x, some y => do
      if ← less y x then
        let m := m.takeLeftDown (m.left.length - 1)
        if m.isOverDown then return m
        else if m.threshold ≤ fromLeft + 1 then manyDown less fuel m
        else oneByOneDown less fuel (fromLeft + 1) 0 m
      else
        let m := m.takeRightDown (m.right.length - 1)
        if m.isOverDown then return m
        else if m.threshold ≤ fromRight + 1 then manyDown less fuel m
        else oneByOneDown less fuel 0 (fromRight + 1) m
    | _, _ => .ok m

/-- take many values at once -/
def manyDown (less : Less α ε) : Nat → Merge α → Except ε (Merge α)
  | 0, m => .ok m
  | fuel + 1, m =>
    match m.right.getLast? with
    | none => .ok m
    | some y => do
      let size := m.left.length
      let i ← gallop (notAfter less y) m.left (size - 1)
      let m := m.takeLeftDown i
      if m.isOverDown then return m
      let m := m.takeRightDown (m.right.length - 1)
      if m.isOverDown then return m
      match m.left.getLast? with
      | none => return m
      | some x =>
        let size' := m.right.length
        let j ← gallop (isBefore less x) m.right (size' - 1)
        let m := m.takeRightDown j
        if m.isOverDown then return m
        let m := m.takeLeftDown (m.left.length - 1)
        if m.isOverDown then return m
        else if worthwhile ≤ size - i || worthwhile ≤ size' - j then manyDown less fuel m.eased
        else oneByOneDown less fuel 0 0 m.raised

end

/-- merge from the greatest values down: the last value of the left run comes last -/
def down (less : Less α ε) (m : Merge α) : Except ε (List α × Nat) := do
  let m := m.takeLeftDown (m.left.length - 1)
  let m ← if m.isOverDown then pure m else oneByOneDown less (m.left.length + m.right.length) 0 0 m
  return (m.right ++ m.left ++ m.taken, m.threshold)

end Merge

/-- two runs as one, and the new threshold; values at the front and the end that are in place stay there -/
def merge (less : Less α ε) (threshold : Nat) (xs ys : List α) : Except ε (List α × Nat) := do
  match ys with
  | [] => return (xs, threshold)
  | y :: _ =>
    let i ← gallop (notAfter less y) xs 0
    let left := xs.drop i
    match left.getLast? with
    | none => return (xs ++ ys, threshold)
    | some x =>
      let j ← gallop (isBefore less x) ys (ys.length - 1)
      if j = 0 then return (xs ++ ys, threshold)
      let m : Merge α := { left, right := ys.take j, threshold }
      let (merged, threshold) ← if left.length ≤ j then m.up less else m.down less
      return (xs.take i ++ merged ++ ys.drop j, threshold)

end Lending.Sorting
