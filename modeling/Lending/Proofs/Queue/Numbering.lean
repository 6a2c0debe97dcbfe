/-
The numbers in a queue.

A queue is numbered if its positions are 1, 2, 3 and so on (`Numbered`); the position behind it is then one more than its
size (`Numbered.nextPosition_eq`). An addition keeps the numbers (`Numbered.add`) and a removal makes them anew
(`numbered_remove`). What a queue holds apart from the numbers is a list that grows at its end and loses what is removed
(`contents_run`). `run_numbered` says both of every run.
-/
import Lending.Proofs.Queue.Order

namespace Lending

/-- the request without its position: all that a queue does not decide -/
def Request.unplaced (r : Request) : Request := { r with position := none }

namespace QueueOperation

/-- the id that an operation removes, if it removes one -/
def removed? : QueueOperation → Option Text
  | add _ => none
  | remove id => some id

/-- the ids that operations remove -/
def removedIds (ops : List QueueOperation) : List Text := ops.filterMap removed?

/-- the requests that operations add and do not remove after that -/
def kept : List QueueOperation → List Request
  | [] => []
  | add r :: ops => if r.id ∈ removedIds ops then kept ops else r :: kept ops
  | remove _ :: ops => kept ops

end QueueOperation

namespace Queue

open QueueOperation

variable {q : Queue} {r : Request} {ops : List QueueOperation}

/-- whether the positions are 1, 2, 3 and so on -/
def Numbered (q : Queue) : Prop := ∀ i (h : i < q.requests.length), q.requests[i].position = some ((i : Int) + 1)

instance (q : Queue) : Decidable q.Numbered := by unfold Numbered; infer_instance

/-- the requests of a queue without their positions, in order -/
def contents (q : Queue) : List Request := q.requests.map Request.unplaced

/-! ## Numbers -/

theorem withPosition_eq_self {n : Int} (h : r.position = some n) : r.withPosition n = r := by
  cases r
  cases h
  rfl

theorem length_renumber (n : Int) (rs : List Request) : (renumber n rs).length = rs.length := by
  induction rs generalizing n with
  | nil => rfl
  | cons r rs ih => simp [renumber, ih]

theorem getElem_renumber (n : Int) (rs : List Request) (i : Nat) (h : i < (renumber n rs).length)
    (h' : i < rs.length) : (renumber n rs)[i] = rs[i].withPosition (n + i) := by
  induction rs generalizing n i with
  | nil => cases h'
  | cons r rs ih =>
    cases i with
    | zero => simp [renumber]
    | succ i =>
      have hi : i < rs.length := Nat.lt_of_succ_lt_succ h'
      simp only [renumber, List.getElem_cons_succ]
      rw [ih (n + 1) i (by rwa [length_renumber]) hi]
      congr 1
      push_cast
      ring

/-- requests that have their numbers are not changed by numbering them -/
theorem Numbered.renumber_eq (h : q.Numbered) : renumber 1 q.requests = q.requests := by
  refine List.ext_getElem (length_renumber 1 q.requests) fun i hi hi' => ?_
  rw [getElem_renumber 1 q.requests i hi hi', Int.add_comm]
  exact withPosition_eq_self (h i hi')

theorem numbered_renumber (rs : List Request) : Numbered ⟨renumber 1 rs⟩ := by
  intro i hi
  have hi' : i < rs.length := by rwa [← length_renumber 1 rs]
  have hget := getElem_renumber 1 rs i hi hi'
  calc (renumber 1 rs)[i].position = (rs[i].withPosition (1 + i)).position := by rw [hget]
    _ = some ((i : Int) + 1) := by rw [Int.add_comm]; rfl

theorem numbered_remove (q : Queue) (id : Text) : (q.remove id).Numbered := numbered_renumber _

/-- the last position of a numbered queue is its size -/
theorem Numbered.lastPosition_eq (h : q.Numbered) : q.lastPosition = q.size := by
  unfold lastPosition size
  cases hq : q.requests with
  | nil => rfl
  | cons r rs =>
    have hlast : (q.requests.filterMap (·.position)).max? = some (q.requests.length : Int) := by
      have hpos : 0 < q.requests.length := by simp [hq]
      refine List.max?_eq_some_iff.2 ⟨List.mem_filterMap.2 ⟨_, List.getElem_mem (Nat.sub_one_lt_of_lt hpos), ?_⟩, ?_⟩
      · rw [h _ (Nat.sub_one_lt_of_lt hpos)]
        congr 1
        omega
      · intro n hn
        obtain ⟨s, hs, hsn⟩ := List.mem_filterMap.1 hn
        obtain ⟨i, hi, rfl⟩ := List.getElem_of_mem hs
        rw [h i hi, Option.some.injEq] at hsn
        omega
    rw [← hq, hlast, Option.getD_some]

theorem Numbered.nextPosition_eq (h : q.Numbered) : q.nextPosition = q.size + 1 := by
  rw [nextPosition, h.lastPosition_eq]

theorem Numbered.add (h : q.Numbered) (r : Request) : (q.add r).Numbered := by
  intro i hi
  simp only [Queue.add] at hi ⊢
  by_cases hlt : i < q.requests.length
  · rw [List.getElem_append_left hlt]
    exact h i hlt
  · have hlast : i = q.requests.length := by
      simp only [List.length_append, List.length_singleton] at hi
      omega
    subst hlast
    rw [List.getElem_append_right le_rfl]
    simp only [Nat.sub_self, List.getElem_cons_zero, Request.withPosition, h.nextPosition_eq, size]

/-- **Added and removed.** A request that is put behind a numbered queue and taken out again leaves the queue as it was,
if no other has its id. -/
theorem Numbered.remove_add (h : q.Numbered) (hr : q.contains r.id = false) : (q.add r).remove r.id = q := by
  have hothers : ∀ s ∈ q.requests, s.id ≠ r.id := by simpa [contains] using hr
  have hfilter : (q.add r).requests.filter (·.id ≠ r.id) = q.requests := by
    simp only [Queue.add, List.filter_append]
    rw [List.filter_eq_self.2 fun s hs => by simpa using hothers s hs]
    simp [Request.withPosition]
  rw [remove, hfilter, h.renumber_eq]

/-! ## Contents -/

theorem unplaced_renumber (n : Int) (rs : List Request) :
    (renumber n rs).map Request.unplaced = rs.map Request.unplaced := by
  induction rs generalizing n with
  | nil => rfl
  | cons r rs ih =>
    simp only [renumber, List.map_cons, ih]
    rfl

theorem contents_add (q : Queue) (r : Request) : (q.add r).contents = q.contents ++ [r.unplaced] := by
  simp only [contents, Queue.add, List.map_append]
  rfl

theorem contents_remove (q : Queue) (id : Text) : (q.remove id).contents = q.contents.filter (·.id ≠ id) := by
  simp only [contents, remove, unplaced_renumber, List.filter_map]
  rfl

/-- after a run a queue holds what it held and was not removed, and behind it what was added and not removed again -/
theorem contents_run (q : Queue) (ops : List QueueOperation) :
    (q.run ops).contents = q.contents.filter (·.id ∉ removedIds ops) ++ (kept ops).map Request.unplaced := by
  induction ops generalizing q with
  | nil => simp [run, removedIds, kept]
  | cons op ops ih =>
    rw [run_cons, ih]
    cases op with
    | add r =>
      have hids : removedIds (.add r :: ops) = removedIds ops := rfl
      have hid : r.unplaced.id = r.id := rfl
      rw [step, contents_add, List.filter_append, hids, kept, List.append_assoc]
      congr 1
      by_cases hr : r.id ∈ removedIds ops
      · simp [hr, hid]
      · simp [hr, hid]
    | remove id =>
      have hids : removedIds (.remove id :: ops) = id :: removedIds ops := rfl
      rw [step, contents_remove, hids, kept, List.filter_filter]
      congr 2
      funext s
      simp [Bool.and_comm]

/-! ## Runs -/

theorem Numbered.run (h : q.Numbered) (ops : List QueueOperation) : (q.run ops).Numbered := by
  induction ops generalizing q with
  | nil => exact h
  | cons op ops ih =>
    rw [run_cons]
    cases op with
    | add r => exact ih (h.add r)
    | remove id => exact ih (q.numbered_remove id)

/-- **A numbered queue stays numbered.** After any run of additions and removals the positions are 1, 2, 3 and so on, and
the next one is the size and one. The queue holds what it held and was not removed, in its order and with nothing but
the positions changed, and behind it what was added and not removed again. What is added and at once removed leaves the
queue as it was. -/
theorem run_numbered (q : Queue) (h : q.Numbered) (ops : List QueueOperation) :
    let last := q.run ops
    last.Numbered ∧ last.nextPosition = last.size + 1 ∧
      last.contents = q.contents.filter (·.id ∉ removedIds ops) ++ (kept ops).map Request.unplaced ∧
      ∀ r, q.contains r.id = false → (q.add r).remove r.id = q := by
  intro last
  have hlast : last.Numbered := h.run ops
  exact ⟨hlast, hlast.nextPosition_eq, contents_run q ops, fun r hr => h.remove_add hr⟩

/-- two holds that wait for an item -/
def twoHolds : Queue := ⟨[unplacedHold.withPosition 1, nextHold.withPosition 2]⟩

/-- the first hold is filled, a third one comes twice and goes -/
def holdOperations : List QueueOperation :=
  [.remove "request-1", .add { nextHold with id := "request-3" }, .add { nextHold with id := "request-3" },
    .remove "request-3", .remove "request-4", .add { unplacedHold with position := some 7 }]

/-- the second hold moves up, and the first one comes back behind it -/
theorem run_twoHolds :
    twoHolds.Numbered ∧ (twoHolds.run holdOperations).Numbered ∧
      (twoHolds.run holdOperations).nextPosition = (twoHolds.run holdOperations).size + 1 ∧
      (twoHolds.run holdOperations).contents = [nextHold, unplacedHold] ∧
      twoHolds.contains "request-3" = false ∧
      (twoHolds.add { nextHold with id := "request-3" }).remove "request-3" = twoHolds := by
  have h : twoHolds.Numbered := by decide
  obtain ⟨hnumbered, hnext, hcontents, hback⟩ := run_numbered twoHolds h holdOperations
  refine ⟨h, hnumbered, hnext, ?_, by decide, hback { nextHold with id := "request-3" } (by decide)⟩
  rw [hcontents]
  decide

end Queue

end Lending
