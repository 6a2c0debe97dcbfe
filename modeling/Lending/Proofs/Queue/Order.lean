/-
The order of a queue.

A request precedes another whose position is not lower, or that has none (`Request.Precedes`). A queue is in order if
each request precedes all behind it; `Queue.of` puts any requests in order and leaves alone what is in order
(`of_eq_self_iff`). An addition keeps the order exactly if every request has a place (`inOrder_add_iff`), a removal always
restores it (`inOrder_remove`). So a run of operations ends in order unless it only adds, behind a request without a
position (`run_inOrder_iff`).
-/
import Mathlib.Tactic
import Lending.Queue

namespace Lending

/-- whether a request may stand before another: by position, those without one last -/
def Request.Precedes (r s : Request) : Prop :=
  match r.position, s.position with
  | some m, some n => m ≤ n
  | none, some _ => False
  | _, none => True

/-- whether a request has a position -/
def Request.Placed (r : Request) : Prop := r.position.isSome = true

instance (r : Request) : Decidable r.Placed := by unfold Request.Placed; infer_instance

/-- something done with a queue -/
inductive QueueOperation
  | add (r : Request)
  | remove (id : Text)
deriving DecidableEq

namespace Queue

variable {q : Queue} {r s t : Request} {ops : List QueueOperation}

/-- whether each request precedes all behind it -/
def InOrder (q : Queue) : Prop := q.requests.Pairwise Request.Precedes

/-- whether every request has a position -/
def AllPlaced (q : Queue) : Prop := ∀ r ∈ q.requests, r.Placed

/-- the queue after an operation -/
def step (q : Queue) : QueueOperation → Queue
  | .add r => q.add r
  | .remove id => q.remove id

/-- the queue after one operation after the other -/
def run (q : Queue) (ops : List QueueOperation) : Queue := ops.foldl step q

/-! ## The order of requests -/

theorem inOrder_eq_true_iff : inOrder r s = true ↔ r.Precedes s := by
  unfold inOrder key Request.Precedes
  cases r.position with
  | none => cases s.position <;> simp
  | some m => cases s.position <;> simp

instance (r s : Request) : Decidable (r.Precedes s) := decidable_of_iff _ inOrder_eq_true_iff

instance (q : Queue) : Decidable q.InOrder := by unfold InOrder; infer_instance

theorem precedes_trans (hrs : r.Precedes s) (hst : s.Precedes t) : r.Precedes t := by
  unfold Request.Precedes at *
  cases hr : r.position <;> cases hs : s.position <;> cases ht : t.position <;> simp_all
  omega

theorem precedes_total (r s : Request) : r.Precedes s ∨ s.Precedes r := by
  unfold Request.Precedes
  cases r.position with
  | none => cases s.position <;> simp
  | some m =>
    cases s.position with
    | none => simp
    | some n => exact Int.le_total m n

theorem inOrder_trans (r s t : Request) (hrs : inOrder r s = true) (hst : inOrder s t = true) : inOrder r t = true :=
  inOrder_eq_true_iff.2 (precedes_trans (inOrder_eq_true_iff.1 hrs) (inOrder_eq_true_iff.1 hst))

theorem inOrder_total (r s : Request) : (inOrder r s || inOrder s r) = true := by
  simpa [inOrder_eq_true_iff] using precedes_total r s

theorem precedes_of_position {m n : Int} (hr : r.position = some m) (hs : s.position = some n) :
    r.Precedes s ↔ m ≤ n := by
  simp only [Request.Precedes, hr, hs]

/-- a request that precedes one with a position has a position itself -/
theorem placed_of_precedes (h : r.Precedes s) (hs : s.Placed) : r.Placed := by
  unfold Request.Precedes Request.Placed at *
  cases hr : r.position with
  | some m => rfl
  | none =>
    cases hp : s.position with
    | none => rw [hp] at hs; cases hs
    | some n => simp [hr, hp] at h

/-! ## Queues in order -/

theorem inOrder_of (rs : List Request) : (of rs).InOrder :=
  (List.pairwise_mergeSort inOrder_trans inOrder_total rs).imp inOrder_eq_true_iff.1

theorem mem_of {rs : List Request} : r ∈ (of rs).requests ↔ r ∈ rs := (List.mergeSort_perm rs inOrder).mem_iff

theorem allPlaced_of {rs : List Request} : (of rs).AllPlaced ↔ ∀ r ∈ rs, r.Placed := by
  unfold AllPlaced
  exact forall_congr' fun r => imp_congr_left mem_of

/-- ordering the requests of a queue again leaves it alone exactly if it is in order -/
theorem of_eq_self_iff : of q.requests = q ↔ q.InOrder := by
  constructor
  · intro h
    have hof := inOrder_of q.requests
    rwa [h] at hof
  · intro h
    have hsorted : q.requests.Pairwise fun a b => inOrder a b = true := h.imp inOrder_eq_true_iff.2
    rw [of, List.mergeSort_of_pairwise hsorted]

/-- the first request of a queue in order precedes all others, and the second all but the first -/
theorem InOrder.front {first second : Request} {rest : List Request} (h : q.InOrder)
    (hq : q.requests = first :: second :: rest) : first.Precedes second ∧ ∀ r ∈ rest, second.Precedes r := by
  unfold InOrder at h
  rw [hq] at h
  obtain ⟨hfirst, hrest⟩ := List.pairwise_cons.1 h
  obtain ⟨hsecond, -⟩ := List.pairwise_cons.1 hrest
  exact ⟨hfirst second List.mem_cons_self, hsecond⟩

/-- in a queue in order, the first request that can be fulfilled precedes all that can be -/
theorem InOrder.first_precedes (h : q.InOrder) (hfirst : q.first? = some r) (hs : s ∈ q.requests)
    (hfulfillable : s.isFulfillable = true) : r.Precedes s := by
  obtain ⟨-, before, behind, hq, hbefore⟩ := List.find?_eq_some_iff_append.1 hfirst
  unfold InOrder at h
  rw [hq] at h hs
  obtain ⟨-, hordered, -⟩ := List.pairwise_append.1 h
  rcases List.mem_append.1 hs with hs | hs
  · have hnot := hbefore s hs
    rw [hfulfillable] at hnot
    cases hnot
  · rcases List.mem_cons.1 hs with rfl | hs
    · exact (precedes_total s s).elim id id
    · exact (List.pairwise_cons.1 hordered).1 s hs

/-! ## Additions -/

/-- no position in a queue is higher than the last one -/
theorem le_lastPosition {n : Int} (hr : r ∈ q.requests) (hn : r.position = some n) : n ≤ q.lastPosition := by
  have hmem : n ∈ q.requests.filterMap (·.position) := List.mem_filterMap.2 ⟨r, hr, hn⟩
  unfold lastPosition
  cases hmax : (q.requests.filterMap (·.position)).max? with
  | none =>
    rw [List.max?_eq_none_iff] at hmax
    rw [hmax] at hmem
    cases hmem
  | some m => exact (List.max?_eq_some_iff.1 hmax).2 n hmem

/-- what is put at the end comes after the requests with a position, and only after them -/
theorem precedes_next_iff (hr : r ∈ q.requests) : r.Precedes (s.withPosition q.nextPosition) ↔ r.Placed := by
  constructor
  · intro h
    exact placed_of_precedes h rfl
  · intro h
    obtain ⟨n, hn⟩ := Option.isSome_iff_exists.1 h
    have hle := le_lastPosition hr hn
    rw [precedes_of_position hn rfl, nextPosition]
    omega

theorem inOrder_add_iff : (q.add r).InOrder ↔ q.InOrder ∧ q.AllPlaced := by
  unfold InOrder AllPlaced add
  simp only [List.pairwise_append, List.pairwise_singleton, List.mem_singleton, forall_eq, true_and]
  refine and_congr_right fun _ => forall₂_congr fun s hs => ?_
  exact precedes_next_iff hs

theorem allPlaced_add_iff : (q.add r).AllPlaced ↔ q.AllPlaced := by
  unfold AllPlaced add
  simp [or_imp, forall_and, Request.Placed, Request.withPosition]

/-! ## Removals -/

/-- requests that are numbered from a position on have positions from there on -/
theorem position_of_mem_renumber {n : Int} {rs : List Request} (h : s ∈ renumber n rs) :
    ∃ m, s.position = some m ∧ n ≤ m := by
  induction rs generalizing n with
  | nil => cases h
  | cons r rs ih =>
    rcases List.mem_cons.1 h with rfl | h
    · exact ⟨n, rfl, le_rfl⟩
    · obtain ⟨m, hm, hle⟩ := ih h
      exact ⟨m, hm, by omega⟩

theorem pairwise_renumber (n : Int) (rs : List Request) : (renumber n rs).Pairwise Request.Precedes := by
  induction rs generalizing n with
  | nil => exact List.Pairwise.nil
  | cons r rs ih =>
    refine List.pairwise_cons.2 ⟨fun s hs => ?_, ih (n + 1)⟩
    obtain ⟨m, hm, hle⟩ := position_of_mem_renumber hs
    rw [precedes_of_position rfl hm]
    omega

theorem inOrder_remove (q : Queue) (id : Text) : (q.remove id).InOrder := pairwise_renumber 1 _

theorem allPlaced_remove (q : Queue) (id : Text) : (q.remove id).AllPlaced := by
  intro r hr
  obtain ⟨m, hm, -⟩ := position_of_mem_renumber hr
  rw [Request.Placed, hm]
  rfl

/-! ## Runs -/

theorem run_cons (q : Queue) (op : QueueOperation) (ops : List QueueOperation) :
    q.run (op :: ops) = (q.step op).run ops := rfl

theorem run_append (q : Queue) (done rest : List QueueOperation) : q.run (done ++ rest) = (q.run done).run rest :=
  List.foldl_append

/-- once every request has a position, all queues that follow are in order -/
theorem run_inOrder_of_allPlaced (h : q.InOrder) (hplaced : q.AllPlaced) (ops : List QueueOperation) :
    (q.run ops).InOrder := by
  induction ops generalizing q with
  | nil => exact h
  | cons op ops ih =>
    rw [run_cons]
    cases op with
    | add r => exact ih (inOrder_add_iff.2 ⟨h, hplaced⟩) (allPlaced_add_iff.2 hplaced)
    | remove id => exact ih (q.inOrder_remove id) (q.allPlaced_remove id)

/-- a removal restores the order for the rest of a run, whatever was before it -/
theorem run_inOrder_of_remove {id : Text} (h : .remove id ∈ ops) : (q.run ops).InOrder := by
  obtain ⟨done, rest, rfl⟩ := List.append_of_mem h
  rw [run_append, run_cons]
  exact run_inOrder_of_allPlaced (inOrder_remove _ id) (allPlaced_remove _ id) rest

/-- additions restore no order -/
theorem run_not_inOrder (h : ¬ q.InOrder) (hadds : ∀ op ∈ ops, ∃ r, op = .add r) : ¬ (q.run ops).InOrder := by
  induction ops generalizing q with
  | nil => exact h
  | cons op ops ih =>
    obtain ⟨⟨r, rfl⟩, hrest⟩ := List.forall_mem_cons.1 hadds
    have hstep : ¬ (q.step (.add r)).InOrder := fun hadd => h (inOrder_add_iff.1 hadd).1
    rw [run_cons]
    exact ih hstep hrest

/-- whether operations add at least one request and do nothing else -/
def OnlyAdds (ops : List QueueOperation) : Prop := ops ≠ [] ∧ ∀ op ∈ ops, ∃ r, op = .add r

theorem OnlyAdds.not_mem_remove (h : OnlyAdds ops) (id : Text) : .remove id ∉ ops := by
  intro hmem
  obtain ⟨r, hr⟩ := h.2 _ hmem
  cases hr

/-- operations that are not only additions do nothing or remove something -/
theorem exists_remove_of_not_onlyAdds (h : ¬ OnlyAdds ops) : ops = [] ∨ ∃ id, .remove id ∈ ops := by
  by_cases hnil : ops = []
  · exact .inl hnil
  · right
    by_contra hnone
    refine h ⟨hnil, fun op hop => ?_⟩
    cases op with
    | add r => exact ⟨r, rfl⟩
    | remove id => exact absurd ⟨id, hop⟩ hnone

/-- additions to a queue with a request that has no position leave it out of order -/
theorem OnlyAdds.not_inOrder (h : OnlyAdds ops) (hplaced : ¬ q.AllPlaced) : ¬ (q.run ops).InOrder := by
  obtain ⟨hne, hadds⟩ := h
  cases ops with
  | nil => exact absurd rfl hne
  | cons op ops =>
    obtain ⟨⟨r, rfl⟩, hrest⟩ := List.forall_mem_cons.1 hadds
    have hstep : ¬ (q.step (.add r)).InOrder := fun hadd => hplaced (inOrder_add_iff.1 hadd).2
    rw [run_cons]
    exact run_not_inOrder hstep hrest

/-- a run on a queue in order ends in order unless it only adds, behind a request without a position -/
theorem InOrder.run_iff (h : q.InOrder) : (q.run ops).InOrder ↔ ¬ (¬ q.AllPlaced ∧ OnlyAdds ops) := by
  constructor
  · rintro hrun ⟨hplaced, hadds⟩
    exact hadds.not_inOrder hplaced hrun
  · intro hnot
    by_cases hplaced : q.AllPlaced
    · exact run_inOrder_of_allPlaced h hplaced ops
    · rcases exists_remove_of_not_onlyAdds fun hadds => hnot ⟨hplaced, hadds⟩ with rfl | ⟨id, hid⟩
      · exact h
      · exact run_inOrder_of_remove hid

/-- **When a queue stays in order.** Requests are put in order and then added and removed. The queue is in order at the
end, and ordering it again changes nothing, exactly if it is not the case that there were requests without a position
and requests were added and never removed. In a queue in order the first request that can be fulfilled precedes all that
can be, and the first and the second request precede all behind them. -/
theorem run_inOrder_iff (rs : List Request) (ops : List QueueOperation) :
    let q := (of rs).run ops
    (q.InOrder ↔ ¬ ((∃ r ∈ rs, ¬ r.Placed) ∧ OnlyAdds ops)) ∧
    (of q.requests = q ↔ q.InOrder) ∧
    (q.InOrder →
      (∀ r, q.first? = some r → ∀ s ∈ q.requests, s.isFulfillable = true → r.Precedes s) ∧
      ∀ first second rest, q.requests = first :: second :: rest →
        first.Precedes second ∧ ∀ r ∈ rest, second.Precedes r) := by
  intro q
  have hunplaced : (∃ r ∈ rs, ¬ r.Placed) ↔ ¬ (of rs).AllPlaced := by
    rw [allPlaced_of]
    push Not
    rfl
  refine ⟨?_, of_eq_self_iff, fun h => ⟨fun r hr s hs hf => h.first_precedes hr hs hf, fun _ _ _ hq => h.front hq⟩⟩
  rw [hunplaced]
  exact (inOrder_of rs).run_iff

/-- a hold without a position -/
def unplacedHold : Request := { id := "request-1", itemId := "item-1", requesterId := "user-1", type := .hold }

/-- another request for the same item -/
def nextHold : Request := { id := "request-2", itemId := "item-1", requesterId := "user-2", type := .hold }

/-- a removal, also of a request that is not there, puts a hold without a position in order with the one behind it -/
theorem run_unplaced_restored :
    ¬ ((∃ r ∈ [unplacedHold], ¬ r.Placed) ∧ OnlyAdds [.add nextHold, .remove "request-3"]) ∧
      ((of [unplacedHold]).run [.add nextHold, .remove "request-3"]).InOrder := by
  have hnot : ¬ ((∃ r ∈ [unplacedHold], ¬ r.Placed) ∧ OnlyAdds [.add nextHold, .remove "request-3"]) := by
    rintro ⟨-, hadds⟩
    exact hadds.not_mem_remove "request-3" (by simp)
  exact ⟨hnot, (run_inOrder_iff [unplacedHold] [.add nextHold, .remove "request-3"]).1.2 hnot⟩

/-- what is added behind a hold without a position has one, so the two are out of order: the hold is first in the queue,
and ordering it again puts the other there -/
theorem run_unplaced_overtaken :
    let q := (of [unplacedHold]).run [.add nextHold]
    ¬ q.InOrder ∧ of q.requests ≠ q ∧ q.requests.map (·.position) = [none, some 1] ∧ q.first? = some unplacedHold := by
  intro q
  have hq : q = ⟨[unplacedHold, nextHold.withPosition 1]⟩ := by
    simp only [q, of, List.mergeSort_singleton]
    rfl
  have hnot : ¬ q.InOrder := by
    rw [hq]
    decide
  refine ⟨hnot, fun h => hnot (of_eq_self_iff.1 h), ?_, ?_⟩
  · rw [hq]
    rfl
  · rw [hq]
    rfl

end Queue

end Lending
