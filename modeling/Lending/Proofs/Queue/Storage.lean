/-
Queues and the order of storage.

The requests for an item come from the store in any order. `Queue.of` leaves the requests of each position, and those
without one, as they came (`requestsAt_of`). A list in order is settled by what it has at each position
(`eq_of_requestsAt`), so two lists give the same queue exactly if they have the same requests at each position, in the
same order (`of_eq_of_iff`). The next position and the awaiting of a pickup do not depend on the order of the list at all
(`nextPosition_eq_of_perm`, `awaitsOther_eq_of_perm`). Where no two requests have the same position and at most one has
none, the queue does not depend on it either (`of_eq_of_perm`), nor does anything that is decided with the queue.
-/
import Lending.CheckOut
import Lending.Proofs.Queue.Order
import Lending.Proofs.Time.Order

namespace Lending.Queue

variable {q q' : Queue} {r s : Request} {rs rs' : List Request}

/-- the requests at a position, or those without one, as they come -/
def requestsAt (position : Option Int) (rs : List Request) : List Request := rs.filter (·.position = position)

/-- whether no two requests have the same position and at most one has none -/
def DistinctPositions (rs : List Request) : Prop := (rs.map (·.position)).Nodup

instance (rs : List Request) : Decidable (DistinctPositions rs) := by unfold DistinctPositions; infer_instance

/-! ## Requests at a position -/

theorem mem_requestsAt_self : r ∈ requestsAt r.position rs ↔ r ∈ rs := by simp [requestsAt]

theorem requestsAt_cons_self (r : Request) (rs : List Request) :
    requestsAt r.position (r :: rs) = r :: requestsAt r.position rs :=
  List.filter_cons_of_pos (by simp)

theorem requestsAt_cons_of_ne {position : Option Int} (h : r.position ≠ position) (rs : List Request) :
    requestsAt position (r :: rs) = requestsAt position rs :=
  List.filter_cons_of_neg (by simpa using h)

/-- requests at one position may stand in any order -/
theorem precedes_of_position_eq (h : r.position = s.position) : r.Precedes s := by
  unfold Request.Precedes
  rw [h]
  cases s.position with
  | none => trivial
  | some n => exact le_rfl

/-- requests that may stand in either order are at one position -/
theorem position_eq_of_precedes (hrs : r.Precedes s) (hsr : s.Precedes r) : r.position = s.position := by
  unfold Request.Precedes at hrs hsr
  cases hr : r.position with
  | none =>
    cases hs : s.position with
    | none => rfl
    | some n => simp [hr, hs] at hrs
  | some m =>
    cases hs : s.position with
    | none => simp [hr, hs] at hsr
    | some n =>
      simp only [hr, hs] at hrs hsr
      rw [le_antisymm hrs hsr]

theorem pairwise_requestsAt (position : Option Int) (rs : List Request) :
    (requestsAt position rs).Pairwise Request.Precedes := by
  have hposition : ∀ r ∈ requestsAt position rs, r.position = position := fun r hr => by
    simpa using (List.mem_filter.1 hr).2
  exact List.pairwise_of_forall_mem_list fun r hr s hs =>
    precedes_of_position_eq ((hposition r hr).trans (hposition s hs).symm)

/-! ## Stability -/

theorem perm_of (rs : List Request) : (of rs).requests.Perm rs := List.mergeSort_perm rs inOrder

/-- ordering leaves the requests of each position as they came -/
theorem requestsAt_of (position : Option Int) (rs : List Request) :
    requestsAt position (of rs).requests = requestsAt position rs := by
  have hsorted : (requestsAt position rs).Pairwise fun r s => inOrder r s = true :=
    (pairwise_requestsAt position rs).imp inOrder_eq_true_iff.2
  have hsublist : (requestsAt position rs).Sublist (of rs).requests :=
    List.sublist_mergeSort inOrder_trans inOrder_total hsorted List.filter_sublist
  have hat : (requestsAt position rs).Sublist (requestsAt position (of rs).requests) := by
    have hfilter := hsublist.filter (·.position = position)
    simp only [requestsAt, List.filter_filter, Bool.and_self] at hfilter
    exact hfilter
  have hlength : (requestsAt position (of rs).requests).length = (requestsAt position rs).length :=
    ((perm_of rs).filter _).length_eq
  exact (hat.eq_of_length hlength.symm).symm

/-- in a queue in order, the requests without a position stand behind all others, as they come -/
theorem InOrder.placed_append (h : q.InOrder) :
    q.requests = q.requests.filter (·.Placed) ++ requestsAt none q.requests := by
  obtain ⟨rs⟩ := q
  unfold InOrder at h
  induction rs with
  | nil => rfl
  | cons r rs ih =>
    obtain ⟨hfirst, hrest⟩ := List.pairwise_cons.1 h
    by_cases hr : r.Placed
    · have hne : r.position ≠ none := Option.isSome_iff_ne_none.1 hr
      rw [List.filter_cons_of_pos (by simpa using hr), requestsAt_cons_of_ne hne, List.cons_append]
      exact congrArg (r :: ·) (ih hrest)
    · have hnone : ∀ s ∈ r :: rs, ¬ s.Placed := fun s hs hplaced => by
        rcases List.mem_cons.1 hs with rfl | hs
        · exact hr hplaced
        · exact hr (placed_of_precedes (hfirst s hs) hplaced)
      have hunplaced : ∀ s ∈ r :: rs, s.position = none := fun s hs =>
        Option.not_isSome_iff_eq_none.1 (hnone s hs)
      rw [List.filter_eq_nil_iff.2 fun s hs => by simpa using hnone s hs, requestsAt, List.nil_append]
      exact (List.filter_eq_self.2 fun s hs => by simpa using hunplaced s hs).symm

/-! ## Uniqueness -/

theorem mem_iff_of_requestsAt (h : ∀ position, requestsAt position rs = requestsAt position rs') :
    r ∈ rs ↔ r ∈ rs' := by
  rw [← mem_requestsAt_self, h, mem_requestsAt_self]

/-- a list in order is settled by what it has at each position -/
theorem eq_of_requestsAt (hr : rs.Pairwise Request.Precedes) (hr' : rs'.Pairwise Request.Precedes)
    (h : ∀ position, requestsAt position rs = requestsAt position rs') : rs = rs' := by
  induction rs generalizing rs' with
  | nil =>
    cases rs' with
    | nil => rfl
    | cons s rs' => exact absurd ((mem_iff_of_requestsAt h).2 List.mem_cons_self) List.not_mem_nil
  | cons r rs ih =>
    cases rs' with
    | nil => exact absurd ((mem_iff_of_requestsAt h).1 List.mem_cons_self) List.not_mem_nil
    | cons s rs' =>
      obtain ⟨hfirst, hrest⟩ := List.pairwise_cons.1 hr
      obtain ⟨hfirst', hrest'⟩ := List.pairwise_cons.1 hr'
      -- each of the two first requests is in the other list too, so neither precedes the other alone
      have hrs : r.Precedes s := by
        rcases List.mem_cons.1 ((mem_iff_of_requestsAt h).2 List.mem_cons_self) with rfl | hs
        · exact precedes_of_position_eq rfl
        · exact hfirst s hs
      have hsr : s.Precedes r := by
        rcases List.mem_cons.1 ((mem_iff_of_requestsAt h).1 List.mem_cons_self) with rfl | hr
        · exact precedes_of_position_eq rfl
        · exact hfirst' r hr
      have hposition := position_eq_of_precedes hrs hsr
      have hat := h r.position
      rw [requestsAt_cons_self, hposition, requestsAt_cons_self] at hat
      obtain rfl : r = s := (List.cons_eq_cons.1 hat).1
      have htail : ∀ position, requestsAt position rs = requestsAt position rs' := by
        intro position
        by_cases hp : r.position = position
        · rw [← hp]
          exact (List.cons_eq_cons.1 hat).2
        · have hne := h position
          rwa [requestsAt_cons_of_ne hp, requestsAt_cons_of_ne hp] at hne
      rw [ih hrest hrest' htail]

/-- two lists give the same queue exactly if they have the same requests at each position, in the same order -/
theorem of_eq_of_iff : of rs = of rs' ↔ ∀ position, requestsAt position rs = requestsAt position rs' := by
  constructor
  · intro h position
    rw [← requestsAt_of, h, requestsAt_of]
  · intro h
    have hrequests : (of rs).requests = (of rs').requests :=
      eq_of_requestsAt (inOrder_of rs) (inOrder_of rs') fun position => by
        rw [requestsAt_of, requestsAt_of, h]
    exact congrArg Queue.mk hrequests

/-! ## Permutations -/

theorem DistinctPositions.eq_of_position (h : DistinctPositions rs) (hr : r ∈ rs) (hs : s ∈ rs)
    (hposition : r.position = s.position) : r = s :=
  List.inj_on_of_nodup_map h hr hs hposition

/-- where positions are distinct, every permutation gives the same queue -/
theorem of_eq_of_perm (h : DistinctPositions rs) (hperm : rs.Perm rs') : of rs = of rs' := by
  have hperm' : (of rs).requests.Perm (of rs').requests := (perm_of rs).trans (hperm.trans (perm_of rs').symm)
  have hrequests : (of rs).requests = (of rs').requests := by
    refine hperm'.eq_of_pairwise (fun r s hr hs hrs hsr => ?_) (inOrder_of rs) (inOrder_of rs')
    have hr : r ∈ rs := mem_of.1 hr
    have hs : s ∈ rs := hperm.mem_iff.2 (mem_of.1 hs)
    exact h.eq_of_position hr hs (position_eq_of_precedes hrs hsr)
  exact congrArg Queue.mk hrequests

theorem nextPosition_eq_of_perm (h : q.requests.Perm q'.requests) : q.nextPosition = q'.nextPosition := by
  have hpositions : (q.requests.filterMap (·.position)).Perm (q'.requests.filterMap (·.position)) := h.filterMap _
  have hmax : (q.requests.filterMap (·.position)).max? = (q'.requests.filterMap (·.position)).max? :=
    Option.ext fun m => by simp only [List.max?_eq_some_iff, hpositions.mem_iff]
  rw [nextPosition, lastPosition, hmax, nextPosition, lastPosition]

theorem awaitsOther_eq_of_perm (h : q.requests.Perm q'.requests) (patronId : Option Text) :
    q.awaitsOther patronId = q'.awaitsOther patronId := h.any_eq

/-- **Storage order.** `Queue.of` is a stable sort: it holds the given requests, those with a position first and
ascending, those without one last, and leaves the requests of each position as they came. Another list gives the same
queue exactly if it has the same requests at each position, in the same order. A permutation gives the same next position
and the same answer to whether the item awaits pickup by another patron; if no two requests have the same position and
at most one has none, it gives the same queue, and so the same refusal of a pickup, alternate period and first due date. -/
theorem of_stable (rs : List Request) :
    (of rs).requests.Perm rs ∧
    (∃ placed, (of rs).requests = placed ++ requestsAt none rs ∧ (∀ r ∈ placed, r.Placed) ∧
      placed.Pairwise Request.Precedes) ∧
    (∀ position, requestsAt position (of rs).requests = requestsAt position rs) ∧
    (∀ rs', of rs = of rs' ↔ ∀ position, requestsAt position rs = requestsAt position rs') ∧
    ∀ rs', rs.Perm rs' →
      (of rs).nextPosition = (of rs').nextPosition ∧
      (∀ patronId, (of rs).awaitsOther patronId = (of rs').awaitsOther patronId) ∧
      (DistinctPositions rs →
        of rs = of rs' ∧
        (∀ (c : CheckOut) refusal,
          { c with queue := of rs }.checkPickup refusal = { c with queue := of rs' }.checkPickup refusal) ∧
        ∀ (p : LoanPolicy) l,
          p.usesAlternatePeriod (some (of rs)) = p.usesAlternatePeriod (some (of rs')) ∧
          p.calculateInitialDueDate l (some (of rs)) = p.calculateInitialDueDate l (some (of rs'))) := by
  have hsplit := (inOrder_of rs).placed_append
  rw [requestsAt_of] at hsplit
  have hplaced : ∀ r ∈ (of rs).requests.filter (·.Placed), r.Placed := fun r hr => by
    simpa using (List.mem_filter.1 hr).2
  refine ⟨perm_of rs, ⟨_, hsplit, hplaced, (inOrder_of rs).filter _⟩, fun position => requestsAt_of position rs,
    fun rs' => of_eq_of_iff, fun rs' hperm => ?_⟩
  have hqueues : (of rs).requests.Perm (of rs').requests := (perm_of rs).trans (hperm.trans (perm_of rs').symm)
  refine ⟨nextPosition_eq_of_perm hqueues, awaitsOther_eq_of_perm hqueues, fun hdistinct => ?_⟩
  have hof : of rs = of rs' := of_eq_of_perm hdistinct hperm
  refine ⟨hof, fun c refusal => ?_, fun p l => ⟨?_, ?_⟩⟩
  · rw [hof]
  · rw [hof]
  · rw [hof]

/-- a recall at position 0, which comes before all others -/
def zeroRecall : Request :=
  { id := "request-3", itemId := "item-1", requesterId := "user-3", type := .callBack, position := some 0 }

/-- requests as a store may return them: one without a position, and those at 2 and at 0 -/
def storedRequests : List Request := [unplacedHold, nextHold.withPosition 2, zeroRecall]

/-- a policy that lends for two weeks, and for three days where a hold waits -/
def threeDaysForHolds : LoanPolicy :=
  { profileId := some "Rolling", checkoutPeriod := .of .days 14, alternateCheckoutPeriod := some (.of .days 3) }

/-- position 0 comes first and no position last, so the hold at 2 shortens the loan -/
theorem of_stable_storedRequests :
    let queue : Queue := ⟨[zeroRecall, nextHold.withPosition 2, unplacedHold]⟩
    storedRequests.Perm queue.requests ∧ DistinctPositions storedRequests ∧ of storedRequests = queue ∧
      (of storedRequests).nextPosition = 3 ∧ (of storedRequests).awaitsOther (some "user-4") = false ∧
      (threeDaysForHolds.calculateInitialDueDate
        (Loan.of "loan-1" "item-1" "user-4" (some (.utcDay 2024 3 1)) none none) (some (of storedRequests))).value =
        .ok (.utcDay 2024 3 4) := by
  intro queue
  have hperm : storedRequests.Perm queue.requests := by decide
  have hdistinct : DistinctPositions storedRequests := by decide
  have hqueue : of queue.requests = queue := of_eq_self_iff.2 (by decide)
  obtain ⟨-, -, -, -, hstored⟩ := of_stable storedRequests
  obtain ⟨hnext, hawaits, hsame⟩ := hstored queue.requests hperm
  obtain ⟨hof, -, hdue⟩ := hsame hdistinct
  refine ⟨hperm, hdistinct, hof.trans hqueue, ?_, ?_, ?_⟩
  · rw [hnext, hqueue]
    decide
  · rw [hawaits, hqueue]
    decide
  · rw [(hdue threeDaysForHolds _).2, hqueue]
    decide +kernel

end Lending.Queue
