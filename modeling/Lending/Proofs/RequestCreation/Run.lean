/-
Requests for one item, one after the other.

An item is asked for again and again (`RequestedItem.run`): a request that is made leaves the item and the loan as the
decision returns them and is put in order with the others of the queue; one that fails leaves all as it was. The place that
a decision gives a request is the one behind the queue, so putting it in order is the same as adding it (`of_concat_eq_add`).
The status of an item goes one way: an item that was paged is never available again, and a recalled item stays recalled.
`run_requests` draws from this what holds after every run.
-/
import Lending.Proofs.Queue.Numbering
import Lending.Proofs.RequestCreation

namespace Lending

/-! ## Status -/

namespace RequestType

variable {t : RequestType} {status : ItemStatus}

theorem status_of_allowedFor_page (h : RequestType.page.allowedFor status = true) : status = .available := by
  simpa [allowedFor] using h

/-- no request makes an item available -/
theorem statusAfter_ne_available (h : t.allowedFor status = true) : t.statusAfter status ≠ .available := by
  cases t with
  | page => simp [statusAfter]
  | hold => cases status <;> simp_all [statusAfter, allowedFor]
  | callBack => cases status <;> simp_all [statusAfter, allowedFor, ItemStatus.isCheckedOut]

/-- no request that may be made takes the recall from an item -/
theorem statusAfter_recalled (h : t.allowedFor .checkedOutRecalled = true) :
    t.statusAfter .checkedOutRecalled = .checkedOutRecalled := by
  cases t with
  | page => cases h
  | hold => rfl
  | callBack => rfl

end RequestType

/-! ## Queues -/

namespace Queue

/-- putting a request with the next place in order with the others is adding it -/
theorem of_concat_eq_add {q : Queue} (h : q.InOrder) (hplaced : q.AllPlaced) (r : Request) :
    of (q.requests ++ [r.withPosition q.nextPosition]) = q.add r :=
  of_eq_self_iff.2 (inOrder_add_iff.2 ⟨h, hplaced⟩)

theorem Numbered.allPlaced {q : Queue} (h : q.Numbered) : q.AllPlaced := by
  intro r hr
  obtain ⟨i, hi, rfl⟩ := List.getElem_of_mem hr
  rw [Request.Placed, h i hi]
  rfl

theorem Numbered.inOrder {q : Queue} (h : q.Numbered) : q.InOrder := by
  refine List.pairwise_iff_getElem.2 fun i j hi hj hij => ?_
  rw [precedes_of_position (h i hi) (h j hj)]
  omega

end Queue

/-! ## What a request that is made returns -/

namespace RequestDesk

variable {desk : RequestDesk} {c done : RequestContext}

/-- a request that is made has the place behind the queue, and its item the status that goes with it -/
theorem create_eq_ok (hworks : desk.storageFailure = none) (h : (desk.create c).outcome = .ok done) :
    ∃ item, c.item = some item ∧ c.request.type.allowedFor item.status = true ∧
      done.request = c.request.withPosition c.queue.nextPosition ∧ done.item = some (requested c item) := by
  cases hcheck : desk.check c with
  | failed cause =>
    rw [(create_of_check_failed hcheck).1] at h
    cases h
  | ok accepted =>
    obtain ⟨item, policy, hacc, -⟩ := check_eq_ok_iff.1 hcheck
    rw [create_outcome_of_accepts hworks hacc] at h
    obtain ⟨hrequest, hitem⟩ := recallLoan_frame h
    refine ⟨item, hacc.item_eq, hacc.status, ?_, ?_⟩
    · rw [hrequest, noted, noteOnLoan_request]
      rfl
    · rw [hitem, noted, noteOnLoan_item]

end RequestDesk

/-! ## Runs -/

/-- an item that is asked for, with its loan and the requests that wait for it -/
structure RequestedItem where
  item : Option Item
  loan : Option Loan
  queue : Queue
deriving DecidableEq

/-- one attempt to ask for an item: the request, who makes it, and what decides on it at the time; the store works -/
structure RequestAttempt where
  request : Request
  requester : Option Patron
  requestPolicy : Option RequestPolicy := none
  loanPolicy : Option LoanPolicy := none
  rules : RuleTable
  policies : List (Text × RequestPolicy)
  savesItems : Bool := true
  now : Option DateTime
deriving DecidableEq

namespace RequestAttempt

/-- what an attempt is decided with -/
def desk (a : RequestAttempt) : RequestDesk where
  rules := a.rules
  policies := a.policies
  savesItems := a.savesItems
  now := a.now

/-- the request with the records that decide on it -/
def context (a : RequestAttempt) (s : RequestedItem) : RequestContext where
  request := a.request
  queue := s.queue
  item := s.item
  requester := a.requester
  requestPolicy := a.requestPolicy
  loan := s.loan
  loanPolicy := a.loanPolicy

/-- what the decision returns, if the request is made -/
def made? (a : RequestAttempt) (s : RequestedItem) : Option RequestContext :=
  (a.desk.create (a.context s)).outcome.toOption

end RequestAttempt

namespace RequestedItem

variable {s : RequestedItem} {a : RequestAttempt} {done : RequestContext} {status : ItemStatus}

def status? (s : RequestedItem) : Option ItemStatus := s.item.map (·.status)

/-- an item once a request for it is made: item and loan are taken over, and the queue is put in order anew -/
def takeOver (s : RequestedItem) (done : RequestContext) : RequestedItem where
  item := done.item
  loan := done.loan
  queue := .of (s.queue.requests ++ [done.request])

/-- an item after an attempt to ask for it: as it was, if the attempt fails -/
def step (s : RequestedItem) (a : RequestAttempt) : RequestedItem := ((a.made? s).map s.takeOver).getD s

/-- an item after one attempt after the other -/
def run (s : RequestedItem) (attempts : List RequestAttempt) : RequestedItem := attempts.foldl step s

/-- the requests that a run makes, as they are returned and in this order -/
def created : RequestedItem → List RequestAttempt → List Request
  | _, [] => []
  | s, a :: rest => ((a.made? s).map (·.request)).toList ++ created (s.step a) rest

/-! ## What one attempt does -/

/-- **One attempt.** A request that is made was allowed for the item. It is the one that an addition to the queue would
have put there, so the queue in order is the queue with the request added. -/
theorem made?_eq_some (hqueue : s.queue.Numbered) (h : a.made? s = some done) :
    s.step a = s.takeOver done ∧ s.queue.add a.request = ⟨s.queue.requests ++ [done.request]⟩ ∧
      (s.step a).queue = s.queue.add a.request ∧ done.request.type = a.request.type ∧
      ∃ status, s.status? = some status ∧ a.request.type.allowedFor status = true ∧
        (s.step a).status? = some (a.request.type.statusAfter status) := by
  have hcreate : (a.desk.create (a.context s)).outcome = .ok done := Outcome.toOption_eq_some.1 h
  obtain ⟨item, hitem, hallowed, hrequest, hdone⟩ := RequestDesk.create_eq_ok rfl hcreate
  have hrequest : done.request = a.request.withPosition s.queue.nextPosition := hrequest
  have hstep : s.step a = s.takeOver done := by rw [step, h, Option.map_some, Option.getD_some]
  have hadd : s.queue.add a.request = ⟨s.queue.requests ++ [done.request]⟩ := by rw [hrequest, Queue.add]
  refine ⟨hstep, hadd, ?_, by rw [hrequest]; rfl, item.status, ?_, hallowed, ?_⟩
  · rw [hstep, takeOver, hrequest]
    exact Queue.of_concat_eq_add hqueue.inOrder hqueue.allPlaced a.request
  · have hitem : s.item = some item := hitem
    rw [status?, hitem, Option.map_some]
  · rw [hstep, status?, takeOver, hdone]
    rfl

theorem step_of_made?_eq_none (h : a.made? s = none) : s.step a = s := by
  rw [step, h, Option.map_none, Option.getD_none]

theorem created_cons_of_made (h : a.made? s = some done) (rest : List RequestAttempt) :
    s.created (a :: rest) = done.request :: (s.step a).created rest := by
  rw [created, h]
  rfl

theorem created_cons_of_failed (h : a.made? s = none) (rest : List RequestAttempt) :
    s.created (a :: rest) = s.created rest := by
  rw [created, h, step_of_made?_eq_none h]
  rfl

/-- an attempt keeps the queue numbered, made or not -/
theorem numbered_step (h : s.queue.Numbered) (a : RequestAttempt) : (s.step a).queue.Numbered := by
  cases hmade : a.made? s with
  | none => rwa [step_of_made?_eq_none hmade]
  | some done =>
    obtain ⟨-, -, hqueue, -⟩ := made?_eq_some h hmade
    rw [hqueue]
    exact h.add a.request

/-- an attempt leaves a recalled item recalled -/
theorem recalled_step (hqueue : s.queue.Numbered) (h : s.status? = some .checkedOutRecalled) (a : RequestAttempt) :
    (s.step a).status? = some .checkedOutRecalled := by
  cases hmade : a.made? s with
  | none => rwa [step_of_made?_eq_none hmade]
  | some done =>
    obtain ⟨-, -, -, -, status, hstatus, hallowed, hafter⟩ := made?_eq_some hqueue hmade
    cases h.symm.trans hstatus
    rw [hafter, RequestType.statusAfter_recalled hallowed]

/-! ## What a run does -/

theorem run_cons (s : RequestedItem) (a : RequestAttempt) (rest : List RequestAttempt) :
    s.run (a :: rest) = (s.step a).run rest := rfl

theorem numbered_run (h : s.queue.Numbered) (attempts : List RequestAttempt) : (s.run attempts).queue.Numbered := by
  induction attempts generalizing s with
  | nil => exact h
  | cons a rest ih =>
    rw [run_cons]
    exact ih (numbered_step h a)

/-- the requests that a run makes stand behind those that waited before, in the order in which they were made -/
theorem requests_run (h : s.queue.Numbered) (attempts : List RequestAttempt) :
    (s.run attempts).queue.requests = s.queue.requests ++ s.created attempts := by
  induction attempts generalizing s with
  | nil => simp [run, created]
  | cons a rest ih =>
    rw [run_cons, ih (numbered_step h a)]
    cases hmade : a.made? s with
    | none => rw [step_of_made?_eq_none hmade, created_cons_of_failed hmade]
    | some done =>
      obtain ⟨-, hadd, hqueue, -⟩ := made?_eq_some h hmade
      rw [hqueue, hadd, created_cons_of_made hmade, List.append_assoc, List.singleton_append]

/-- a run makes as many pages as the item is available: one or none -/
theorem count_pages_created (h : s.queue.Numbered) (attempts : List RequestAttempt) :
    (s.created attempts).countP (·.type = .page) ≤ if s.status? = some .available then 1 else 0 := by
  induction attempts generalizing s with
  | nil => exact Nat.zero_le _
  | cons a rest ih =>
    cases hmade : a.made? s with
    | none =>
      rw [created_cons_of_failed hmade]
      exact ih h
    | some done =>
      obtain ⟨-, -, -, htype, status, hstatus, hallowed, hafter⟩ := made?_eq_some h hmade
      have hgone : (s.step a).status? ≠ some .available := by
        rw [hafter, Ne, Option.some.injEq]
        exact RequestType.statusAfter_ne_available hallowed
      have hrest : ((s.step a).created rest).countP (·.type = .page) = 0 := by
        simpa [hgone] using ih (numbered_step h a)
      rw [created_cons_of_made hmade, List.countP_cons, hrest, htype]
      by_cases hpage : a.request.type = .page
      · -- a page was allowed, so the item was available before it and is not after it
        rw [hpage] at hallowed
        simp [hpage, hstatus, RequestType.status_of_allowedFor_page hallowed]
      · simp [hpage]

theorem recalled_run (hqueue : s.queue.Numbered) (h : s.status? = some .checkedOutRecalled)
    (attempts : List RequestAttempt) : (s.run attempts).status? = some .checkedOutRecalled := by
  induction attempts generalizing s with
  | nil => exact h
  | cons a rest ih =>
    rw [run_cons]
    exact ih (numbered_step hqueue a) (recalled_step hqueue h a)

/-- **Requests for one item.** An item with a numbered queue is asked for any number of times. At every moment the queue is
numbered, and behind the requests that waited at first it has those that were made, in the order in which they were
made. A request that is made next is the one that an addition to the queue would put there, and the queue is then the
queue with the request added. At most one page is made in a run. Once the item is recalled, it stays so whatever comes
later. -/
theorem run_requests (s : RequestedItem) (h : s.queue.Numbered) (attempts : List RequestAttempt) :
    let reached := s.run attempts
    reached.queue.Numbered ∧
    reached.queue.requests = s.queue.requests ++ s.created attempts ∧
    (∀ next done, next.made? reached = some done →
      reached.queue.add next.request = ⟨reached.queue.requests ++ [done.request]⟩ ∧
      (reached.step next).queue = reached.queue.add next.request) ∧
    (s.created attempts).countP (·.type = .page) ≤ 1 ∧
    (reached.status? = some .checkedOutRecalled → ∀ later, (reached.run later).status? = some .checkedOutRecalled) := by
  intro reached
  have hreached : reached.queue.Numbered := numbered_run h attempts
  refine ⟨hreached, requests_run h attempts, fun next done hmade => ?_, ?_, fun hrecalled => recalled_run hreached hrecalled⟩
  · obtain ⟨-, hadd, hqueue, -⟩ := made?_eq_some hreached hmade
    exact ⟨hadd, hqueue⟩
  · refine (count_pages_created h attempts).trans ?_
    split_ifs <;> omega

/-- an item on loan that two holds wait for -/
def heldItem : RequestedItem where
  item := some { id := "item-1", status := .checkedOutHeld }
  loan := some LoanPolicy.marchLoan
  queue := Queue.twoHolds

/-- an attempt of a patron of a group, under a policy that allows every request -/
def attemptOf (requestId patronId : String) (type : RequestType) (now : DateTime) : RequestAttempt where
  request := { id := requestId, itemId := "item-1", requesterId := patronId, type, position := some 7 }
  requester := some { id := patronId, groupId := some "undergrad" }
  loanPolicy := some LoanPolicy.weekBackPolicy
  rules := ⟨"all", []⟩
  policies := [("all", .allowing RequestType.all (some "all"))]
  now := some now

/-- a page, which is refused, a recall and a hold -/
def marchAttempts : List RequestAttempt :=
  [attemptOf "request-3" "user-3" .page (.utcDay 2024 3 9), attemptOf "request-4" "user-4" .callBack (.utcDay 2024 3 11),
    attemptOf "request-5" "user-5" .hold (.utcDay 2024 3 13)]

/-- the recall and the hold stand behind the two holds, the item is recalled and stays so -/
theorem run_marchAttempts :
    heldItem.queue.Numbered ∧ (heldItem.run marchAttempts).queue.Numbered ∧
      (heldItem.run marchAttempts).queue.requests.map (·.id) =
        (["request-1", "request-2", "request-4", "request-5"] : List Text) ∧
      (heldItem.run marchAttempts).status? = some .checkedOutRecalled ∧
      ∀ later, ((heldItem.run marchAttempts).run later).status? = some .checkedOutRecalled := by
  have h : heldItem.queue.Numbered := by decide
  have hcreated : (heldItem.created marchAttempts).map (·.id) = (["request-4", "request-5"] : List Text) := by decide +kernel
  have hstatus : (heldItem.run marchAttempts).status? = some .checkedOutRecalled := by decide +kernel
  obtain ⟨hnumbered, hrequests, -, -, hrecalled⟩ := run_requests heldItem h marchAttempts
  refine ⟨h, hnumbered, ?_, hstatus, hrecalled hstatus⟩
  calc (heldItem.run marchAttempts).queue.requests.map (·.id)
    _ = heldItem.queue.requests.map (·.id) ++ (heldItem.created marchAttempts).map (·.id) := by
      rw [hrequests, List.map_append]
    _ = heldItem.queue.requests.map (·.id) ++ (["request-4", "request-5"] : List Text) := congrArg _ hcreated
    _ = (["request-1", "request-2", "request-4", "request-5"] : List Text) := rfl

end RequestedItem

end Lending
