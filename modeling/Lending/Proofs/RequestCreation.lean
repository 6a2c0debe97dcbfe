/-
What a request leaves behind.

A request that is made is stored, with its item saved if the item's status changed; one that is refused should leave
nothing. `create_atomic_iff`: that is so except for one case. The item of a recall is saved before the loan is called
back, so a recall that the loan policy refuses leaves the item marked as recalled with no request for it
(`FailsAfterSaving`).
-/
import Lending.RequestCreation
import Lending.Proofs.LoanPolicy.Recall

namespace Lending

/-! ## The checks -/

namespace RequestContext

variable {c c' : RequestContext}

theorem checkItem_eq_ok : c.checkItem = .ok c' ↔ c.item.isSome = true ∧ c' = c := by
  unfold checkItem
  cases c.item with
  | none => simp
  | some item => simp [eq_comm]

theorem checkRequester_eq_ok :
    c.checkRequester = .ok c' ↔ (∃ patron, c.requester = some patron ∧ patron.groupId.isSome = true) ∧ c' = c := by
  unfold checkRequester
  cases c.requester with
  | none => simp
  | some patron =>
    cases hg : patron.groupId with
    | none => simp [hg]
    | some group =>
      simp only [hg, Option.isNone_some, Bool.false_eq_true, if_false]
      exact ⟨fun h => ⟨⟨patron, rfl, by rw [hg]; rfl⟩, (Outcome.ok.inj h).symm⟩, fun h => congrArg Outcome.ok h.2.symm⟩

theorem checkStatus_eq_ok : c.checkStatus = .ok c' ↔ c.allowedForItem = true ∧ c' = c := by
  unfold checkStatus
  split
  · next h => simp [h, eq_comm]
  · next h => simp [h]

theorem checkPolicy_eq_ok :
    c.checkPolicy = .ok c' ↔ c.requestPolicy.any (·.allows c.request.type) = true ∧ c' = c := by
  unfold checkPolicy
  split
  · next h => simp [h, eq_comm]
  · next h => simp [h]

/-- a request that has passed the checks under a policy, with its place behind the queue -/
def accepted (c : RequestContext) (policy : RequestPolicy) : RequestContext :=
  { c with requestPolicy := some policy, request := c.request.withPosition c.queue.nextPosition }

end RequestContext

namespace RequestDesk

variable {desk : RequestDesk} {c c' done : RequestContext} {item : Item} {policy : RequestPolicy} {cause : Cause}

theorem findPolicy_eq_ok :
    desk.findPolicy c = .ok c' ↔
      ∃ policy, desk.policies.lookup (desk.rules.resolve (ruleKey c)) = some policy ∧
        c' = { c with requestPolicy := some policy } := by
  simp only [findPolicy]
  cases desk.policies.lookup (desk.rules.resolve (ruleKey c)) <;> simp [eq_comm]

/-- what a request must meet: its item is there and may be asked for in this way, its requester has a group, and the
request policy for the two allows it -/
structure Accepts (desk : RequestDesk) (c : RequestContext) (item : Item) (policy : RequestPolicy) : Prop where
  item_eq : c.item = some item
  requester : ∃ patron, c.requester = some patron ∧ patron.groupId.isSome = true
  status : c.request.type.allowedFor item.status = true
  policy_eq : desk.policies.lookup (desk.rules.resolve (ruleKey c)) = some policy
  allowed : policy.allows c.request.type = true

theorem check_eq_ok_iff :
    desk.check c = .ok c' ↔ ∃ item policy, desk.Accepts c item policy ∧ c' = c.accepted policy := by
  simp only [check, Outcome.bind_eq_ok, RequestContext.checkItem_eq_ok, RequestContext.checkRequester_eq_ok,
    RequestContext.checkStatus_eq_ok, findPolicy_eq_ok, RequestContext.checkPolicy_eq_ok]
  constructor
  · rintro ⟨_, ⟨hitem, rfl⟩, _, ⟨hrequester, rfl⟩, _, ⟨hstatus, rfl⟩, _, ⟨policy, hpolicy, rfl⟩, _, ⟨hallowed, rfl⟩, h⟩
    obtain ⟨item, hitem⟩ := Option.isSome_iff_exists.1 hitem
    cases h
    refine ⟨item, policy, ⟨hitem, hrequester, ?_, hpolicy, by simpa using hallowed⟩, rfl⟩
    simpa [RequestContext.allowedForItem, hitem] using hstatus
  · rintro ⟨item, policy, h, rfl⟩
    refine ⟨c, ⟨by simp [h.item_eq], rfl⟩, c, ⟨h.requester, rfl⟩, c, ⟨?_, rfl⟩, _, ⟨policy, h.policy_eq, rfl⟩, _,
      ⟨by simpa using h.allowed, rfl⟩, rfl⟩
    simpa [RequestContext.allowedForItem, h.item_eq] using h.status

/-! ## The updates -/

/-- a desk whose items are saved and whose store works -/
def working (rules : RuleTable) (policies : List (Text × RequestPolicy)) (now : Option DateTime) : RequestDesk :=
  { rules, policies, now }

/-- the item once it is asked for -/
def requested (c : RequestContext) (item : Item) : Item :=
  { item with status := c.request.type.statusAfter item.status }

/-- what is saved for an item that is asked for: nothing if its status stays -/
def savedFor (c : RequestContext) (item : Item) : List Item :=
  if c.request.type.statusAfter item.status = item.status then [] else [requested c item]

/-- the item takes its status in any case, and is saved if that changes it and changed items are saved -/
theorem updateItem_eq (hitem : c.item = some item) :
    desk.updateItem c =
      ({ c with item := some (requested c item) }, if desk.savesItems then savedFor c item else []) := by
  simp only [updateItem, hitem, savedFor]
  split
  · next h => simp only [requested, h, ← hitem, ite_self]
  · rfl

@[simp] theorem noteOnLoan_request : (noteOnLoan c).request = c.request := by
  unfold noteOnLoan
  split <;> rfl

@[simp] theorem noteOnLoan_item : (noteOnLoan c).item = c.item := by
  unfold noteOnLoan
  split <;> rfl

@[simp] theorem noteOnLoan_loanPolicy : (noteOnLoan c).loanPolicy = c.loanPolicy := by
  unfold noteOnLoan
  split <;> rfl

theorem noteOnLoan_loan_of_callBack (h : c.request.type = .callBack) :
    (noteOnLoan c).loan = c.loan.map (·.withAction "recallrequested") := by
  unfold noteOnLoan
  cases hl : c.loan with
  | none => simp [hl]
  | some l => simp [h, RequestType.loanAction?]

/-- a recall goes by the dates of a loan and not by the note on it -/
theorem callBack_withAction (p : LoanPolicy) (l : Loan) (action : Text) (now : Option DateTime) :
    (p.callBack (l.withAction action) now).value = (p.callBack l now).value := rfl

theorem recalled_value (recalled : Logged (Outcome Loan)) (f : Loan → RequestContext) :
    (do return f <$> (← recalled) : Logged (Outcome RequestContext)).value = f <$> recalled.value := rfl

/-- calling the loan back fails for a recall only, and only if the loan policy refuses it -/
theorem recallLoan_eq_failed :
    (desk.recallLoan c).value = .failed cause ↔
      c.request.type = .callBack ∧
        ∃ l p, c.loan = some l ∧ c.loanPolicy = some p ∧ (p.callBack l desk.now).value = .failed cause := by
  unfold recallLoan
  split
  · next l p htype hl hp =>
    simp only [htype, hl, hp, recalled_value]
    cases hv : (p.callBack l desk.now).value <;> simp [hv]
  · next h =>
    constructor
    · intro h
      cases h
    · rintro ⟨htype, l, p, hl, hp, -⟩
      exact absurd hp (h l p htype hl)

/-- calling the loan back leaves the request and the item alone -/
theorem recallLoan_frame (h : (desk.recallLoan c).value = .ok done) :
    done.request = c.request ∧ done.item = c.item := by
  unfold recallLoan at h
  split at h
  · next l p htype hl hp =>
    rw [recalled_value] at h
    cases hv : (p.callBack l desk.now).value with
    | failed cause =>
      rw [hv] at h
      cases h
    | ok l' =>
      rw [hv] at h
      cases h
      exact ⟨rfl, rfl⟩
  · cases h
    exact ⟨rfl, rfl⟩

/-! ## What is left behind -/

/-- a refused request leaves nothing behind -/
theorem create_of_check_failed (h : desk.check c = .failed cause) :
    (desk.create c).outcome = .failed cause ∧ (desk.create c).saved = [] ∧ (desk.create c).stored = [] := by
  simp only [create, h, and_self]

/-- an accepted request, with its item and its loan noted, as it comes to the loan -/
def noted (c : RequestContext) (item : Item) (policy : RequestPolicy) : RequestContext :=
  noteOnLoan { c.accepted policy with item := some (requested c item) }

/-- what an accepted request comes to the loan with, and what was saved before -/
theorem updateItem_of_accepts (h : desk.Accepts c item policy) :
    noteOnLoan (desk.updateItem (c.accepted policy)).1 = noted c item policy ∧
      (desk.updateItem (c.accepted policy)).2 = if desk.savesItems then savedFor c item else [] := by
  have hitem : (c.accepted policy).item = some item := h.item_eq
  rw [updateItem_eq hitem]
  exact ⟨rfl, rfl⟩

/-- with a store that works, what becomes of an accepted request is up to its loan -/
theorem create_outcome_of_accepts (hworks : desk.storageFailure = none) (h : desk.Accepts c item policy) :
    (desk.create c).outcome = (desk.recallLoan (noted c item policy)).value := by
  have hcheck : desk.check c = .ok (c.accepted policy) := check_eq_ok_iff.2 ⟨item, policy, h, rfl⟩
  simp only [create, hcheck, (updateItem_of_accepts h).1, hworks]
  cases (desk.recallLoan (noted c item policy)).value <;> rfl

/-- an accepted request has its item saved, whatever becomes of the loan after it -/
theorem create_of_accepts (hsaves : desk.savesItems = true) (hworks : desk.storageFailure = none)
    (h : desk.Accepts c item policy) :
    (desk.create c).saved = savedFor c item ∧
    (∀ cause, (desk.recallLoan (noted c item policy)).value = .failed cause →
      (desk.create c).outcome = .failed cause ∧ (desk.create c).stored = []) ∧
    ∀ done, (desk.recallLoan (noted c item policy)).value = .ok done →
      (desk.create c).outcome = .ok done ∧ (desk.create c).stored = [done.request] := by
  have hcheck : desk.check c = .ok (c.accepted policy) := check_eq_ok_iff.2 ⟨item, policy, h, rfl⟩
  obtain ⟨hnoted, hsaved⟩ := updateItem_of_accepts h
  rw [if_pos hsaves] at hsaved
  simp only [create, hcheck, hnoted, hsaved, hworks]
  cases (desk.recallLoan (noted c item policy)).value <;> simp

/-- a request is refused by a check, or its item is saved and the recall of its loan fails or succeeds -/
theorem create_cases (hsaves : desk.savesItems = true) (hworks : desk.storageFailure = none) (c : RequestContext) :
    (∃ cause, (desk.create c).outcome = .failed cause ∧ (desk.create c).saved = [] ∧ (desk.create c).stored = []) ∨
    ∃ item policy, desk.Accepts c item policy ∧ (desk.create c).saved = savedFor c item ∧
      ((∃ cause, (desk.recallLoan (noted c item policy)).value = .failed cause ∧
          (desk.create c).outcome = .failed cause ∧ (desk.create c).stored = []) ∨
        ∃ done, (desk.recallLoan (noted c item policy)).value = .ok done ∧
          (desk.create c).outcome = .ok done ∧ (desk.create c).stored = [done.request]) := by
  cases hcheck : desk.check c with
  | failed cause => exact .inl ⟨cause, create_of_check_failed hcheck⟩
  | ok c' =>
    obtain ⟨item, policy, hacc, -⟩ := check_eq_ok_iff.1 hcheck
    obtain ⟨hsaved, hfailed, hok⟩ := create_of_accepts hsaves hworks hacc
    refine .inr ⟨item, policy, hacc, hsaved, ?_⟩
    cases hrecall : (desk.recallLoan (noted c item policy)).value with
    | failed cause => exact .inl ⟨cause, rfl, hfailed cause hrecall⟩
    | ok done => exact .inr ⟨done, rfl, hok done hrecall⟩

/-- whether the loan of an accepted request is called back goes by the loan as it came -/
theorem recallLoan_noted_eq_failed :
    (desk.recallLoan (noted c item policy)).value = .failed cause ↔
      c.request.type = .callBack ∧
        ∃ l p, c.loan = some l ∧ c.loanPolicy = some p ∧ (p.callBack l desk.now).value = .failed cause := by
  have htype : (noted c item policy).request.type = c.request.type := by rw [noted, noteOnLoan_request]; rfl
  have hpolicy : (noted c item policy).loanPolicy = c.loanPolicy := by rw [noted, noteOnLoan_loanPolicy]; rfl
  rw [recallLoan_eq_failed, htype, hpolicy]
  refine and_congr_right fun hc => ?_
  have hloan : (noted c item policy).loan = c.loan.map (·.withAction "recallrequested") :=
    noteOnLoan_loan_of_callBack hc
  constructor
  · rintro ⟨l', p, hl, hp, hv⟩
    rw [hloan] at hl
    obtain ⟨l, hcame, rfl⟩ := Option.map_eq_some_iff.1 hl
    rw [callBack_withAction] at hv
    exact ⟨l, p, hcame, hp, hv⟩
  · rintro ⟨l, p, hl, hp, hv⟩
    refine ⟨l.withAction "recallrequested", p, by rw [hloan, hl]; rfl, hp, ?_⟩
    rw [callBack_withAction]
    exact hv

/-- the item of a recall is saved if it is on loan and not recalled yet -/
theorem savedFor_eq_of_callBack (h : c.request.type = .callBack) :
    savedFor c item =
      if item.status.isCheckedOut = true ∧ item.status ≠ .checkedOutRecalled then
        [{ item with status := .checkedOutRecalled }]
      else [] := by
  rw [savedFor, requested, h]
  cases hs : item.status <;> simp [RequestType.statusAfter, ItemStatus.isCheckedOut]

end RequestDesk

/-- whether a creation is all or nothing: it fails and leaves nothing behind, or the request is stored once, and its
item saved once if the status of the item changed -/
structure Creation.Atomic (made : Creation) (c : RequestContext) : Prop where
  failed : ∀ cause, made.outcome = .failed cause → made.saved = [] ∧ made.stored = []
  succeeded : ∀ done, made.outcome = .ok done → made.stored = [done.request] ∧
    made.saved = if done.item.map (·.status) = c.item.map (·.status) then [] else done.item.toList

namespace RequestDesk

variable {desk : RequestDesk} {c c' done : RequestContext} {item : Item} {policy : RequestPolicy} {cause : Cause}

/-- an accepted recall of an item on loan, not recalled yet, whose loan policy refuses to call the loan back -/
structure FailsAfterSaving (desk : RequestDesk) (c : RequestContext) (item : Item) (cause : Cause) : Prop where
  accepted : ∃ policy, desk.Accepts c item policy
  type_eq : c.request.type = .callBack
  checkedOut : item.status.isCheckedOut = true
  changes : item.status ≠ .checkedOutRecalled
  refused : ∃ l p, c.loan = some l ∧ c.loanPolicy = some p ∧ (p.callBack l desk.now).value = .failed cause

/-- a recall that the loan policy refuses has its item saved all the same -/
theorem create_of_failsAfterSaving (hsaves : desk.savesItems = true) (hworks : desk.storageFailure = none)
    (h : desk.FailsAfterSaving c item cause) :
    (desk.create c).outcome = .failed cause ∧ (desk.create c).saved = [{ item with status := .checkedOutRecalled }] ∧
      (desk.create c).stored = [] := by
  obtain ⟨policy, hacc⟩ := h.accepted
  obtain ⟨hsaved, hfailed, -⟩ := create_of_accepts hsaves hworks hacc
  obtain ⟨houtcome, hstored⟩ := hfailed cause (recallLoan_noted_eq_failed.2 ⟨h.type_eq, h.refused⟩)
  rw [savedFor_eq_of_callBack h.type_eq, if_pos ⟨h.checkedOut, h.changes⟩] at hsaved
  exact ⟨houtcome, hsaved, hstored⟩

/-- a failed creation either left nothing behind or failed after its item was saved -/
theorem create_failed (hsaves : desk.savesItems = true) (hworks : desk.storageFailure = none)
    (h : (desk.create c).outcome = .failed cause) :
    ((desk.create c).saved = [] ∧ (desk.create c).stored = []) ∨ ∃ item, desk.FailsAfterSaving c item cause := by
  rcases create_cases hsaves hworks c with
    ⟨_, -, hnothing⟩ | ⟨item, policy, hacc, hsaved, ⟨cause', hrecall, houtcome, hstored⟩ | ⟨done, -, houtcome, -⟩⟩
  · exact .inl hnothing
  · rw [houtcome] at h
    cases h
    obtain ⟨htype, hrefused⟩ := recallLoan_noted_eq_failed.1 hrecall
    rw [savedFor_eq_of_callBack htype] at hsaved
    split at hsaved
    · next hitem => exact .inr ⟨item, ⟨policy, hacc⟩, htype, hitem.1, hitem.2, hrefused⟩
    · exact .inl ⟨hsaved, hstored⟩
  · rw [houtcome] at h
    cases h

/-- a creation that succeeds stores the request once, and saves its item once if the status changed -/
theorem create_succeeded (hsaves : desk.savesItems = true) (hworks : desk.storageFailure = none)
    (h : (desk.create c).outcome = .ok done) :
    (desk.create c).stored = [done.request] ∧
      (desk.create c).saved =
        if done.item.map (·.status) = c.item.map (·.status) then [] else done.item.toList := by
  rcases create_cases hsaves hworks c with
    ⟨_, houtcome, -⟩ | ⟨item, policy, hacc, hsaved, ⟨_, -, houtcome, -⟩ | ⟨done', hrecall, houtcome, hstored⟩⟩
  · rw [houtcome] at h
    cases h
  · rw [houtcome] at h
    cases h
  · rw [houtcome] at h
    cases h
    have hitem : done.item = some (requested c item) := by
      rw [(recallLoan_frame hrecall).2, noted, noteOnLoan_item]
    refine ⟨hstored, ?_⟩
    rw [hsaved, hitem, hacc.item_eq, savedFor]
    simp only [Option.map_some, Option.some.injEq, Option.toList_some, requested]

/-- **A request is made wholly or not at all, but for a recall that is refused too late.** With a working store, a
creation is atomic exactly if it is not an accepted recall whose loan policy refuses it after the item was saved; then
the item stands marked as recalled and no request is stored. -/
theorem create_atomic_iff (rules : RuleTable) (policies : List (Text × RequestPolicy)) (now : Option DateTime)
    (c : RequestContext) :
    let desk := working rules policies now
    ((desk.create c).Atomic c ↔ ¬ ∃ item cause, desk.FailsAfterSaving c item cause) ∧
    ∀ item cause, desk.FailsAfterSaving c item cause →
      (desk.create c).outcome = .failed cause ∧ (desk.create c).saved = [{ item with status := .checkedOutRecalled }] ∧
        (desk.create c).stored = [] := by
  intro desk
  refine ⟨⟨?_, fun hnone => ⟨fun cause h => ?_, fun done h => create_succeeded rfl rfl h⟩⟩, fun item cause h =>
    create_of_failsAfterSaving rfl rfl h⟩
  · rintro hatomic ⟨item, cause, h⟩
    obtain ⟨houtcome, hsaved, -⟩ := create_of_failsAfterSaving rfl rfl h
    have hnil := (hatomic.failed cause houtcome).1
    rw [hsaved] at hnil
    cases hnil
  · rcases create_failed rfl rfl h with hnothing | ⟨item, hafter⟩
    · exact hnothing
    · exact absurd ⟨item, cause, hafter⟩ hnone

/-- a desk that allows every request -/
def openDesk (now : Option DateTime) : RequestDesk :=
  working ⟨"all", []⟩ [("all", .allowing RequestType.all (some "all"))] now

/-- a policy whose return interval has an unknown unit -/
def fortnightPolicy : LoanPolicy :=
  { id := some "policy-1", loanable := true, profileId := some "Rolling",
    recallReturnInterval := some ⟨.int 3, some "Fortnights"⟩ }

/-- a recall of an item on loan under a policy -/
def recallUnder (p : LoanPolicy) : RequestContext where
  request := { id := "request-9", itemId := "item-1", requesterId := "user-2", type := .callBack }
  queue := .empty
  item := some { id := "item-1", status := .checkedOut }
  requester := some { id := "user-2", groupId := some "undergrad" }
  loan := some LoanPolicy.marchLoan
  loanPolicy := some p

/-- the recall is refused for the policy, the item is saved as recalled and no request is stored -/
theorem create_recallUnder_fortnight :
    let made := (openDesk (some (.utcDay 2024 3 10))).create (recallUnder fortnightPolicy)
    made.outcome = .violation (fortnightPolicy.violation
        "the interval \"Fortnights\" in \"recallReturnInterval\" is not recognized").asConfiguration ∧
      made.saved = [{ id := "item-1", status := .checkedOutRecalled }] ∧ made.stored = [] := by
  decide +kernel

end RequestDesk

end Lending
