/-
How a request is decided.

A request passes its checks one after the other (`Known`, `Fits`, `Governed`, `Passes`). `Refuses` has one row for each
check, with the checks before it passed, and says what the request is then refused for. A request that passes them all
may still be refused by the policy of the loan, if it is a recall (`RecallRefused`). Otherwise it is made: `made` and
`LoanAfter` say what it is then. `create_decides`: a request is decided in one of these ways, and each holds exactly where
its conditions do.
-/
import Lending.Proofs.RequestCreation
import Lending.Proofs.RuleTable

namespace Lending.RequestDesk

/-! ## The decisions -/

/-- the combination for which a request policy is looked up; what an item does not have is empty -/
def combination (item : Item) (group : Text) : RuleKey :=
  ⟨item.materialTypeId.getD {}, item.loanTypeId.getD {}, group, item.locationId.getD {}⟩

/-- a request whose item is there, and whose requester is in a patron group -/
structure Known (c : RequestContext) (item : Item) (group : Text) : Prop where
  item_eq : c.item = some item
  requester : ∃ patron, c.requester = some patron ∧ patron.groupId = some group

/-- a known request for an item that may be asked for in this way -/
structure Fits (c : RequestContext) (item : Item) (group : Text) : Prop extends Known c item group where
  status : c.request.type.allowedFor item.status = true

/-- a fitting request, with the id of the request policy that governs it -/
structure Governed (desk : RequestDesk) (c : RequestContext) (item : Item) (group id : Text) : Prop
    extends Fits c item group where
  gives : desk.rules.Gives (combination item group) id

/-- a request that its request policy allows -/
structure Passes (desk : RequestDesk) (c : RequestContext) (item : Item) (group id : Text) (policy : RequestPolicy) : Prop
    extends Governed desk c item group id where
  found : desk.policies.lookup id = some policy
  allowed : policy.allows c.request.type = true

/-- one violated rule, with one parameter, as the cause of a refusal -/
def broken (message key : Text) (value : Option Text) : Cause := .violations [⟨message, [(key, value)], .rule⟩]

/-- what a request is refused for: the first check that it does not pass -/
inductive Refuses (desk : RequestDesk) (c : RequestContext) : Cause → Prop
  | itemMissing :
    c.item = none → Refuses desk c (broken "Item does not exist" "itemId" (some c.request.itemId))
  | requesterMissing {item : Item} :
    c.item = some item → c.requester = none →
    Refuses desk c (broken "A valid user and patron group are required. User is null" "userId" none)
  | groupMissing {item : Item} {patron : Patron} :
    c.item = some item → c.requester = some patron → patron.groupId = none →
    Refuses desk c (broken "A valid patron group is required. PatronGroup ID is null" "PatronGroupId" none)
  | status {item : Item} {group : Text} :
    Known c item group → c.request.type.allowedFor item.status = false →
    Refuses desk c (broken
      s!"{c.request.type.name} requests are not allowed for {item.status.name} item status combination"
      c.request.type.name (some c.request.itemId))
  | policyMissing {item : Item} {group id : Text} :
    Governed desk c item group id → desk.policies.lookup id = none →
    Refuses desk c (.serverError ("Request policy " ++ id ++ " could not be found"))
  | notAllowed {item : Item} {group id : Text} {policy : RequestPolicy} :
    Governed desk c item group id → desk.policies.lookup id = some policy →
    policy.allows c.request.type = false →
    Refuses desk c (broken s!"{c.request.type.name} requests are not allowed for this patron and item combination"
      "requestType" (some c.request.type.name))

/-- a recall that the policy of the loan refuses -/
structure RecallRefused (desk : RequestDesk) (c : RequestContext) (cause : Cause) : Prop where
  type_eq : c.request.type = .callBack
  refused : ∃ l p, c.loan = some l ∧ c.loanPolicy = some p ∧ (p.callBack l desk.now).value = .failed cause

/-- what becomes of the loan of a request that is made: a hold or a recall is noted on it, and a recall calls it back if
it has a policy -/
inductive LoanAfter (desk : RequestDesk) (c : RequestContext) : Option Loan → Prop
  | noLoan : c.loan = none → LoanAfter desk c none
  | page {l : Loan} : c.request.type = .page → c.loan = some l → LoanAfter desk c (some l)
  | hold {l : Loan} :
    c.request.type = .hold → c.loan = some l → LoanAfter desk c (some (l.withAction "holdrequested"))
  | noPolicy {l : Loan} :
    c.request.type = .callBack → c.loan = some l → c.loanPolicy = none →
    LoanAfter desk c (some (l.withAction "recallrequested"))
  | calledBack {l l' : Loan} {p : LoanPolicy} :
    c.request.type = .callBack → c.loan = some l → c.loanPolicy = some p → (p.callBack l desk.now).value = .ok l' →
    LoanAfter desk c (some l')

/-- a request that is made: it stands behind the queue, with its request policy, and its item and its loan are brought up
to date; what is not named here stays as it was -/
def made (c : RequestContext) (item : Item) (policy : RequestPolicy) (loan : Option Loan) : RequestContext :=
  { c with
    request := { c.request with position := some c.queue.nextPosition }
    requestPolicy := some policy
    item := some { item with status := c.request.type.statusAfter item.status }
    loan := loan }

/-- the ways in which a request is decided -/
inductive Decides (desk : RequestDesk) (c : RequestContext) : Outcome RequestContext → Prop
  | refused {cause : Cause} : Refuses desk c cause → Decides desk c (.failed cause)
  | recallRefused {item : Item} {group id : Text} {policy : RequestPolicy} {cause : Cause} :
    Passes desk c item group id policy → RecallRefused desk c cause → Decides desk c (.failed cause)
  | made {item : Item} {group id : Text} {policy : RequestPolicy} {loan : Option Loan} :
    Passes desk c item group id policy → LoanAfter desk c loan → Decides desk c (.ok (made c item policy loan))

variable {desk : RequestDesk} {c c' : RequestContext} {item : Item} {group id : Text} {policy : RequestPolicy}
  {loan : Option Loan} {cause : Cause} {o : Outcome RequestContext}

/-! ## The checks -/

theorem Known.ruleKey_eq (h : Known c item group) : ruleKey c = combination item group := by
  obtain ⟨patron, hpatron, hgroup⟩ := h.requester
  simp only [ruleKey, combination, h.item_eq, hpatron, hgroup, Option.bind_some, Option.getD_some]

theorem checkItem_of_some (h : c.item = some item) : c.checkItem = .ok c :=
  RequestContext.checkItem_eq_ok.2 ⟨by rw [h]; rfl, rfl⟩

/-- what is left to check of a known request -/
theorem Known.check_eq (h : Known c item group) :
    desk.check c = (do
      let c ← c.checkStatus
      let c ← desk.findPolicy c
      let c ← c.checkPolicy
      return c.takePosition) := by
  have hrequester : c.checkRequester = .ok c := by
    obtain ⟨patron, hpatron, hgroup⟩ := h.requester
    exact RequestContext.checkRequester_eq_ok.2 ⟨⟨patron, hpatron, by rw [hgroup]; rfl⟩, rfl⟩
  rw [check, checkItem_of_some h.item_eq, Outcome.ok_bind, hrequester, Outcome.ok_bind]

/-- what is left to check of a fitting request -/
theorem Fits.check_eq (h : Fits c item group) :
    desk.check c = (do
      let c ← desk.findPolicy c
      let c ← c.checkPolicy
      return c.takePosition) := by
  have hstatus : c.checkStatus = .ok c := by
    refine RequestContext.checkStatus_eq_ok.2 ⟨?_, rfl⟩
    rw [RequestContext.allowedForItem, h.item_eq, Option.any_some]
    exact h.status
  rw [h.toKnown.check_eq, hstatus, Outcome.ok_bind]

/-- what is left to check of a request whose policy is found -/
theorem Governed.check_eq (hkeys : desk.rules.DistinctKeys) (h : Governed desk c item group id)
    (hfound : desk.policies.lookup id = some policy) :
    desk.check c = (do
      let c ← { c with requestPolicy := some policy }.checkPolicy
      return c.takePosition) := by
  have hfind : desk.findPolicy c = .ok { c with requestPolicy := some policy } := by
    refine findPolicy_eq_ok.2 ⟨policy, ?_, rfl⟩
    rw [h.ruleKey_eq, (RuleTable.resolve_eq_iff hkeys).2 h.gives]
    exact hfound
  rw [h.toFits.check_eq, hfind, Outcome.ok_bind]

theorem Refuses.check (hkeys : desk.rules.DistinctKeys) (h : Refuses desk c cause) : desk.check c = .failed cause := by
  cases h with
  | itemMissing hitem =>
    rw [RequestDesk.check, RequestContext.checkItem, hitem]
    rfl
  | requesterMissing hitem hrequester =>
    rw [RequestDesk.check, checkItem_of_some hitem, Outcome.ok_bind, RequestContext.checkRequester, hrequester]
    rfl
  | groupMissing hitem hrequester hgroup =>
    rw [RequestDesk.check, checkItem_of_some hitem, Outcome.ok_bind, RequestContext.checkRequester, hrequester]
    simp only [hgroup, Option.isNone_none, if_true]
    rfl
  | status hknown hstatus =>
    rw [hknown.check_eq, RequestContext.checkStatus, RequestContext.allowedForItem, hknown.item_eq, Option.any_some,
      hstatus]
    rfl
  | policyMissing hgoverned hnone =>
    rw [hgoverned.toFits.check_eq, findPolicy, hgoverned.ruleKey_eq,
      (RuleTable.resolve_eq_iff hkeys).2 hgoverned.gives]
    simp only [hnone]
    rfl
  | notAllowed hgoverned hfound hallows =>
    rw [hgoverned.check_eq hkeys hfound, RequestContext.checkPolicy]
    simp only [Option.any_some, hallows]
    rfl

theorem Passes.accepts (hkeys : desk.rules.DistinctKeys) (h : Passes desk c item group id policy) :
    desk.Accepts c item policy where
  item_eq := h.item_eq
  requester := by
    obtain ⟨patron, hpatron, hgroup⟩ := h.requester
    exact ⟨patron, hpatron, by rw [hgroup]; rfl⟩
  status := h.status
  policy_eq := by
    rw [h.ruleKey_eq, (RuleTable.resolve_eq_iff hkeys).2 h.gives]
    exact h.found
  allowed := h.allowed

/-- a request is refused, or it passes the checks -/
theorem refuses_or_passes (hkeys : desk.rules.DistinctKeys) (c : RequestContext) :
    (∃ cause, Refuses desk c cause) ∨ ∃ item group id policy, Passes desk c item group id policy := by
  cases hitem : c.item with
  | none => exact .inl ⟨_, .itemMissing hitem⟩
  | some item =>
    cases hrequester : c.requester with
    | none => exact .inl ⟨_, .requesterMissing hitem hrequester⟩
    | some patron =>
      cases hgroup : patron.groupId with
      | none => exact .inl ⟨_, .groupMissing hitem hrequester hgroup⟩
      | some group =>
        have hknown : Known c item group := ⟨hitem, patron, hrequester, hgroup⟩
        cases hstatus : c.request.type.allowedFor item.status with
        | false => exact .inl ⟨_, .status hknown hstatus⟩
        | true =>
          have hgoverned : Governed desk c item group (desk.rules.resolve (combination item group)) :=
            ⟨⟨hknown, hstatus⟩, (RuleTable.resolve_eq_iff hkeys).1 rfl⟩
          cases hfound : desk.policies.lookup (desk.rules.resolve (combination item group)) with
          | none => exact .inl ⟨_, .policyMissing hgoverned hfound⟩
          | some policy =>
            cases hallows : policy.allows c.request.type with
            | false => exact .inl ⟨_, .notAllowed hgoverned hfound hallows⟩
            | true => exact .inr ⟨item, group, _, policy, hgoverned, hfound, hallows⟩

/-! ## The loan -/

theorem recallRefused_or_loanAfter (desk : RequestDesk) (c : RequestContext) :
    (∃ cause, RecallRefused desk c cause) ∨ ∃ loan, LoanAfter desk c loan := by
  cases hloan : c.loan with
  | none => exact .inr ⟨none, .noLoan hloan⟩
  | some l =>
    cases htype : c.request.type with
    | page => exact .inr ⟨_, .page htype hloan⟩
    | hold => exact .inr ⟨_, .hold htype hloan⟩
    | callBack =>
      cases hpolicy : c.loanPolicy with
      | none => exact .inr ⟨_, .noPolicy htype hloan hpolicy⟩
      | some p =>
        cases hvalue : (p.callBack l desk.now).value with
        | failed cause => exact .inl ⟨cause, htype, l, p, hloan, hpolicy, hvalue⟩
        | ok l' => exact .inr ⟨some l', .calledBack htype hloan hpolicy hvalue⟩

/-- the loan of a request with the note of the request on it, if there is one -/
def notedLoan (c : RequestContext) : Option Loan :=
  c.loan.map fun l => (c.request.type.loanAction?.map l.withAction).getD l

theorem noteOnLoan_eq (c : RequestContext) : noteOnLoan c = { c with loan := notedLoan c } := by
  obtain ⟨request, queue, item, requester, requestPolicy, loan, loanPolicy⟩ := c
  cases loan with
  | none => rfl
  | some l => cases haction : request.type.loanAction? <;> simp [noteOnLoan, notedLoan, haction]

/-- an accepted request comes to the loan made, but for the recall of the loan -/
theorem noted_eq (c : RequestContext) (item : Item) (policy : RequestPolicy) :
    noted c item policy = made c item policy (notedLoan c) := by
  rw [noted, noteOnLoan_eq]
  rfl

/-- a loan that is not called back stays as it is -/
theorem recallLoan_made_eq_self (h : c.request.type ≠ .callBack ∨ loan = none ∨ c.loanPolicy = none) :
    (desk.recallLoan (made c item policy loan)).value = .ok (made c item policy loan) := by
  unfold recallLoan
  split
  · next l p htype hloan hpolicy =>
    rcases h with h | rfl | h
    · exact absurd htype h
    · cases hloan
    · rw [made, h] at hpolicy
      cases hpolicy
  · rfl

theorem LoanAfter.recallLoan (h : LoanAfter desk c loan) (item : Item) (policy : RequestPolicy) :
    (desk.recallLoan (noted c item policy)).value = .ok (made c item policy loan) := by
  rw [noted_eq, notedLoan]
  cases h with
  | noLoan hloan =>
    rw [hloan, Option.map_none]
    exact recallLoan_made_eq_self (.inr (.inl rfl))
  | page htype hloan =>
    rw [hloan, htype]
    exact recallLoan_made_eq_self (.inl (by rw [htype]; decide))
  | hold htype hloan =>
    rw [hloan, htype]
    exact recallLoan_made_eq_self (.inl (by rw [htype]; decide))
  | noPolicy htype hloan hpolicy =>
    rw [hloan, htype]
    exact recallLoan_made_eq_self (.inr (.inr hpolicy))
  | @calledBack l l' p htype hloan hpolicy hvalue =>
    have hnoted : (p.callBack (l.withAction "recallrequested") desk.now).value = .ok l' := hvalue
    simp only [RequestDesk.recallLoan, made, htype, hloan, hpolicy, RequestType.loanAction?, Option.map_some,
      Option.getD_some, recalled_value, hnoted, Outcome.map_ok]

/-! ## The whole -/

theorem Decides.create (hkeys : desk.rules.DistinctKeys) (hworks : desk.storageFailure = none) (h : Decides desk c o) :
    (desk.create c).outcome = o := by
  cases h with
  | refused h => exact (create_of_check_failed (h.check hkeys)).1
  | recallRefused hpasses hrefused =>
    rw [create_outcome_of_accepts hworks (hpasses.accepts hkeys)]
    exact recallLoan_noted_eq_failed.2 ⟨hrefused.type_eq, hrefused.refused⟩
  | made hpasses hloan =>
    rw [create_outcome_of_accepts hworks (hpasses.accepts hkeys)]
    exact hloan.recallLoan _ _

theorem exists_decides (hkeys : desk.rules.DistinctKeys) (c : RequestContext) : ∃ o, Decides desk c o := by
  rcases refuses_or_passes hkeys c with ⟨cause, hrefuses⟩ | ⟨item, group, id, policy, hpasses⟩
  · exact ⟨_, .refused hrefuses⟩
  · rcases recallRefused_or_loanAfter desk c with ⟨cause, hrefused⟩ | ⟨loan, hloan⟩
    · exact ⟨_, .recallRefused hpasses hrefused⟩
    · exact ⟨_, .made hpasses hloan⟩

/-- **How a request is decided.** With a store that works, a request for which rules, policies and a clock are at hand is
refused for the first check that it does not pass. If it passes them all, a recall is refused if the policy of the loan
refuses it. Otherwise the request is made, and differs from the one that came in its place in the queue, its request
policy, the status of its item and its loan alone. -/
theorem create_decides (fallback : Text) (rules : List (RuleKey × Text)) (policies : List (Text × RequestPolicy))
    (savesItems : Bool) (now : Option DateTime) (c : RequestContext) (o : Outcome RequestContext) :
    let desk : RequestDesk := { rules := .of fallback rules, policies, savesItems, now }
    (desk.create c).outcome = o ↔ Decides desk c o := by
  intro desk
  have hkeys : desk.rules.DistinctKeys := RuleTable.distinctKeys_of fallback rules
  constructor
  · rintro rfl
    obtain ⟨o, ho⟩ := exists_decides hkeys c
    rw [ho.create hkeys rfl]
    exact ho
  · intro h
    exact h.create hkeys rfl

end Lending.RequestDesk
