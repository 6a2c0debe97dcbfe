/-
What a request leaves in the log.

A request that is decided should leave one record of the decision: that it was refused, and for what, or that it was
created, and where it stands (`Creation.Traced`). `create_traced_iff`: so it does, except for a recall that passes the
checks and is refused by the policy of the loan. That one fails without any record.
-/
import Lending.Proofs.RequestCreation.Decision

namespace Lending

/-- whether a record says how a request was decided -/
def Event.isDecision : Event → Bool
  | requestRefused _ _ _ | requestCreated _ _ _ => true
  | _ => false

namespace Creation

/-- the records of how a request was decided -/
def trace (made : Creation) : List Event := made.events.filter Event.isDecision

/-- whether a creation leaves one record, which says how it ended: the refusal of the request with what was wrong, or the
request that was created with its place in the queue -/
structure Traced (made : Creation) (c : RequestContext) : Prop where
  refused : ∀ cause, made.outcome = .failed cause →
    made.trace = [.requestRefused c.request.id c.request.itemId (cause.errors.map (·.message))]
  created : ∀ done, made.outcome = .ok done →
    made.trace = [.requestCreated done.request.id done.request.itemId done.request.position]

end Creation

namespace RequestDesk

variable {desk : RequestDesk} {c done : RequestContext} {item : Item} {policy : RequestPolicy} {cause : Cause}

/-! ## The two halves -/

/-- a request that a check refuses is recorded with what is wrong -/
theorem trace_of_check_failed (h : desk.check c = .failed cause) :
    (desk.create c).trace = [.requestRefused c.request.id c.request.itemId (cause.errors.map (·.message))] := by
  have hevents : (desk.create c).events =
      [.requestRefused c.request.id c.request.itemId (cause.errors.map (·.message))] := by
    simp only [create, h]
  rw [Creation.trace, hevents]
  rfl

/-- calling the loan back records nothing about the request -/
theorem filter_recallLoan_events (desk : RequestDesk) (c : RequestContext) :
    (desk.recallLoan c).events.filter Event.isDecision = [] := by
  unfold recallLoan
  split
  · next l p _ _ _ =>
    have hevents : (p.callBack l desk.now).events.filter Event.isDecision = [] := by
      unfold LoanPolicy.callBack
      cases p.callingBack l (desk.now.map DateTime.ensureAware) <;> rfl
    change ((p.callBack l desk.now).events ++ []).filter Event.isDecision = []
    rw [List.append_nil, hevents]
  · rfl

/-- what an accepted request logs: calling the loan back, and that it was created if that succeeds -/
theorem events_of_accepts (hworks : desk.storageFailure = none) (h : desk.Accepts c item policy) :
    (desk.create c).events = (desk.recallLoan (noted c item policy)).events ++
      match (desk.recallLoan (noted c item policy)).value with
      | .failed _ => []
      | .ok done => [.requestCreated done.request.id done.request.itemId done.request.position] := by
  have hcheck : desk.check c = .ok (c.accepted policy) := check_eq_ok_iff.2 ⟨item, policy, h, rfl⟩
  simp only [create, hcheck, (updateItem_of_accepts h).1, hworks]
  cases (desk.recallLoan (noted c item policy)).value with
  | failed cause => exact (List.append_nil _).symm
  | ok done => rfl

theorem trace_of_recall_failed (hworks : desk.storageFailure = none) (h : desk.Accepts c item policy)
    (hrecall : (desk.recallLoan (noted c item policy)).value = .failed cause) : (desk.create c).trace = [] := by
  rw [Creation.trace, events_of_accepts hworks h, List.filter_append, filter_recallLoan_events, hrecall]
  rfl

theorem trace_of_recall_ok (hworks : desk.storageFailure = none) (h : desk.Accepts c item policy)
    (hrecall : (desk.recallLoan (noted c item policy)).value = .ok done) :
    (desk.create c).trace = [.requestCreated done.request.id done.request.itemId done.request.position] := by
  rw [Creation.trace, events_of_accepts hworks h, List.filter_append, filter_recallLoan_events, hrecall]
  rfl

/-! ## The whole -/

/-- the policy of the loan decides on an accepted request, and refuses only recalls -/
theorem recallRefused_iff :
    RecallRefused desk c cause ↔ (desk.recallLoan (noted c item policy)).value = .failed cause := by
  rw [recallLoan_noted_eq_failed]
  exact ⟨fun h => ⟨h.type_eq, h.refused⟩, fun h => ⟨h.1, h.2⟩⟩

/-- an accepted recall that the policy of the loan refuses fails without a record -/
theorem create_of_recallRefused (hworks : desk.storageFailure = none) (h : desk.Accepts c item policy)
    (hrefused : RecallRefused desk c cause) :
    (desk.create c).outcome = .failed cause ∧ (desk.create c).trace = [] := by
  have hrecall : (desk.recallLoan (noted c item policy)).value = .failed cause := recallRefused_iff.1 hrefused
  constructor
  · rw [create_outcome_of_accepts hworks h, hrecall]
  · exact trace_of_recall_failed hworks h hrecall

/-- a request that a check refuses has its record -/
theorem traced_of_check_failed (h : desk.check c = .failed cause) : (desk.create c).Traced c := by
  have houtcome := (create_of_check_failed h).1
  constructor
  · intro cause' hfailed
    rw [houtcome] at hfailed
    cases hfailed
    exact trace_of_check_failed h
  · intro done hok
    rw [houtcome] at hok
    cases hok

/-- an accepted request that the policy of the loan does not refuse has its record -/
theorem traced_of_accepts (hworks : desk.storageFailure = none) (h : desk.Accepts c item policy)
    (hnot : ¬ ∃ cause, RecallRefused desk c cause) : (desk.create c).Traced c := by
  have houtcome := create_outcome_of_accepts hworks h
  constructor
  · intro cause hfailed
    rw [houtcome] at hfailed
    exact absurd ⟨cause, recallRefused_iff.2 hfailed⟩ hnot
  · intro done hok
    rw [houtcome] at hok
    exact trace_of_recall_ok hworks h hok

/-- **Every decision leaves a record, but for one.** With a store that works, a creation leaves the one record of how it
ended exactly if it is not an accepted recall that the policy of the loan refuses. Such a recall fails for what the policy
says, and leaves no record at all. -/
theorem create_traced_iff (rules : RuleTable) (policies : List (Text × RequestPolicy)) (savesItems : Bool)
    (now : Option DateTime) (c : RequestContext) :
    let desk : RequestDesk := { rules, policies, savesItems, now }
    ((desk.create c).Traced c ↔
      ¬ ∃ item policy cause, desk.Accepts c item policy ∧ RecallRefused desk c cause) ∧
    ∀ item policy cause, desk.Accepts c item policy → RecallRefused desk c cause →
      (desk.create c).outcome = .failed cause ∧ (desk.create c).trace = [] := by
  intro desk
  refine ⟨⟨?_, ?_⟩, ?_⟩
  · rintro htraced ⟨item, policy, cause, h, hrefused⟩
    obtain ⟨houtcome, htrace⟩ := create_of_recallRefused rfl h hrefused
    have hrecord := htraced.refused cause houtcome
    rw [htrace] at hrecord
    cases hrecord
  · intro hnone
    cases hcheck : desk.check c with
    | failed cause => exact traced_of_check_failed hcheck
    | ok c' =>
      obtain ⟨item, policy, h, -⟩ := check_eq_ok_iff.1 hcheck
      apply traced_of_accepts rfl h
      rintro ⟨cause, hrefused⟩
      exact hnone ⟨item, policy, cause, h, hrefused⟩
  · intro item policy cause h hrefused
    exact create_of_recallRefused rfl h hrefused

/-- a second recall of an item on loan under a policy: its status stays as it is -/
def recallAgainUnder (p : LoanPolicy) : RequestContext :=
  { recallUnder p with item := some { id := "item-1", status := .checkedOutRecalled } }

/-- the recall is refused for the policy, nothing is saved or stored, and no record tells of it -/
theorem create_recallAgainUnder_fortnight :
    let made := (openDesk (some (.utcDay 2024 3 10))).create (recallAgainUnder fortnightPolicy)
    made.outcome = .violation (fortnightPolicy.violation
        "the interval \"Fortnights\" in \"recallReturnInterval\" is not recognized").asConfiguration ∧
      made.saved = [] ∧ made.stored = [] ∧ made.trace = [] := by
  decide +kernel

end RequestDesk

end Lending
