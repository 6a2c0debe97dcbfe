/-
Making a request for an item.

The checks run in order and stop at the first that fails. A request that passes them takes the place behind the queue;
then the item, the loan and the store are brought up to date. A `Creation` is the decision together with all that left the
computation on the way: the items that were saved, the requests that were stored and the events.
-/
import Lending.LoanPolicy.Operations
import Lending.RequestPolicy
import Lending.RuleTable

namespace Lending

/-- a request with the records that decide on it -/
structure RequestContext where
  request : Request
  queue : Queue
  item : Option Item := none
  requester : Option Patron := none
  requestPolicy : Option RequestPolicy := none
  loan : Option Loan := none
  loanPolicy : Option LoanPolicy := none
deriving DecidableEq

namespace RequestContext

/-! ## Checks -/

/-- refuse when the item is not there -/
def checkItem (c : RequestContext) : Outcome RequestContext :=
  if c.item.isNone then .refuse "Item does not exist" "itemId" (some c.request.itemId) else .ok c

/-- refuse when there is no requester, or one in no group -/
def checkRequester (c : RequestContext) : Outcome RequestContext :=
  match c.requester with
  | none => .refuse "A valid user and patron group are required. User is null" "userId" none
  | some patron =>
    if patron.groupId.isNone then
      .refuse "A valid patron group is required. PatronGroup ID is null" "PatronGroupId" none
    else .ok c

/-- whether the item's status allows the type of request -/
def allowedForItem (c : RequestContext) : Bool := c.item.any fun item => c.request.type.allowedFor item.status

/-- refuse when the item's status does not allow the type of request -/
def checkStatus (c : RequestContext) : Outcome RequestContext :=
  if c.allowedForItem then .ok c
  else
    let status := (c.item.map (·.status.name)).getD "None"
    .refuse s!"{c.request.type.name} requests are not allowed for {status} item status combination"
      c.request.type.name (some c.request.itemId)

/-- refuse when the request policy does not allow the type of request -/
def checkPolicy (c : RequestContext) : Outcome RequestContext :=
  if c.requestPolicy.any (·.allows c.request.type) then .ok c
  else .refuse s!"{c.request.type.name} requests are not allowed for this patron and item combination"
    "requestType" (some c.request.type.name)

/-- put the request behind the queue -/
def takePosition (c : RequestContext) : RequestContext :=
  { c with request := c.request.withPosition c.queue.nextPosition }

end RequestContext

/-- what a request is decided with -/
structure RequestDesk where
  rules : RuleTable
  policies : List (Text × RequestPolicy) := []
  /-- whether changed items are saved -/
  savesItems : Bool := true
  /-- the reason for which the store fails, if it does -/
  storageFailure : Option Text := none
  /-- the time -/
  now : Option DateTime := none
deriving DecidableEq

/-- the decision on a request, with all that left the computation -/
structure Creation where
  outcome : Outcome RequestContext
  saved : List Item := []
  stored : List Request := []
  events : List Event := []
deriving DecidableEq

namespace RequestDesk

/-- the combination for which a request policy is looked up; what is missing is empty -/
def ruleKey (c : RequestContext) : RuleKey where
  itemTypeId := (c.item.bind (·.materialTypeId)).getD {}
  loanTypeId := (c.item.bind (·.loanTypeId)).getD {}
  patronGroupId := (c.requester.bind (·.groupId)).getD {}
  locationId := (c.item.bind (·.locationId)).getD {}

/-- look the request policy up -/
def findPolicy (desk : RequestDesk) (c : RequestContext) : Outcome RequestContext :=
  let id := desk.rules.resolve (ruleKey c)
  match desk.policies.lookup id with
  | some policy => .ok { c with requestPolicy := some policy }
  | none => .failed (.serverError ("Request policy " ++ id ++ " could not be found"))

/-- the checks, in order, and the place in the queue -/
def check (desk : RequestDesk) (c : RequestContext) : Outcome RequestContext := do
  let c ← c.checkItem
  let c ← c.checkRequester
  let c ← c.checkStatus
  let c ← desk.findPolicy c
  let c ← c.checkPolicy
  return c.takePosition

/-- give the item its new status; an item that changes is saved -/
def updateItem (desk : RequestDesk) (c : RequestContext) : RequestContext × List Item :=
  match c.item with
  | none => (c, [])
  | some item =>
    let status := c.request.type.statusAfter item.status
    if status = item.status then (c, [])
    else
      let changed := { item with status }
      ({ c with item := some changed }, if desk.savesItems then [changed] else [])

/-- note the request on the loan -/
def noteOnLoan (c : RequestContext) : RequestContext :=
  match c.loan, c.request.type.loanAction? with
  | some l, some action => { c with loan := some (l.withAction action) }
  | _, _ => c

/-- call the loan back for a recall -/
def recallLoan (desk : RequestDesk) (c : RequestContext) : Logged (Outcome RequestContext) :=
  match c.request.type, c.loan, c.loanPolicy with
  | .callBack, some l, some p => do
    let recalled ← p.callBack l desk.now
    return (fun l => { c with loan := some l }) <$> recalled
  | _, _, _ => pure (.ok c)

/-- decide on a request -/
def create (desk : RequestDesk) (c : RequestContext) : Creation :=
  match desk.check c with
  | .failed cause =>
    ⟨.failed cause, [], [], [.requestRefused c.request.id c.request.itemId (cause.errors.map (·.message))]⟩
  | .ok accepted =>
    let (updated, saved) := desk.updateItem accepted
    let recalled := desk.recallLoan (noteOnLoan updated)
    match recalled.value with
    | .failed cause => ⟨.failed cause, saved, [], recalled.events⟩
    | .ok done =>
      match desk.storageFailure with
      | some reason => ⟨.failed (.serverError reason), saved, [], recalled.events⟩
      | none =>
        let r := done.request
        ⟨.ok done, saved, [r], recalled.events ++ [.requestCreated r.id r.itemId r.position]⟩

end RequestDesk

end Lending
