/-
Checking an item out to a patron.

The item must not await pickup by another patron and the policy must lend it; then the loan takes the due date that the
policy gives. Patron and item are looked at only to word a refusal, so a check-out that is not refused does without them.
-/
import Lending.LoanPolicy.Operations

namespace Lending

/-- a loan to be made, with all that decides on it -/
structure CheckOut where
  loan : Option Loan
  item : Option Item := none
  patron : Option Patron := none
  queue : Queue := {}
  policy : Option LoanPolicy := none
deriving DecidableEq

namespace CheckOut

/-- something that is asked of a record, which must be there -/
def ofRecord {α β : Type} (record : Option α) (name : String) (f : α → β) : Except Fault β :=
  match record with
  | some a => .ok (f a)
  | none => .error (.nothingThere name)

/-- the message about an item that waits for someone else -/
def awaitingPickup (c : CheckOut) : Except Fault Text := do
  let title ← ofRecord c.item "title" (·.title)
  let barcode ← ofRecord c.item "barcode" (·.barcode)
  let name ← ofRecord c.patron "personal_name" (·.personalName)
  return Event.shownText title ++ " (Barcode: " ++ Event.shownText barcode ++ ") cannot be checked out to user " ++
    name ++ " because it is awaiting pickup by another patron"

/-- the failure for an item that waits for someone else, told by message -/
abbrev PickupRefusal := Text → Except Fault Cause

/-- the failure that names a barcode -/
def refusalFor (barcode : Option Text) : PickupRefusal := fun message =>
  .ok (.violations [⟨message, [("userBarcode", barcode)], .rule⟩])

/-- the failure that names the patron's barcode -/
def patronRefusal (c : CheckOut) : PickupRefusal := fun message => do
  refusalFor (← ofRecord c.patron "barcode" (·.barcode)) message

/-- refuse when the item waits for another patron -/
def checkPickup (c : CheckOut) (refusal : PickupRefusal) : Except Fault (Outcome CheckOut) :=
  if c.queue.awaitsOther (c.patron.map (·.id)) then do return .failed (← refusal (← c.awaitingPickup)) else .ok (.ok c)

/-- the policy, if there is one and it lends -/
def lendingPolicy (c : CheckOut) : Outcome LoanPolicy :=
  match c.policy with
  | none => .failed (.serverError "No loan policy was resolved for check-out")
  | some p => if p.loanable then .ok p else .violation (p.violation LoanPolicy.itemNotLoanable)

/-- give the loan its first due date -/
def stamp (c : CheckOut) (p : LoanPolicy) (l : Loan) : Logged (Outcome CheckOut) := do
  match ← p.calculateInitialDueDate l (some c.queue) with
  | .failed cause => return .failed cause
  | .ok due =>
    Logged.log (.checkedOut l.id l.itemId p.id due)
    return .ok { c with loan := some (l.checkOut due p.id) }

/-- check the item out; a fault comes before anything is logged -/
def run (c : CheckOut) (refusal : PickupRefusal) : Except Fault (Logged (Outcome CheckOut)) := do
  match ← c.checkPickup refusal with
  | .failed cause => return pure (.failed cause)
  | .ok c =>
    match c.lendingPolicy with
    | .failed cause => return pure (.failed cause)
    | .ok p => return c.stamp p (← ofRecord c.loan "loan_date" id)

/-- check the item out, a refusal naming the patron's barcode -/
def checkOut (c : CheckOut) : Except Fault (Logged (Outcome CheckOut)) := c.run c.patronRefusal

end CheckOut

end Lending
