/-
Requests of patrons for items.
-/
import Lending.Item
import Lending.Patron
import Lending.Text.Blank
import Lending.Text.Caseless
import Lending.Time.DateTime

namespace Lending

/-- what a patron asks for -/
inductive RequestType
  | hold
  | callBack
  | page
deriving DecidableEq

namespace RequestType

def all : List RequestType := [hold, callBack, page]

def name : RequestType → String
  | hold => "Hold"
  | callBack => "Recall"
  | page => "Page"

/-- the request type with a name, whose case and surrounding blanks do not matter -/
def ofName? (s : Option Text) : Option RequestType :=
  let word := (s.getD {}).trim.lower
  all.find? fun t => (Text.ofString t.name).lower = word

/-- whether an item with a status can be asked for in this way -/
def allowedFor : RequestType → ItemStatus → Bool
  | page, status => status = .available
  | _, .checkedOut | _, .checkedOutHeld | _, .checkedOutRecalled => true
  | _, .awaitingPickup | _, .inTransit | _, .paged => true
  | _, _ => false

/-- the status that an item takes when it is asked for in this way -/
def statusAfter : RequestType → ItemStatus → ItemStatus
  | page, _ => .paged
  | callBack, status => if status.isCheckedOut then .checkedOutRecalled else status
  | hold, .checkedOut => .checkedOutHeld
  | hold, status => status

/-- the note that a loan takes when its item is asked for in this way -/
def loanAction? : RequestType → Option Text
  | hold => some "holdrequested"
  | callBack => some "recallrequested"
  | page => none

end RequestType

/-- how far a request has come -/
inductive RequestStatus
  | openNotYetFilled
  | openAwaitingPickup
  | openInTransit
  | closedFilled
  | closedCancelled
  | closedUnfilled
  | closedPickupExpired
deriving DecidableEq

namespace RequestStatus

def all : List RequestStatus :=
  [openNotYetFilled, openAwaitingPickup, openInTransit, closedFilled, closedCancelled, closedUnfilled,
    closedPickupExpired]

def name : RequestStatus → String
  | openNotYetFilled => "Open - Not yet filled"
  | openAwaitingPickup => "Open - Awaiting pickup"
  | openInTransit => "Open - In transit"
  | closedFilled => "Closed - Filled"
  | closedCancelled => "Closed - Cancelled"
  | closedUnfilled => "Closed - Unfilled"
  | closedPickupExpired => "Closed - Pickup expired"

/-- the status with a name -/
def ofName (s : Text) : Except Fault RequestStatus :=
  match all.find? (Text.ofString ·.name = s) with
  | some status => .ok status
  | none => .error (.unknownRequestStatus s)

def isOpen : RequestStatus → Bool
  | openNotYetFilled | openAwaitingPickup | openInTransit => true
  | _ => false

end RequestStatus

/-- a patron's request for an item, with its place in the item's queue -/
structure Request where
  id : Text
  itemId : Text
  requesterId : Text
  type : RequestType
  status : RequestStatus := .openNotYetFilled
  position : Option Int := none
  requestDate : Option DateTime := none
  proxyUserId : Option Text := none
deriving DecidableEq

namespace Request

/-- the request at another place -/
def withPosition (r : Request) (position : Int) : Request := { r with position := some position }

/-- whether a request can still be fulfilled -/
def isFulfillable (r : Request) : Bool := r.status.isOpen

end Request

end Lending
