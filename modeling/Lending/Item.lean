/-
Items of the library and their status.
-/
import Lending.Fault

namespace Lending

/-- where an item is in its round -/
inductive ItemStatus
  | available
  | checkedOut
  | checkedOutHeld
  | checkedOutRecalled
  | awaitingPickup
  | inTransit
  | paged
  | missing
deriving DecidableEq

namespace ItemStatus

def all : List ItemStatus :=
  [available, checkedOut, checkedOutHeld, checkedOutRecalled, awaitingPickup, inTransit, paged, missing]

def name : ItemStatus → String
  | available => "Available"
  | checkedOut => "Checked out"
  | checkedOutHeld => "Checked out - Held"
  | checkedOutRecalled => "Checked out - Recalled"
  | awaitingPickup => "Awaiting pickup"
  | inTransit => "In transit"
  | paged => "Paged"
  | missing => "Missing"

/-- the status with a name -/
def ofName (s : Text) : Except Fault ItemStatus :=
  match all.find? (Text.ofString ·.name = s) with
  | some status => .ok status
  | none => .error (.unknownItemStatus s)

/-- whether an item is on loan -/
def isCheckedOut : ItemStatus → Bool
  | checkedOut | checkedOutHeld | checkedOutRecalled => true
  | _ => false

end ItemStatus

/-- an item; its type, loan type and location choose the policies that govern it -/
structure Item where
  id : Text
  status : ItemStatus := .available
  title : Option Text := none
  barcode : Option Text := none
  materialTypeId : Option Text := none
  loanTypeId : Option Text := none
  locationId : Option Text := none
deriving DecidableEq

end Lending
