/-
Loans.

A loan's dates always have a zone. `Loan.of` reads those without one as UTC, and every change of the due date goes through
`Loan.withDueDate`, which does the same.
-/
import Lending.Text.Basic
import Lending.Time.DateTime

namespace Lending

/-- whether a date, if there is one, has a zone -/
def Zoned (d : Option DateTime) : Prop := ∀ x, d = some x → x.isAware = true

theorem DateTime.isAware_ensureAware (d : DateTime) (z : Zone) : (d.ensureAware z).isAware = true := by
  obtain ⟨w, zone, f⟩ := d
  cases zone <;> rfl

theorem DateTime.ensureAware_of_isAware {d : DateTime} (h : d.isAware = true) (z : Zone) : d.ensureAware z = d := by
  obtain ⟨w, zone, f⟩ := d
  cases zone with
  | none => simp [isAware] at h
  | some _ => rfl

theorem zoned_map_ensureAware (d : Option DateTime) : Zoned (d.map DateTime.ensureAware) := by
  intro x hx
  obtain ⟨y, -, rfl⟩ := Option.map_eq_some_iff.1 hx
  exact y.isAware_ensureAware _

/-- an item lent to a patron -/
structure Loan where
  id : Text
  itemId : Text
  userId : Text
  loanDate : Option DateTime
  dueDate : Option DateTime := none
  renewalCount : Int := 0
  returnDate : Option DateTime := none
  status : Text := "Open"
  action : Option Text := none
  actionComment : Option Text := none
  loanPolicyId : Option Text := none
  dueDateChangedByRecall : Bool := false
  loanDateZoned : Zoned loanDate
  dueDateZoned : Zoned dueDate
  returnDateZoned : Zoned returnDate
deriving DecidableEq

namespace Loan

/-- a loan with these dates, read as UTC where they have no zone -/
def of (id itemId userId : Text) (loanDate dueDate returnDate : Option DateTime) : Loan where
  id := id
  itemId := itemId
  userId := userId
  loanDate := loanDate.map DateTime.ensureAware
  dueDate := dueDate.map DateTime.ensureAware
  returnDate := returnDate.map DateTime.ensureAware
  loanDateZoned := zoned_map_ensureAware _
  dueDateZoned := zoned_map_ensureAware _
  returnDateZoned := zoned_map_ensureAware _

def isClosed (l : Loan) : Bool := l.status = "Closed"

/-- the loan with another due date, read as UTC if it has no zone -/
def withDueDate (l : Loan) (due : Option DateTime) : Loan :=
  { l with dueDate := due.map DateTime.ensureAware, dueDateZoned := zoned_map_ensureAware _ }

/-- the loan with a note of what was done last -/
def withAction (l : Loan) (action : Text) : Loan := { l with action := some action }

/-- the loan as it is handed out -/
def checkOut (l : Loan) (due : DateTime) (policyId : Option Text) : Loan :=
  { l.withDueDate (some due) with loanPolicyId := policyId, action := some "checkedout" }

/-- the loan renewed once more -/
def renew (l : Loan) (due : DateTime) (policyId : Option Text) : Loan :=
  { l.withDueDate (some due) with
    loanPolicyId := policyId
    renewalCount := l.renewalCount + 1
    action := some "renewed"
    actionComment := none }

/-- the loan renewed once more at an operator's word -/
def overrideRenewal (l : Loan) (due : DateTime) (policyId comment : Option Text) : Loan :=
  { l.withDueDate (some due) with
    loanPolicyId := policyId
    renewalCount := l.renewalCount + 1
    action := some "renewedThroughOverride"
    actionComment := comment }

/-- the loan called back -/
def callBack (l : Loan) (due : Option DateTime) : Loan :=
  { l.withDueDate due with action := some "recallrequested", dueDateChangedByRecall := true }

end Loan

end Lending
