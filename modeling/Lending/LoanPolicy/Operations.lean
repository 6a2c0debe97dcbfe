/-
What a loan policy does with a loan.

Each operation is a decision, with the events it logs: the first due date, renewal, renewal at an operator's word, and
recall. A fault on the way is a server error. Dates given without a zone are read as UTC.
-/
import Lending.LoanPolicy.Basic

namespace Lending.LoanPolicy

def renewalChangesNothing : String := "renewal would not change the due date"
def itemNotLoanable : String := "item is not loanable"
def loanNotRenewable : String := "loan is not renewable"
def renewalLimitReached : String := "loan at maximum renewal number"
def overrideDateRequired : String := "New due date must be specified when due date calculation fails"
def overrideUnexpected : String :=
  "Override renewal does not match any of expected cases: item is not loanable, item is not renewable, " ++
    "reached number of renewals limit or renewal date falls outside of the date ranges in the loan policy"

/-- the name of the guaranteed period in a policy document -/
def minimumGuaranteedField : String := "minimumGuaranteedLoanPeriod"

/-- the name of the return interval in a policy document -/
def recallReturnField : String := "recallReturnInterval"

/-- the events of a decision: what was logged before it, and the fault that stopped it, if one did -/
def faultEvents {α : Type} (p : LoanPolicy) (operation : PolicyOperation) (l : Loan) (x : Except Fault (Outcome α)) :
    List Event :=
  match x with
  | .ok _ => []
  | .error _ => [.policyFault operation l.id p.id]

/-! ## First due date -/

/-- the due date of a check-out -/
def initialDueDate (p : LoanPolicy) (l : Loan) (q : Option Queue) : Except Fault (Outcome DateTime) :=
  (p.checkOutRule q).dueDate p.violation l

/-- the due date of a check-out, logged -/
def calculateInitialDueDate (p : LoanPolicy) (l : Loan) (q : Option Queue) : Logged (Outcome DateTime) :=
  let due := p.initialDueDate l q
  ⟨Outcome.settle due, p.choiceEvent (p.checkOutRule q) false :: p.faultEvents .checkOut l due⟩

/-! ## Renewal -/

/-- whether a date would not lengthen a loan -/
def isSameOrBefore (l : Loan) (due : DateTime) : Except Fault Bool :=
  match l.dueDate with
  | none => .ok false
  | some old => due.notAfter old

/-- whether a loan has been renewed as often as the policy allows -/
def reachedRenewalLimit (p : LoanPolicy) (l : Loan) : Bool :=
  !p.unlimitedRenewals && p.renewalLimit ≤ l.renewalCount

/-- the due date that a renewal would give -/
def renewalDueDate (p : LoanPolicy) (l : Loan) (now : Option DateTime) : Except Fault (Outcome DateTime) :=
  (p.renewalRule now).dueDate p.violation l

/-- the rules about the due date against a renewal to a proposed one -/
def dueDateErrors (p : LoanPolicy) (l : Loan) (proposed : Outcome DateTime) : Except Fault (List Violation) :=
  match proposed with
  | .failed c => .ok c.errors
  | .ok due => do return if ← isSameOrBefore l due then [p.violation renewalChangesNothing] else []

/-- the rules against a renewal to a proposed due date -/
def renewalErrors (p : LoanPolicy) (l : Loan) (proposed : Outcome DateTime) : Except Fault (List Violation) := do
  let dateErrors ← p.dueDateErrors l proposed
  let limitErrors := if p.reachedRenewalLimit l then [p.violation renewalLimitReached] else []
  return dateErrors ++ limitErrors

/-- renew a loan of a policy that lends and renews, unless rules stand against it -/
def renewByRule (p : LoanPolicy) (l : Loan) (now : Option DateTime) : Except Fault (Outcome Loan) := do
  let proposed ← p.renewalDueDate l now
  let errors ← p.renewalErrors l proposed
  if !errors.isEmpty then return .failed (.violations errors)
  match proposed with
  | .failed c => return .failed c
  | .ok due => return .ok (l.renew due p.id)

/-- renew a loan, unless rules stand against it -/
def renewal (p : LoanPolicy) (l : Loan) (now : Option DateTime) : Except Fault (Outcome Loan) :=
  if !p.loanable then .ok (.violation (p.violation itemNotLoanable))
  else if !p.renewable then .ok (.violation (p.violation loanNotRenewable))
  else p.renewByRule l now

/-- the events of a renewal -/
def renewalEvents (p : LoanPolicy) (l : Loan) (now : Option DateTime) : List Event :=
  if p.loanable && p.renewable then
    let result := p.renewByRule l now
    let refused := match result with
      | .ok (.failed (.violations errors)) => [Event.renewalRefused l.id p.id errors.length]
      | _ => []
    p.choiceEvent (p.renewalRule now) true :: refused ++ p.faultEvents .renew l result
  else []

/-- renew a loan -/
def renew (p : LoanPolicy) (l : Loan) (systemDate : Option DateTime) : Logged (Outcome Loan) :=
  let now := systemDate.map DateTime.ensureAware
  ⟨Outcome.settle (p.renewal l now), p.renewalEvents l now⟩

/-! ## Renewal at an operator's word -/

/-- renew a loan to the date that the operator gave -/
def overrideTo (p : LoanPolicy) (l : Loan) (due : Option DateTime) (comment : Option Text) : Outcome Loan :=
  match due with
  | none => .refuse overrideDateRequired "dueDate" (some "null")
  | some d => .ok (l.overrideRenewal d p.id comment)

/-- renew a loan to a calculated date, if that lengthens it -/
def overrideByRule (p : LoanPolicy) (l : Loan) (calculated : Outcome DateTime) (comment : Option Text) :
    Except Fault (Outcome Loan) :=
  Outcome.andThen (.ok calculated) fun due => do
    if ← isSameOrBefore l due then return .violation (p.violation renewalChangesNothing)
    else return .ok (l.overrideRenewal due p.id comment)

/-- renew a loan where the ordinary renewal is refused -/
def overriding (p : LoanPolicy) (l : Loan) (now due : Option DateTime) (comment : Option Text) :
    Except Fault (Outcome Loan) :=
  if !p.loanable || !p.renewable then .ok (p.overrideTo l due comment)
  else do
    let proposed ← p.renewalDueDate l now
    if !proposed.isOk && p.isFixed then return p.overrideTo l due comment
    else if !proposed.isOk && p.isRolling then
      p.overrideByRule l (← (p.overrideRule now).dueDate p.violation l) comment
    else if proposed.isOk && p.reachedRenewalLimit l then p.overrideByRule l proposed comment
    else return .violation (p.violation overrideUnexpected)

/-- renew a loan at an operator's word -/
def overrideRenewal (p : LoanPolicy) (l : Loan) (systemDate dueDate : Option DateTime) (comment : Option Text) :
    Logged (Outcome Loan) :=
  let now := systemDate.map DateTime.ensureAware
  let result := p.overriding l now (dueDate.map DateTime.ensureAware) comment
  let chosen := if p.loanable && p.renewable then [p.choiceEvent (p.renewalRule now) true] else []
  ⟨Outcome.settle result, chosen ++ p.faultEvents .overrideRenewal l result⟩

/-! ## Recall -/

/-- a date a configured period after another, or the given one if no period is configured -/
def recallDate (p : LoanPolicy) (period : Option Period) (field : String) (base default : Option DateTime) :
    Except Fault (Outcome (Option DateTime)) :=
  match period with
  | none => .ok (.ok default)
  | some period => Outcome.andThen (period.addTo base p.violation (some field)) fun d => .ok (.ok (some d))

/-- the date before which a recalled loan does not fall due -/
def guaranteedDate (p : LoanPolicy) (l : Loan) : Except Fault (Outcome (Option DateTime)) :=
  p.recallDate p.minimumGuaranteedPeriod minimumGuaranteedField l.loanDate none

/-- the date by which a recalled item is wanted back -/
def returnDate (p : LoanPolicy) (now : Option DateTime) : Except Fault (Outcome (Option DateTime)) :=
  p.recallDate p.recallReturnInterval recallReturnField now now

/-- the later of the date guaranteed to the borrower and the date of return -/
def laterDate (guaranteed wanted : Option DateTime) : Except Fault (Option DateTime) :=
  match guaranteed, wanted with
  | none, w => .ok w
  | some _, none => .error .dateMissing
  | some g, some w => do return some (if ← g.before w then w else g)

/-- call a loan back -/
def callingBack (p : LoanPolicy) (l : Loan) (now : Option DateTime) : Except Fault (Outcome Loan) := do
  let guaranteed ← p.guaranteedDate l
  let wanted ← p.returnDate now
  let errors := wanted.errors ++ guaranteed.errors
  if !errors.isEmpty then return .failed (.violations errors)
  match guaranteed, wanted with
  | .failed c, _ => return .failed c
  | _, .failed c => return .failed c
  | .ok g, .ok w => return .ok (l.callBack (← laterDate g w))

/-- call a loan back, logged -/
def callBack (p : LoanPolicy) (l : Loan) (systemDate : Option DateTime) : Logged (Outcome Loan) :=
  let result := p.callingBack l (systemDate.map DateTime.ensureAware)
  ⟨Outcome.settle result, p.faultEvents .callBack l result⟩

end Lending.LoanPolicy
