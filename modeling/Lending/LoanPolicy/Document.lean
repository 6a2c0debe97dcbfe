/-
Loan policy documents.

The sections of a document are read field by field. Periods keep whatever the document gave as duration.
-/
import Lending.Document.Section

namespace Lending

/-- a period in a document -/
structure PeriodSection where
  duration : Value := .null
  interval : Option Text := none
deriving DecidableEq

/-- how items are lent -/
structure LoansSection where
  profileId : Option Text := none
  period : Option PeriodSection := none
  scheduleId : Option Text := none
  closedLibraryManagementId : Option Text := none
  openingTimeOffset : Option PeriodSection := none
deriving DecidableEq

/-- how loans are renewed -/
structure RenewalsSection where
  unlimited : Bool := false
  numberAllowed : Option Int := none
  differentPeriod : Bool := false
  renewFromId : Option Text := none
  period : Option PeriodSection := none
  alternateScheduleId : Option Text := none
deriving DecidableEq

/-- how loans change when others want the item -/
structure RequestsSection where
  alternateCheckoutPeriod : Option PeriodSection := none
  minimumGuaranteedPeriod : Option PeriodSection := none
  recallReturnInterval : Option PeriodSection := none
deriving DecidableEq

/-- a loan policy document -/
structure LoanPolicyDocument where
  id : Option Text := none
  name : Option Text := none
  loanable : Bool := false
  renewable : Bool := false
  loans : Option LoansSection := none
  renewals : RenewalsSection := {}
  requests : RequestsSection := {}
deriving DecidableEq

open Reading

/-- a text that may be null or left out -/
def textField (entries : List (Value × Value)) (name recordName : String) : Reading (Option Text) :=
  field entries name recordName none (optional text)

def PeriodSection.read : Value → Reading PeriodSection :=
  ofSection {} fun entries => do
    let duration ← field entries "duration" "duration" .null pure
    let interval ← textField entries "intervalId" "interval_id"
    return { duration, interval }

/-- a period that may be null or left out -/
def periodField (entries : List (Value × Value)) (name recordName : String) : Reading (Option PeriodSection) :=
  field entries name recordName none (optional PeriodSection.read)

def LoansSection.read : Value → Reading LoansSection :=
  ofSection {} fun entries => do
    let profileId ← textField entries "profileId" "profile_id"
    let period ← periodField entries "period" "period"
    let scheduleId ← textField entries "fixedDueDateScheduleId" "fixed_due_date_schedule_id"
    let closedLibraryManagementId ←
      textField entries "closedLibraryDueDateManagementId" "closed_library_due_date_management_id"
    let openingTimeOffset ← periodField entries "openingTimeOffset" "opening_time_offset"
    return { profileId, period, scheduleId, closedLibraryManagementId, openingTimeOffset }

def RenewalsSection.read : Value → Reading RenewalsSection :=
  ofSection {} fun entries => do
    let unlimited ← field entries "unlimited" "unlimited" false truth
    let numberAllowed ← field entries "numberAllowed" "number_allowed" none (optional whole)
    let differentPeriod ← field entries "differentPeriod" "different_period" false truth
    let renewFromId ← textField entries "renewFromId" "renew_from_id"
    let period ← periodField entries "period" "period"
    let alternateScheduleId ←
      textField entries "alternateFixedDueDateScheduleId" "alternate_fixed_due_date_schedule_id"
    return { unlimited, numberAllowed, differentPeriod, renewFromId, period, alternateScheduleId }

/-- the holds in a requests section -/
def RequestsSection.readHolds : Value → Reading (Option PeriodSection) :=
  ofSection none fun entries => periodField entries "alternateCheckoutLoanPeriod" "alternate_checkout_loan_period"

/-- the recalls in a requests section: the guaranteed period and the return interval -/
def RequestsSection.readRecalls : Value → Reading (Option PeriodSection × Option PeriodSection) :=
  ofSection (none, none) fun entries => do
    let guaranteed ← periodField entries "minimumGuaranteedLoanPeriod" "minimum_guaranteed_loan_period"
    let interval ← periodField entries "recallReturnInterval" "recall_return_interval"
    return (guaranteed, interval)

def RequestsSection.read : Value → Reading RequestsSection :=
  ofSection {} fun entries => do
    let alternate ← field entries "holds" "holds" none readHolds
    let (guaranteed, interval) ← field entries "recalls" "recalls" (none, none) readRecalls
    return ⟨alternate, guaranteed, interval⟩

def LoanPolicyDocument.read : Value → Reading LoanPolicyDocument :=
  ofSection {} fun entries => do
    let id ← textField entries "id" "id"
    let name ← textField entries "name" "name"
    let loanable ← field entries "loanable" "loanable" false truth
    let renewable ← field entries "renewable" "renewable" false truth
    let loans ← field entries "loansPolicy" "loans_policy" none (optional LoansSection.read)
    let renewals ← field entries "renewalsPolicy" "renewals_policy" {} RenewalsSection.read
    let requests ← field entries "requestManagement" "request_management" {} RequestsSection.read
    return { id, name, loanable, renewable, loans, renewals, requests }

end Lending
