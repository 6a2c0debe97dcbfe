/-
Loan policies.

A `LoanPolicy` is built once from its document and the schedules it refers to. Its profile and settings choose a
`DueDateRule` for a check-out (`checkOutRule`) and for a renewal (`renewalRule`).
-/
import Lending.DueDateRule
import Lending.Event
import Lending.LoanPolicy.Document
import Lending.Queue

namespace Lending

/-- how due dates come about -/
inductive LoanProfile
  | rolling
  | fixed
deriving DecidableEq

namespace LoanProfile

def all : List LoanProfile := [rolling, fixed]

def name : LoanProfile → String
  | rolling => "Rolling"
  | fixed => "Fixed"

/-- the profile with an id, whose case and surrounding blanks do not matter -/
def ofId? (id : Option Text) : Option LoanProfile :=
  let word := (id.getD {}).trim.lower
  all.find? fun p => (Text.ofString p.name).lower = word

end LoanProfile

/-- what becomes of a due date on which the library is closed -/
inductive ClosedDayRule
  | keepDueDate
  | endOfPreviousOpenDay
  | endOfNextOpenDay
  | keepDueDateTime
  | endOfServicePointHours
  | beginningOfNextServicePointHours
deriving DecidableEq

namespace ClosedDayRule

def all : List ClosedDayRule :=
  [keepDueDate, endOfPreviousOpenDay, endOfNextOpenDay, keepDueDateTime, endOfServicePointHours,
    beginningOfNextServicePointHours]

def name : ClosedDayRule → String
  | keepDueDate => "CURRENT_DUE_DATE"
  | endOfPreviousOpenDay => "END_OF_THE_PREVIOUS_OPEN_DAY"
  | endOfNextOpenDay => "END_OF_THE_NEXT_OPEN_DAY"
  | keepDueDateTime => "CURRENT_DUE_DATE_TIME"
  | endOfServicePointHours => "END_OF_THE_CURRENT_SERVICE_POINT_HOURS"
  | beginningOfNextServicePointHours => "BEGINNING_OF_THE_NEXT_OPEN_SERVICE_POINT_HOURS"

/-- the rule with an id, which must be spelled exactly; any other id keeps the due date -/
def ofId (id : Option Text) : ClosedDayRule := (all.find? fun r => id = some (Text.ofString r.name)).getD .keepDueDate

end ClosedDayRule

/-- a loan policy -/
structure LoanPolicy where
  id : Option Text := none
  name : Option Text := none
  loanable : Bool := false
  renewable : Bool := false
  hasLoansSection : Bool := true
  profileId : Option Text := none
  checkoutPeriod : Period := {}
  checkoutSchedule : Schedule := .unconfigured
  alternateRenewalSchedule : Schedule := .unconfigured
  checkoutScheduleId : Option Text := none
  alternateRenewalScheduleId : Option Text := none
  unlimitedRenewals : Bool := false
  renewalLimit : Int := 0
  differentRenewalPeriod : Bool := false
  renewFromId : Option Text := none
  alternateRenewalPeriod : Period := {}
  alternateCheckoutPeriod : Option Period := none
  minimumGuaranteedPeriod : Option Period := none
  recallReturnInterval : Option Period := none
  closedDayRuleId : Option Text := none
  openingTimeOffset : Option Period := none
deriving DecidableEq

/-- the period of a section -/
def PeriodSection.toPeriod (s : PeriodSection) : Except Fault Period := Period.ofValues s.duration s.interval

namespace LoanPolicy

/-- the policy that a document and its two schedules give -/
def ofDocument (doc : LoanPolicyDocument) (checkout alternateRenewal : Schedule) : Except Fault LoanPolicy := do
  let required (s : Option PeriodSection) : Except Fault Period := (s.getD {}).toPeriod
  let checkoutPeriod ← required (doc.loans.bind (·.period))
  let alternateRenewalPeriod ← required doc.renewals.period
  let alternateCheckoutPeriod ← doc.requests.alternateCheckoutPeriod.mapM (·.toPeriod)
  let minimumGuaranteedPeriod ← doc.requests.minimumGuaranteedPeriod.mapM (·.toPeriod)
  let recallReturnInterval ← doc.requests.recallReturnInterval.mapM (·.toPeriod)
  let openingTimeOffset ← (doc.loans.bind (·.openingTimeOffset)).mapM (·.toPeriod)
  return {
    id := doc.id
    name := doc.name
    loanable := doc.loanable
    renewable := doc.renewable
    hasLoansSection := doc.loans.isSome
    profileId := doc.loans.bind (·.profileId)
    checkoutPeriod
    checkoutSchedule := checkout
    alternateRenewalSchedule := alternateRenewal
    checkoutScheduleId := doc.loans.bind (·.scheduleId)
    alternateRenewalScheduleId := doc.renewals.alternateScheduleId
    unlimitedRenewals := doc.renewals.unlimited
    renewalLimit := doc.renewals.numberAllowed.getD 0
    differentRenewalPeriod := doc.renewals.differentPeriod
    renewFromId := doc.renewals.renewFromId
    alternateRenewalPeriod
    alternateCheckoutPeriod
    minimumGuaranteedPeriod
    recallReturnInterval
    closedDayRuleId := doc.loans.bind (·.closedLibraryManagementId)
    openingTimeOffset }

/-- why a policy cannot be built from documents -/
inductive BuildError
  | unreadable (problems : List ReadProblem)
  | fault (f : Fault)
deriving DecidableEq

/-- the policy that raw documents give, dates without a zone being in the given one -/
def ofDocuments (policy checkout alternateRenewal : Value) (z : Zone) : Except BuildError LoanPolicy := do
  let doc ← (LoanPolicyDocument.read policy).toExcept.mapError .unreadable
  let checkout ← (Schedule.ofDocument checkout z).mapError .unreadable
  let alternateRenewal ← (Schedule.ofDocument alternateRenewal z).mapError .unreadable
  (ofDocument doc checkout alternateRenewal).mapError .fault

/-! ## Settings -/

def profile? (p : LoanPolicy) : Option LoanProfile := LoanProfile.ofId? p.profileId

def isRolling (p : LoanPolicy) : Bool := p.hasLoansSection && p.profile? = some .rolling

def isFixed (p : LoanPolicy) : Bool := p.hasLoansSection && p.profile? = some .fixed

/-- the period by which a loan is renewed -/
def renewalPeriod (p : LoanPolicy) : Period :=
  if p.differentRenewalPeriod then p.alternateRenewalPeriod else p.checkoutPeriod

/-- the schedule that a rolling renewal stays within -/
def renewalLimitSchedule (p : LoanPolicy) : Schedule :=
  if p.differentRenewalPeriod && p.alternateRenewalSchedule.isConfigured then p.alternateRenewalSchedule
  else p.checkoutSchedule

/-- the schedule that a fixed renewal takes its due date from -/
def renewalFixedSchedule (p : LoanPolicy) : Schedule :=
  if p.differentRenewalPeriod then p.alternateRenewalSchedule else p.checkoutSchedule

def closedDayRule (p : LoanPolicy) : ClosedDayRule :=
  if p.hasLoansSection then .ofId p.closedDayRuleId else .keepDueDateTime

/-- the unit of the loan period -/
def periodUnit? (p : LoanPolicy) : Option Interval :=
  if p.hasLoansSection then p.checkoutPeriod.unit? else none

/-- the unit of the offset from opening time -/
def offsetUnit? (p : LoanPolicy) : Option Interval :=
  if p.hasLoansSection then p.openingTimeOffset.bind (·.unit?) else none

/-- the offset from opening time, 0 if there is no good one -/
def offsetDuration (p : LoanPolicy) : Nat := (p.openingTimeOffset.bind (·.duration?)).getD 0

/-- a violation of this policy -/
def violation (p : LoanPolicy) (message : Text) : Violation :=
  ⟨message, [("loanPolicyId", p.id), ("loanPolicyName", p.name)], .rule⟩

/-! ## Choice of a rule -/

/-- whether the alternate period applies: there is one, and an unfilled hold waits behind the first request -/
def usesAlternatePeriod (p : LoanPolicy) (q : Option Queue) : Bool :=
  p.alternateCheckoutPeriod.isSome && q.any (·.hasWaitingHold)

/-- the period of a check-out -/
def checkOutPeriod (p : LoanPolicy) (q : Option Queue) : Period :=
  if p.usesAlternatePeriod q then p.alternateCheckoutPeriod.getD {} else p.checkoutPeriod

/-- the rule for the due date of a check-out -/
def checkOutRule (p : LoanPolicy) (q : Option Queue) : DueDateRule :=
  if !p.hasLoansSection then .unknown (some {}) false
  else match p.profile? with
    | some .rolling => .rollingCheckOut (p.checkOutPeriod q) p.checkoutSchedule
    | some .fixed =>
      if p.usesAlternatePeriod q then .rollingCheckOut (p.checkOutPeriod q) p.checkoutSchedule
      else .fixedCheckOut p.checkoutSchedule
    | none => .unknown p.profileId false

/-- the rule for the due date of a renewal -/
def renewalRule (p : LoanPolicy) (systemDate : Option DateTime) : DueDateRule :=
  if !p.hasLoansSection then .unknown (some {}) true
  else match p.profile? with
    | some .rolling => .rollingRenewal systemDate p.renewFromId p.renewalPeriod p.renewalLimitSchedule false
    | some .fixed => .fixedRenewal p.renewalFixedSchedule systemDate
    | none => .unknown p.profileId true

/-- the rule for a renewal that an operator forces on a rolling policy: the schedule does not limit it -/
def overrideRule (p : LoanPolicy) (systemDate : Option DateTime) : DueDateRule :=
  .rollingRenewal systemDate p.renewFromId p.renewalPeriod p.renewalLimitSchedule true

/-- the event of choosing a rule -/
def choiceEvent (p : LoanPolicy) (rule : DueDateRule) (isRenewal : Bool) : Event :=
  .ruleChosen p.id rule.name isRenewal

/-- the rule for a check-out or a renewal -/
def chooseRule (p : LoanPolicy) (q : Option Queue) (isRenewal : Bool) (systemDate : Option DateTime) :
    Logged DueDateRule := do
  let rule := if isRenewal then p.renewalRule systemDate else p.checkOutRule q
  Logged.log (p.choiceEvent rule isRenewal)
  return rule

/-- the date by which a schedule limits a loan, if it does -/
def scheduleLimit (p : LoanPolicy) (loanDate : Option DateTime) (isRenewal : Bool) (systemDate : Option DateTime) :
    Except Fault (Option DateTime) :=
  let lent := loanDate.map DateTime.ensureAware
  let now := systemDate.map DateTime.ensureAware
  if p.isRolling then
    if isRenewal then p.renewalLimitSchedule.dueFor lent else p.checkoutSchedule.dueFor lent
  else if p.isFixed then
    if isRenewal then p.renewalFixedSchedule.dueFor now else p.checkoutSchedule.dueFor lent
  else .ok none

end LoanPolicy

end Lending
