/-
Rules that give a loan its due date.

A loan policy chooses one rule for a check-out or a renewal; `DueDateRule.dueDate` applies it. A rolling rule adds a
period and stays within a schedule, a fixed rule takes the due date from a schedule, and an unknown profile has no due
date at all.
-/
import Lending.Loan
import Lending.Period
import Lending.Schedule

namespace Lending

/-- the date from which a loan is renewed -/
inductive RenewFrom
  | systemDate
  | currentDueDate
deriving DecidableEq

namespace RenewFrom

def all : List RenewFrom := [systemDate, currentDueDate]

def name : RenewFrom → String
  | systemDate => "SYSTEM_DATE"
  | currentDueDate => "CURRENT_DUE_DATE"

/-- the option with an id, whose case and surrounding blanks do not matter -/
def ofId? (id : Option Text) : Option RenewFrom :=
  let word := (id.getD {}).trim.upper
  all.find? fun r => Text.ofString r.name = word

end RenewFrom

/-- a rule for the due date of a loan -/
inductive DueDateRule
  | rollingCheckOut (period : Period) (limit : Schedule)
  | fixedCheckOut (schedule : Schedule)
  | rollingRenewal (systemDate : Option DateTime) (renewFromId : Option Text) (period : Period) (limit : Schedule)
    (skipTruncation : Bool)
  | fixedRenewal (schedule : Schedule) (systemDate : Option DateTime)
  | unknown (profileId : Option Text) (isRenewal : Bool)
deriving DecidableEq

namespace DueDateRule

/-- the name of a kind of rule in the log -/
def name : DueDateRule → String
  | rollingCheckOut _ _ => "RollingCheckOutStrategy"
  | fixedCheckOut _ => "FixedCheckOutStrategy"
  | rollingRenewal _ _ _ _ _ => "RollingRenewalStrategy"
  | fixedRenewal _ _ => "FixedRenewalStrategy"
  | unknown _ _ => "UnknownStrategy"

def checkOutOutsideSchedule : String := "loan date falls outside of the date ranges in the loan policy"
def renewalOutsideSchedule : String := "renewal date falls outside of the date ranges in the loan policy"
def cannotDetermineRenewFrom : String := "cannot determine when to renew from"
def loanHasNoDueDate : String := "loan has no current due date to renew from"

/-- the message about a profile that is not recognized -/
def unknownProfile (profileId : Option Text) (isRenewal : Bool) : Text :=
  let deed := if isRenewal then "renewed" else "checked out"
  s!"Item can't be {deed} as profile \"" ++ profileId.getD {} ++ "\" in the loan policy is not recognized."

/-- the date from which a renewal counts, or why there is none -/
def renewalBase (systemDate : Option DateTime) (renewFromId : Option Text) (errorFor : Text → Violation)
    (l : Loan) : Outcome DateTime :=
  match RenewFrom.ofId? renewFromId with
  | some .currentDueDate =>
    match l.dueDate with
    | some due => .ok due
    | none => .refuse loanHasNoDueDate "loanId" (some l.id)
  | some .systemDate =>
    match systemDate with
    | some now => .ok now
    | none => .violation (errorFor cannotDetermineRenewFrom).asConfiguration
  | none => .violation (errorFor cannotDetermineRenewFrom).asConfiguration

/-- the due date that a schedule gives outright -/
def scheduledDue (s : Schedule) (d : Option DateTime) (outside : Violation) : Except Fault (Outcome DateTime) := do
  match ← s.dueFor d with
  | some due => return .ok due
  | none => return .violation outside

/-- the due date of a loan, or the rules that stand against it -/
def dueDate (rule : DueDateRule) (errorFor : Text → Violation) (l : Loan) : Except Fault (Outcome DateTime) :=
  match rule with
  | rollingCheckOut period limit =>
    Outcome.andThen (period.addTo l.loanDate errorFor) fun due =>
      limit.truncate due l.loanDate (errorFor checkOutOutsideSchedule)
  | fixedCheckOut schedule => scheduledDue schedule l.loanDate (errorFor checkOutOutsideSchedule)
  | rollingRenewal systemDate renewFromId period limit skipTruncation =>
    Outcome.andThen (.ok (renewalBase systemDate renewFromId errorFor l)) fun base =>
      let proposed := period.addTo (some base) errorFor
      if skipTruncation then proposed
      else Outcome.andThen proposed fun due =>
        limit.truncate due l.loanDate (errorFor renewalOutsideSchedule)
  | fixedRenewal schedule systemDate => scheduledDue schedule systemDate (errorFor renewalOutsideSchedule)
  | unknown profileId isRenewal =>
    .ok (.violation (errorFor (unknownProfile profileId isRenewal)).asConfiguration)

end DueDateRule

end Lending
