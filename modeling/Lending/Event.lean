/-
What is written to the log.

An `Event` is one record, `Event.level` and `Event.text` its level and wording. `Logged` is a value with the events that
led to it, in order. A log puts its records into words by itself: a record for which there are none (`Event.fault?`) is a
matter of the log, and stops nothing that is logged.
-/
import Lending.Document.Value

namespace Lending

/-- how much a record matters -/
inductive Level
  | debug
  | info
  | warning
  | error
deriving DecidableEq

def Level.name : Level → String
  | debug => "DEBUG"
  | info => "INFO"
  | warning => "WARNING"
  | error => "ERROR"

/-- an operation of a loan policy that reports its faults -/
inductive PolicyOperation
  | checkOut
  | renew
  | overrideRenewal
  | callBack
deriving DecidableEq

def PolicyOperation.name : PolicyOperation → String
  | checkOut => "check_out"
  | renew => "renew"
  | overrideRenewal => "override_renewal"
  | callBack => "recall"

/-- one record of the log -/
inductive Event
  | zoneUnknown (name : Text)
  | ruleChosen (policyId : Option Text) (rule : String) (isRenewal : Bool)
  | renewalRefused (loanId : Text) (policyId : Option Text) (errors : Nat)
  | policyFault (operation : PolicyOperation) (loanId : Text) (policyId : Option Text)
  | checkedOut (loanId itemId : Text) (policyId : Option Text) (dueDate : DateTime)
  | requestRefused (requestId itemId : Text) (messages : List Text)
  | requestCreated (requestId itemId : Text) (position : Option Int)
  | schemaViolated (source : Text) (problems : List String)
  | documentFound (source : Text) (keys : List Value)
  | scheduleMissing (scheduleId source : Text)
  | policyLoaded (policyId : Option Text) (source : Text)
deriving DecidableEq

namespace Event

def level : Event → Level
  | ruleChosen _ _ _ => .debug
  | zoneUnknown _ | schemaViolated _ _ | scheduleMissing _ _ => .warning
  | policyFault _ _ _ => .error
  | _ => .info

/-- a text, or the word for none -/
def shownText (t : Option Text) : Text := t.getD "None"

/-- the wording of an event -/
def message : Event → Text
  | zoneUnknown name => "CIRCULATION_TIMEZONE_UNKNOWN timezone=" ++ name ++ " fallback=UTC"
  | ruleChosen policyId rule isRenewal =>
    "LOAN_POLICY_STRATEGY policy_id=" ++ shownText policyId ++ " strategy=" ++ rule ++ " renewal=" ++
      if isRenewal then "True" else "False"
  | renewalRefused loanId policyId errors =>
    "LOAN_RENEWAL_REFUSED loan_id=" ++ loanId ++ " policy_id=" ++ shownText policyId ++ s!" errors={errors}"
  | policyFault operation loanId policyId =>
    s!"LOAN_POLICY_SERVER_ERROR operation={operation.name} loan_id=" ++ loanId ++ " policy_id=" ++ shownText policyId
  | checkedOut loanId itemId policyId dueDate =>
    "LOAN_CHECKED_OUT loan_id=" ++ loanId ++ " item_id=" ++ itemId ++ " policy_id=" ++ shownText policyId ++
      s!" due_date={Timestamp.text dueDate}"
  | requestRefused requestId itemId messages =>
    let errors := ", ".intercalate (messages.map Text.quoted)
    "REQUEST_REFUSED request_id=" ++ requestId ++ " item_id=" ++ itemId ++ s!" errors=[{errors}]"
  | requestCreated requestId itemId position =>
    "REQUEST_CREATED request_id=" ++ requestId ++ " item_id=" ++ itemId ++ " position=" ++
      shownText (position.map fun n => toString n)
  | schemaViolated source problems =>
    let all := "; ".intercalate problems
    "POLICY_SCHEMA_INVALID source=" ++ source ++ s!" problems={all}"
  | documentFound source keys =>
    let all := ", ".intercalate (keys.map fun k => k.writtenIn [])
    "POLICY_DOCUMENT_FOUND source=" ++ source ++ s!" keys=[{all}]"
  | scheduleMissing scheduleId source =>
    "POLICY_SCHEDULE_MISSING schedule_id=" ++ scheduleId ++ " source=" ++ source
  | policyLoaded policyId source => "POLICY_LOADED kind=loan id=" ++ shownText policyId ++ " source=" ++ source

/-- an event as it stands in the log -/
def text (e : Event) : Text := e.level.name ++ " " ++ e.message

/-- why an event cannot be put into words: it shows a number that has too many digits -/
def fault? : Event → Option Fault
  | documentFound _ keys => if keys.any (·.holdsLongNumber) then some .numberTooLong else none
  | requestCreated _ _ (some position) => if Text.isLong position then some .numberTooLong else none
  | _ => none

end Event

/-- a value with the events that led to it -/
structure Logged (α : Type) where
  value : α
  events : List Event := []

namespace Logged

instance : Monad Logged where
  pure a := ⟨a, []⟩
  bind x f :=
    let y := f x.value
    ⟨y.value, x.events ++ y.events⟩

/-- write one event -/
def log (e : Event) : Logged Unit := ⟨(), [e]⟩

end Logged

end Lending
