/-
Fixed due date schedules.

A schedule is a list of date ranges, each with a due date; the first range that contains a date governs it, both ends
being outside. `Schedule.truncate` gives the earlier of a due date and the one that governs. A policy may also have no
schedule, which is not one without ranges: it truncates nothing.
-/
import Lending.Document.Section
import Lending.Outcome

namespace Lending

/-- a range of dates and the due date for them -/
structure ScheduleRange where
  start : DateTime
  stop : DateTime
  due : DateTime
deriving DecidableEq

/-- whether a date lies between the ends of a range -/
def ScheduleRange.contains (r : ScheduleRange) (d : DateTime) : Except Fault Bool := do
  if ← r.start.before d then d.before r.stop else return false

/-- a schedule, or none -/
inductive Schedule
  | unconfigured
  | configured (id name : Option Text) (ranges : List ScheduleRange)
deriving DecidableEq

namespace Schedule

def isConfigured : Schedule → Bool
  | unconfigured => false
  | configured _ _ _ => true

def id? : Schedule → Option Text
  | unconfigured => none
  | configured id _ _ => id

def name? : Schedule → Option Text
  | unconfigured => none
  | configured _ name _ => name

def ranges : Schedule → List ScheduleRange
  | unconfigured => []
  | configured _ _ ranges => ranges

/-- the schedule with other ranges -/
def withRanges (s : Schedule) (ranges : List ScheduleRange) : Schedule := configured s.id? s.name? ranges

/-- the due date of the first range that contains a date -/
def firstDue : List ScheduleRange → DateTime → Except Fault (Option DateTime)
  | [], _ => return none
  | r :: rs, d => do
    if ← r.contains d then return some r.due else firstDue rs d

/-- the due date that governs a date -/
def dueFor (s : Schedule) (d : Option DateTime) : Except Fault (Option DateTime) :=
  match d with
  | some d => firstDue s.ranges d
  | none => if s.ranges.isEmpty then .ok none else .error .rangeWithoutDate

/-- every due date, moved to the end of its UTC day -/
def dueDates (s : Schedule) : Except Fault (List DateTime) := s.ranges.mapM (·.due.endOfUtcDay)

/-- the earlier of a due date and the one that governs a reference date -/
def truncate (s : Schedule) (due : DateTime) (reference : Option DateTime) (outside : Violation) :
    Except Fault (Outcome DateTime) :=
  match s with
  | unconfigured => .ok (.ok due)
  | configured _ _ _ => do
    match ← s.dueFor reference with
    | none => return .violation outside
    | some limit => return .ok (if ← limit.before due then limit else due)

/-! ## Documents -/

/-- the date that stands for one that cannot be read -/
def unread : DateTime := ⟨⟨0, by decide⟩, none, false⟩

/-- one range of a schedule document -/
def readRange : Value → Reading ScheduleRange :=
  Reading.ofSection ⟨unread, unread, unread⟩ fun entries => do
    let start ← Reading.requiredField entries "from" "from_date" unread (Reading.timestamp unread)
    let stop ← Reading.requiredField entries "to" "to_date" unread (Reading.timestamp unread)
    let due ← Reading.requiredField entries "due" "due_date" unread (Reading.timestamp unread)
    return ⟨start, stop, due⟩

/-- a schedule document; its dates may lack a zone -/
def read : Value → Reading Schedule :=
  Reading.ofSection unconfigured fun entries => do
    let id ← Reading.field entries "id" "id" none (Reading.optional Reading.text)
    let name ← Reading.field entries "name" "name" none (Reading.optional Reading.text)
    let ranges ← Reading.field entries "schedules" "schedules" [] (Reading.list readRange)
    return configured id name ranges

/-- the range with a zone for the dates that have none -/
def rangeIn (z : Zone) (r : ScheduleRange) : ScheduleRange :=
  ⟨r.start.ensureAware z, r.stop.ensureAware z, r.due.ensureAware z⟩

/-- the schedule with a zone for the dates that have none -/
def inZone (s : Schedule) (z : Zone) : Schedule :=
  match s with
  | unconfigured => unconfigured
  | configured id name ranges => configured id name (ranges.map (rangeIn z))

/-- the schedule that a document gives, none for null -/
def ofDocument (v : Value) (z : Zone) : Except (List ReadProblem) Schedule :=
  match v with
  | .null => .ok unconfigured
  | v => (read v).toExcept.map (·.inZone z)

end Schedule

end Lending
