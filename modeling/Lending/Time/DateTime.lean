/-
Points in time as a library writes them down: a wall clock reading, perhaps with a zone.

Two dates of one zone are ordered by what the wall clock shows; dates of different zones by their instants. A date
without a zone has no order with one that has a zone. Adding a span moves the wall clock and clears the fold.
-/
import Lending.Time.Zone

namespace Lending

/-- a wall clock reading, with its zone if one is known; the fold tells apart the two times of a repeated hour -/
structure DateTime where
  wall : Wall
  zone : Option Zone := none
  fold : Bool := false
deriving DecidableEq

namespace DateTime

/-- whether the zone is known -/
def isAware (d : DateTime) : Bool := d.zone.isSome

/-- give a date that has no zone the given one -/
def ensureAware (d : DateTime) (z : Zone := Zone.utc) : DateTime :=
  match d.zone with
  | none => { d with zone := some z }
  | some _ => d

/-- the offset from UTC, in microseconds -/
def offset? (d : DateTime) : Option Int := d.zone.map fun z => z.offsetTicks d.wall d.fold

/-- microseconds from the start of year 1 in UTC -/
def instant? (d : DateTime) : Option Int := d.offset?.map fun o => d.wall.ticks - o

/-- the numbers by which two dates are ordered -/
def keys (a b : DateTime) : Except Fault (Int × Int) :=
  if a.zone = b.zone then .ok (a.wall.ticks, b.wall.ticks)
  else match a.instant?, b.instant? with
    | some i, some j => .ok (i, j)
    | _, _ => .error .zoneMissing

/-- whether one date is before another -/
def before (a b : DateTime) : Except Fault Bool := do
  let (i, j) ← keys a b
  return i < j

/-- whether one date is before another or at the same time -/
def notAfter (a b : DateTime) : Except Fault Bool := do
  let (i, j) ← keys a b
  return i ≤ j

/-- the date a span of microseconds later on the wall clock -/
def shift (d : DateTime) (span : Int) : Except Fault DateTime :=
  match d.wall.shift? span with
  | some w => .ok { d with wall := w, fold := false }
  | none => .error .dateOutOfRange

/-- the same point in time as a UTC clock shows it; a date without a zone is read as UTC -/
def toUtc (d : DateTime) : Except Fault DateTime :=
  match d.zone with
  | none =>
    if d.wall.ticks < ticksPerDay then .error (.yearOutOfRange 0)
    else .ok ⟨d.wall, some .utc, false⟩
  | some z =>
    match Wall.ofTicks? (d.wall.ticks - z.offsetTicks d.wall d.fold) with
    | some w => .ok ⟨w, some .utc, false⟩
    | none => .error .dateOutOfRange

/-- the last microsecond of the UTC day in which a date falls -/
def endOfUtcDay (d : DateTime) : Except Fault DateTime :=
  d.toUtc.map fun u => ⟨u.wall.endOfDay, some .utc, false⟩

end DateTime

end Lending
