/-
Time zones.

A zone is a fixed offset from UTC or a region, whose offset at a reading is that of its clock.
-/
import Lending.Time.Region

namespace Lending

/-- a fixed offset from UTC in microseconds, of less than a day either way -/
structure Offset where
  ticks : Int
  inDay : ticks.natAbs < ticksPerDay
deriving DecidableEq

namespace Offset

def zero : Offset := ⟨0, by decide⟩

/-- the offset of a number of microseconds, or what is wrong with it -/
def ofTicks (n : Int) : Except Fault Offset :=
  if h : n.natAbs < ticksPerDay then .ok ⟨n, h⟩ else .error (.offsetOutOfRange n)

end Offset

/-- a time zone -/
inductive Zone
  | fixed (offset : Offset)
  | region (region : Region)
deriving DecidableEq

namespace Zone

/-- Coordinated Universal Time -/
def utc : Zone := .fixed .zero

/-- the offset from UTC of a reading, in microseconds -/
def offsetTicks (z : Zone) (w : Wall) (fold : Bool) : Int :=
  match z with
  | .fixed o => o.ticks
  | .region r => r.clock.offset w fold

/-- the zone with a name, if it is that of a region; names that only a larger zone database knows have none -/
def ofName? (name : String) : Option Zone := (Region.all.find? (·.name = name)).map .region

end Zone

end Lending
