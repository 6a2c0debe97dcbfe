/-
The order of keys.

Texts are ordered by their code points, bytes by their numbers, numbers and truth values by size, days and dates by time;
values of different kinds have no order, and asking for it is a fault that names their types. `Value.sorted?` puts keys in order.
-/
import Lending.Document.Value
import Lending.Sorting.Runs

namespace Lending

namespace Value

/-- the name of a type in a fault about order -/
def orderName : Value → String
  | date _ => "datetime.date"
  | dateTime _ => "datetime.datetime"
  | v => v.typeName

/-- whether a number or truth value is less than another; nothing for other values -/
def numberLess? : Value → Value → Option Bool
  | float x, float y => some (x.less y)
  | float x, w => (sameKey.whole? w).map fun n => x.ltInt n
  | v, float y => (sameKey.whole? v).map fun n => y.gtInt n
  | v, w => do return (← sameKey.whole? v) < (← sameKey.whole? w)

/-- whether one value is less than another -/
def less (v w : Value) : Except Fault Bool :=
  match v, w with
  | text s, text t => .ok (s.before t)
  | date d, date e => .ok (d.ordinal < e.ordinal)
  | dateTime d, dateTime e => d.before e
  | bytes a, bytes b => .ok (a < b)
  | date _, dateTime _ | dateTime _, date _ => .error .dayAgainstDate
  | v, w =>
    match numberLess? v w with
    | some b => .ok b
    | none => .error (.noOrder v.orderName w.orderName)

/-- the values in order -/
def sorted? (vs : List Value) : Except Fault (List Value) := Sorting.sorted? less vs

end Value

end Lending
