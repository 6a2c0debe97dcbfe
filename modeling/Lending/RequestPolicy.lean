/-
Request policies: the types of request that a patron may make for an item.
-/
import Lending.Document.Section
import Lending.Request

namespace Lending

/-- a request policy -/
structure RequestPolicy where
  id : Option Text := none
  name : Option Text := none
  types : List RequestType := []
deriving DecidableEq

namespace RequestPolicy

/-- the types in a list, each once and in a fixed order -/
def typeSet (types : List RequestType) : List RequestType := RequestType.all.filter types.contains

/-- the policy that allows the given types -/
def allowing (types : List RequestType) (id : Option Text := none) : RequestPolicy := ⟨id, none, typeSet types⟩

def allows (p : RequestPolicy) (t : RequestType) : Bool := p.types.contains t

/-- a request policy document; names that are no request type are passed over -/
def read : Value → Reading RequestPolicy :=
  Reading.ofSection {} fun entries => do
    let id ← Reading.field entries "id" "id" none (Reading.optional Reading.text)
    let name ← Reading.field entries "name" "name" none (Reading.optional Reading.text)
    let names ← Reading.field entries "requestTypes" "request_types" [] (Reading.list Reading.text)
    return ⟨id, name, typeSet (names.filterMap fun n => RequestType.ofName? (some n))⟩

end RequestPolicy

end Lending
