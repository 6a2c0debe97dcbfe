/-
Patrons of the library.
-/
import Lending.Text.Basic

namespace Lending

/-- someone who borrows and requests items -/
structure Patron where
  id : Text
  groupId : Option Text := none
  barcode : Option Text := none
  firstName : Option Text := none
  lastName : Option Text := none
deriving DecidableEq

/-- last name and first name, as far as there are any -/
def Patron.personalName (p : Patron) : Text :=
  .join ", " ([p.lastName, p.firstName].reduceOption.filter (!·.isEmpty))

end Lending
