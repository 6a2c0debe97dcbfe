/-
The requests that wait for an item.

A `Queue` is a list of requests. `Queue.of` orders requests by position, those without one last and equals as they came.
`Queue.add` puts a request behind the highest position, `Queue.remove` numbers the others from 1.
-/
import Lending.Request

namespace Lending

/-- the requests for one item, in order -/
structure Queue where
  requests : List Request := []
deriving DecidableEq

namespace Queue

/-- the numbers by which requests are ordered: none comes after every position -/
def key (r : Request) : Nat × Int :=
  match r.position with
  | some n => (0, n)
  | none => (1, 0)

/-- whether a request may stand before another -/
def inOrder (r s : Request) : Bool :=
  (key r).1 < (key s).1 || ((key r).1 == (key s).1 && (key r).2 ≤ (key s).2)

/-- the queue of a list of requests -/
def of (requests : List Request) : Queue := ⟨requests.mergeSort inOrder⟩

def empty : Queue := ⟨[]⟩

def size (q : Queue) : Nat := q.requests.length

/-- whether a request with an id waits -/
def contains (q : Queue) (id : Text) : Bool := q.requests.any (·.id = id)

/-- the highest position, 0 for a queue without any -/
def lastPosition (q : Queue) : Int := ((q.requests.filterMap (·.position)).max?).getD 0

/-- the position behind the highest one -/
def nextPosition (q : Queue) : Int := q.lastPosition + 1

/-- put a request at the end -/
def add (q : Queue) (r : Request) : Queue := ⟨q.requests ++ [r.withPosition q.nextPosition]⟩

/-- number requests from a position on -/
def renumber : Int → List Request → List Request
  | _, [] => []
  | n, r :: rs => r.withPosition n :: renumber (n + 1) rs

/-- drop the requests with an id and number the others from 1 -/
def remove (q : Queue) (id : Text) : Queue := ⟨renumber 1 (q.requests.filter (·.id ≠ id))⟩

/-- whether the item awaits pickup by someone other than the patron with this id -/
def awaitsOther (q : Queue) (patronId : Option Text) : Bool :=
  q.requests.any fun r => r.status = .openAwaitingPickup && some r.requesterId ≠ patronId

/-- the first request that can be fulfilled -/
def first? (q : Queue) : Option Request := q.requests.find? (·.isFulfillable)

/-- whether the first request that can be fulfilled is of someone other than a patron -/
def isRequestedByOther (q : Queue) (p : Patron) : Bool := q.first?.any (·.requesterId ≠ p.id)

/-- whether the request right behind the first one is an unfilled hold -/
def hasWaitingHold (q : Queue) : Bool :=
  match q.requests with
  | _ :: second :: _ => second.type = .hold && second.status = .openNotYetFilled
  | _ => false

end Queue

end Lending
