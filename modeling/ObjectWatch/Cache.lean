import ObjectWatch.Filter
import ObjectWatch.Manifest

/-!
The cache: the objects of the last listing, and those of them that the filter passes. Reconciling compares
the latter with what was tracked before and gives the difference as events.
-/

namespace ObjectWatch

/-- What a cache may hold in the place of its filter. -/
inductive Criterion where
  | filter (f : Filter)
  /-- Passes every object and cannot be compared with a filter. -/
  | unconditional
  /-- A value that is no filter. -/
  | foreign (v : Value)
  deriving Inhabited

namespace Criterion

def literal : Criterion → String
  | filter f => f.literal
  | unconditional => "<custom>"
  | foreign v => v.literal

/-- The objects of a listing that pass. A value that is no filter fails on the first. -/
def select (c : Criterion) (listing : List (Identity × Value)) :
    Except AccessError (List (Identity × Value)) :=
  match c with
  | filter f => .ok (listing.filter fun entry => f.accept entry.2)
  | unconditional => .ok listing
  | foreign v => if listing.isEmpty then .ok [] else .error (v.callError "accept")

/-- The criterion that a cache starts with; one that does not count as given passes every object. -/
def initial : Criterion → Criterion
  | foreign v => if v.truthy then foreign v else filter .null
  | c => c

end Criterion

/-- A change of what is tracked. -/
inductive Event where
  | upsert (id : Identity) (object : Value)
  | delete (id : Identity) (object : Value)
  deriving Inhabited

namespace Event

def id : Event → Identity
  | upsert id _ => id
  | delete id _ => id

/-- The object of an event: the new one, or the one that was tracked. -/
def object : Event → Value
  | upsert _ object => object
  | delete _ object => object

def isUpsert : Event → Bool
  | upsert _ _ => true
  | delete _ _ => false

end Event

/-- A criterion, the last object of each identity of the last listing, and those that pass. -/
structure Cache where
  criterion : Criterion
  listing : List (Identity × Value)
  tracked : List (Identity × Value)
  deriving Inhabited

namespace Cache

/-- A cache that has seen no listing. -/
def fresh (c : Criterion) : Cache :=
  { criterion := c.initial, listing := [], tracked := [] }

/-- The objects that have an identity, the last one of each at the place of the first. -/
def index (objects : List Value) : List (Identity × Value) :=
  Table.ofPairs (objects.filterMap fun v => v.identity?.map fun id => (id, v))

/-- The upserts that lead from one table to another: the objects that are new or differ, in the order of
the second table. -/
def upserts (old new : List (Identity × Value)) : List Event :=
  new.filterMap fun entry =>
    match Table.get? entry.1 old with
    | some before => if before.equal entry.2 then none else some (.upsert entry.1 entry.2)
    | none => some (.upsert entry.1 entry.2)

/-- The deletes that lead from one table to another: the old objects that are gone, in the order of their
identities. -/
def deletes (old new : List (Identity × Value)) : List Event :=
  let gone := old.filter fun entry => !Table.has entry.1 new
  (Identity.sorted (Table.keys gone)).filterMap fun id => (Table.get? id old).map (.delete id)

def changes (old new : List (Identity × Value)) : List Event :=
  upserts old new ++ deletes old new

/-- Tracks what passes now; gives the cache after it and the events. -/
def reconcile (c : Cache) : Except AccessError (Cache × List Event) :=
  (c.criterion.select c.listing).map fun tracked =>
    ({ c with tracked := tracked }, changes c.tracked tracked)

def get? (c : Cache) (id : Identity) : Option Value :=
  Table.get? id c.tracked

/-- The tracked objects in the order of their identities. -/
def toList (c : Cache) : List Value :=
  (Identity.sorted (Table.keys c.tracked)).filterMap c.get?

end Cache

end ObjectWatch
