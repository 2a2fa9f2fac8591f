import ObjectWatch.Number.Binary64
import ObjectWatch.Calendar
import ObjectWatch.Identity
import ObjectWatch.Table

/-!
The values that manifests, filters and objects are made of: plain data, attribute objects, and the typed
objects that a listing is turned into. Octets and sets are what a document may hold besides. A collection
that contains itself is written as a `knot`, with `enclosing` where the collection itself stands inside.
-/

namespace ObjectWatch

/-- A decoded value. -/
inductive Value where
  | null
  | bool (b : Bool)
  | int (i : Int)
  | float (x : Binary64)
  | str (s : String)
  | octets (os : List UInt8)
  | list (items : List Value)
  | tuple (items : List Value)
  | mapping (entries : List (Value × Value))
  /-- The members stand in the order in which one gets them by going through the set. -/
  | set (members : List Value)
  | day (d : Day)
  | moment (t : Moment)
  | identity (n : Identity)
  /-- An object with named attributes that is not a mapping. -/
  | record (fields : List (String × Value))
  /-- The metadata of a typed object on its own. -/
  | metadata (name ns : Value) (labels : List (Value × Value))
  | object (name ns : Value) (labels : List (Value × Value)) (kind : Value)
  | service (name ns : Value) (labels : List (Value × Value)) (kind : Value)
      (selector : List (Value × Value))
  /-- A thing that shows nothing of itself but a text; the tag tells two of them apart. -/
  | sealed (shown : String) (tag : Nat)
  /-- The list or mapping `body`, which contains itself under the label. -/
  | knot (label : Nat) (body : Value)
  /-- The collection of that label, seen from inside. -/
  | enclosing (label : Nat)
  deriving Inhabited

namespace Value

/-- Whether a value counts as given: null, false, zeros, and empty texts and collections do not. -/
def truthy : Value → Bool
  | null => false
  | bool b => b
  | int i => i != 0
  | float x => !x.isZero
  | str s => s != ""
  | octets os => !os.isEmpty
  | list items | tuple items | set items => !items.isEmpty
  | mapping entries => !entries.isEmpty
  | _ => true

/-- The value, or another one where it does not count as given. -/
def orElse (v other : Value) : Value :=
  if v.truthy then v else other

/-- No number; it differs even from itself. -/
def isNan : Value → Bool
  | float x => x.isNan
  | _ => false

mutual

/-- Puts a collection in every place where its label stands for it. -/
def unfoldIn (label : Nat) (whole : Value) : Value → Value
  | list items => list (unfoldItems label whole items)
  | tuple items => tuple (unfoldItems label whole items)
  | mapping entries => mapping (unfoldEntries label whole entries)
  | knot l body => if l = label then knot l body else knot l (unfoldIn label whole body)
  | enclosing l => if l = label then whole else enclosing l
  | v => v

def unfoldItems (label : Nat) (whole : Value) : List Value → List Value
  | [] => []
  | v :: rest => unfoldIn label whole v :: unfoldItems label whole rest

def unfoldEntries (label : Nat) (whole : Value) : List (Value × Value) → List (Value × Value)
  | [] => []
  | (k, v) :: rest => (unfoldIn label whole k, unfoldIn label whole v) :: unfoldEntries label whole rest

end

def entries? : Value → Option (List (Value × Value))
  | mapping entries => some entries
  | knot label (mapping entries) =>
    some (unfoldEntries label (knot label (mapping entries)) entries)
  | _ => none

def items? : Value → Option (List Value)
  | list items => some items
  | knot label (list items) => some (unfoldItems label (knot label (list items)) items)
  | _ => none

def isMapping (v : Value) : Bool :=
  v.entries?.isSome

/-- A list, tuples not counted. -/
def isList (v : Value) : Bool :=
  v.items?.isSome

/-- What one gets by going through a value: items, members, keys, characters or the numbers of octets. -/
def iterate? : Value → Option (List Value)
  | tuple items | set items => some items
  | octets os => some (os.map fun o => int o.toNat)
  | str s => some (s.toList.map fun c => str (String.singleton c))
  | v => match v.items? with
    | some items => some items
    | none => v.entries?.map Table.keys

/-- An attribute of an object. Mappings have entries and no attributes. -/
def attribute? (key : String) : Value → Option Value
  | record fields => Table.get? key fields
  | identity n =>
    if key = "name" then some (str n.name) else if key = "namespace" then some (str n.ns) else none
  | metadata name ns labels =>
    if key = "name" then some name else if key = "namespace" then some ns
    else if key = "labels" then some (mapping labels) else none
  | object name ns labels kind =>
    if key = "metadata" then some (metadata name ns labels)
    else if key = "kind" then some kind else none
  | service name ns labels kind selector =>
    if key = "metadata" then some (metadata name ns labels)
    else if key = "kind" then some kind
    else if key = "selector" then some (mapping selector) else none
  | _ => none

end Value

end ObjectWatch
