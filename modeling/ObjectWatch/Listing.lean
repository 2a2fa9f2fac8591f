import ObjectWatch.Manifest

/-!
The objects of a listing: a list of manifests, or a mapping with such a list under `items`. A bad item is
left out and costs no other.
-/

namespace ObjectWatch

inductive ListingError where
  | notCollection
  | noItems
  | itemsNotList
  deriving DecidableEq, Repr

namespace ListingError

def message : ListingError → String
  | notCollection => "objects file must contain a list or a mapping"
  | noItems => "objects file missing 'items' key"
  | itemsNotList => "'items' must be a list"

def kind : ListingError → Failure.Kind
  | notCollection | noItems | itemsNotList => .invalidValue

end ListingError

namespace Listing

/-- Why an item of a listing is left out. -/
inductive Skipped where
  | notMapping (item : Value)
  | refused (cause : ManifestError)

def Skipped.message : Skipped → String
  | notMapping item => "ignoring non-mapping item " ++ item.literal
  | refused cause => "ignoring invalid manifest: " ++ cause.message

def items (payload : Value) : Except ListingError (List Value) :=
  match payload.items? with
  | some items => .ok items
  | none =>
    if payload.isMapping then
      match payload.get "items" with
      | .null => .error .noItems
      | v => match v.items? with
        | some items => .ok items
        | none => .error .itemsNotList
    else .error .notCollection

def objectOf (item : Value) : Except Skipped Value :=
  if item.isMapping then (Value.ofManifest item).mapError .refused else .error (.notMapping item)

def objectsOf (items : List Value) : List Value :=
  items.filterMap fun item => (objectOf item).toOption

/-- Why the other items are left out, in order. -/
def skippedOf (items : List Value) : List Skipped :=
  items.filterMap fun item => match objectOf item with
    | .ok _ => none
    | .error e => some e

end Listing

end ObjectWatch
