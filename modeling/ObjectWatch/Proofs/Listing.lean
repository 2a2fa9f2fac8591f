import Mathlib.Data.List.Forall2
import ObjectWatch.Proofs.Manifest.Reading
import ObjectWatch.Proofs.Monitor.Exact
import ObjectWatch.Watcher

/-! The objects of a listing. A payload is refused for its own shape only; of the items that it gives, those with a
    name and with texts become objects, one by one, and any other is left out without a trace on the rest but a record
    of its own. The name counts as given, so its text is not empty, and the object has the identity of the item. -/

namespace ObjectWatch

namespace Listing
open Value

/-- The items that a payload gives: its own, if it is a list, or those of the list under `items`. -/
inductive Gives (payload : Value) (items : List Value) : Prop where
  | list (h : payload.items? = some items)
  | mapping (hmapping : payload.isMapping = true) (h : (payload.get "items").items? = some items)

/-- Why a payload is refused: it is neither a list nor a mapping, or it is a mapping that has nothing or null under
`items`, or something that is no list. -/
inductive Refused (payload : Value) : ListingError → Prop where
  | notCollection (hlist : payload.isList = false) (hmapping : payload.isMapping = false) :
    Refused payload .notCollection
  | noItems (hmapping : payload.isMapping = true) (h : payload.get "items" = .null) : Refused payload .noItems
  | itemsNotList (hmapping : payload.isMapping = true) (hnull : payload.get "items" ≠ .null)
    (hlist : (payload.get "items").isList = false) : Refused payload .itemsNotList

/-- Why an item is left out: it is no mapping, or as a manifest it is an invalid value. -/
inductive LeftOut (item : Value) : Skipped → Prop where
  | notMapping (hmapping : item.isMapping = false) : LeftOut item (.notMapping item)
  | refused {cause : ManifestError} (hmapping : item.isMapping = true) (h : item.ofManifest = .error cause)
    (hkind : (Failure.manifest cause).kind = .invalidValue) : LeftOut item (.refused cause)

section Items
variable {payload item o : Value} {items rest xs ys : List Value} {cause : ListingError} {skipped : Skipped}

/-! ### The items of a payload -/

theorem items?_of_isMapping (h : payload.isMapping = true) : payload.items? = none := by
  cases payload with
  | mapping entries => rfl
  | knot label body =>
    cases body with
    | mapping entries => rfl
    | _ => cases h
  | _ => cases h

theorem items?_eq_none (h : payload.isList = false) : payload.items? = none :=
  Option.isNone_iff_eq_none.mp (Option.isSome_eq_false_iff.mp h)

theorem items_of_gives (h : Gives payload items) : Listing.items payload = .ok items := by
  unfold Listing.items
  cases h with
  | list h => simp only [h]
  | mapping hmapping h =>
    simp only [items?_of_isMapping hmapping, hmapping, if_true]
    split
    · rename_i hnull
      rw [hnull] at h
      cases h
    · simp only [h]

theorem items_of_refused (h : Refused payload cause) : Listing.items payload = .error cause := by
  unfold Listing.items
  cases h with
  | notCollection hlist hmapping => simp [items?_eq_none hlist, hmapping]
  | noItems hmapping h => simp only [items?_of_isMapping hmapping, hmapping, if_true, h]
  | itemsNotList hmapping hnull hlist =>
    simp only [items?_of_isMapping hmapping, hmapping, if_true, items?_eq_none hlist]

theorem gives_or_refused (payload : Value) : (∃ items, Gives payload items) ∨ ∃ cause, Refused payload cause := by
  by_cases hlist : payload.isList = true
  · obtain ⟨items, h⟩ := Option.isSome_iff_exists.mp hlist
    exact .inl ⟨items, .list h⟩
  by_cases hmapping : payload.isMapping = true
  · by_cases hnull : payload.get "items" = .null
    · exact .inr ⟨_, .noItems hmapping hnull⟩
    by_cases hitems : (payload.get "items").isList = true
    · obtain ⟨items, h⟩ := Option.isSome_iff_exists.mp hitems
      exact .inl ⟨items, .mapping hmapping h⟩
    · exact .inr ⟨_, .itemsNotList hmapping hnull (Bool.eq_false_iff.mpr hitems)⟩
  · exact .inr ⟨_, .notCollection (Bool.eq_false_iff.mpr hlist) (Bool.eq_false_iff.mpr hmapping)⟩

theorem items_eq_ok_iff : Listing.items payload = .ok items ↔ Gives payload items := by
  refine ⟨fun h => ?_, items_of_gives⟩
  rcases gives_or_refused payload with ⟨items', h'⟩ | ⟨cause, h'⟩
  · cases h.symm.trans (items_of_gives h')
    exact h'
  · cases h.symm.trans (items_of_refused h')

theorem items_eq_error_iff : Listing.items payload = .error cause ↔ Refused payload cause := by
  refine ⟨fun h => ?_, items_of_refused⟩
  rcases gives_or_refused payload with ⟨items', h'⟩ | ⟨cause', h'⟩
  · cases h.symm.trans (items_of_gives h')
  · cases h.symm.trans (items_of_refused h')
    exact h'

/-! ### The objects of items -/

theorem objectOf_eq_ok_iff : objectOf item = .ok o ↔ item.ofManifest = .ok o := by
  unfold objectOf
  by_cases hmapping : item.isMapping = true
  · rw [if_pos hmapping]
    cases item.ofManifest <;> simp [Except.mapError]
  · rw [if_neg hmapping]
    refine iff_of_false nofun fun h => hmapping (ofManifest_cases h).1

/-- A mapping that is turned into no object is an invalid value. -/
theorem kind_of_ofManifest {cause : ManifestError} (hm : item.isMapping = true) (h : item.ofManifest = .error cause) :
    cause.kind = .invalidValue := by
  unfold ofManifest at h
  simp only [hm, Bool.not_true, Bool.false_eq_true, if_false] at h
  split at h
  · cases h
    rfl
  · split at h
    · cases h
      rfl
    · obtain ⟨e, -, rfl⟩ := mapError_eq_error_iff.mp h
      rfl

theorem leftOut_of_objectOf (h : objectOf item = .error skipped) : LeftOut item skipped := by
  unfold objectOf at h
  by_cases hmapping : item.isMapping = true
  · rw [if_pos hmapping, mapError_eq_error_iff] at h
    obtain ⟨cause, hcause, rfl⟩ := h
    exact .refused hmapping hcause (kind_of_ofManifest hmapping hcause)
  · rw [if_neg hmapping] at h
    cases h
    exact .notMapping (Bool.eq_false_iff.mpr hmapping)

theorem objectsOf_cons_of_ok (h : item.ofManifest = .ok o) : objectsOf (item :: rest) = o :: objectsOf rest := by
  rw [objectsOf, List.filterMap_cons, objectOf_eq_ok_iff.mpr h]
  rfl

theorem objectsOf_cons_of_error (h : objectOf item = .error skipped) : objectsOf (item :: rest) = objectsOf rest := by
  rw [objectsOf, List.filterMap_cons, h]
  rfl

theorem mem_objectsOf : o ∈ objectsOf items ↔ ∃ item ∈ items, item.ofManifest = .ok o := by
  rw [objectsOf, List.mem_filterMap]
  refine exists_congr fun item => and_congr_right fun _ => ?_
  rw [← objectOf_eq_ok_iff]
  cases objectOf item <;> simp [Except.toOption]

end Items

end Listing

namespace Monitor
open Cache
variable {m : Monitor} {objects : List Value}

/-- Going through items gives their objects, and leaves a record of each other one. None of them ends it. -/
theorem gather_eq {items : List Value} : gather items m = (.ok (Listing.objectsOf items), logLeftOut items m) := by
  induction items generalizing m with
  | nil => rfl
  | cons item rest ih =>
    rw [gather]
    cases hitem : Listing.objectOf item with
    | ok o =>
      have kept : logLeftOut (item :: rest) m = logLeftOut rest m := by
        simp only [logLeftOut, Listing.skippedOf, List.filterMap_cons, hitem]
      rw [Listing.objectsOf_cons_of_ok (Listing.objectOf_eq_ok_iff.mp hitem), kept, ih]
      rfl
    | error skipped =>
      have noted : logLeftOut (item :: rest) m = logLeftOut rest (m.log .debug .file skipped.message) := by
        simp only [logLeftOut, Listing.skippedOf, List.filterMap_cons, hitem, List.foldl_cons]
      rw [Listing.objectsOf_cons_of_error hitem, noted, ← ih]
      cases Listing.leftOut_of_objectOf hitem with
      | notMapping hmapping => rfl
      | @refused cause hmapping h hkind =>
        have invalid : cause.kind.isInvalid = true := congrArg Failure.Kind.isInvalid hkind
        simp only [invalid, if_true]

theorem extract_of_refused {payload : Value} {cause : ListingError} (h : Listing.Refused payload cause) :
    extract payload m = (.error (.listing cause), m) := by
  rw [extract, Listing.items_of_refused h]

theorem extract_of_gives {payload : Value} {items : List Value} (h : Listing.Gives payload items) :
    extract payload m = (.ok (Listing.objectsOf items), logLeftOut items m) := by
  rw [extract, Listing.items_of_gives h]
  exact gather_eq

theorem takeIn_of_refused {path : String} {payload : Value} {cause : ListingError}
    (h : Listing.Refused payload cause) : takeIn path payload m =
      (.ok (), m.log .warning .file ("invalid objects file " ++ path ++ ": " ++ cause.message)) := by
  rw [takeIn, extract_of_refused h]
  cases h <;> rfl

theorem takeIn_of_gives {path : String} {payload : Value} {items : List Value} (h : Listing.Gives payload items) :
    takeIn path payload m = sync (Listing.objectsOf items) (logLeftOut items m) := by
  rw [takeIn, extract_of_gives h]

end Monitor

namespace Listing
open Value
variable {payload : Value} {items : List Value}

end Listing

end ObjectWatch
