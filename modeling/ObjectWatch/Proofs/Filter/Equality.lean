import Mathlib.Data.List.Perm.Subperm
import ObjectWatch.Filter.Config
import ObjectWatch.Proofs.Table
import ObjectWatch.Proofs.Traversal

/-! Two filters of one variant are equal exactly when the same objects pass them. Equality compares targets
    and lists of identities as finite sets, and so do the two inclusions that decide what passes; the other
    way round, an object made of a target or an identity passes only filters that share it. -/

namespace ObjectWatch

namespace Value
variable {v : Value} {s : String}

/-- Only a text is equal to a text. -/
theorem beq_str : (v == str s) = true ↔ v = str s := by
  cases v <;> simp [BEq.beq, same, sameAtom, number?]

theorem str_beq : (str s == v) = true ↔ v = str s := by
  cases v <;> simp [BEq.beq, same, sameAtom, number?, eq_comm]

theorem equal_str : v.equal (str s) = true ↔ v = str s := by
  rw [equal, Bool.and_eq_true, beq_str, and_iff_right_of_imp]
  rintro rfl
  rfl

/-- What a table holds under a text stands there under that very text. -/
theorem mem_of_get?_str {t : List (Value × Value)} (h : Table.get? (str s) t = some v) : (str s, v) ∈ t := by
  obtain ⟨e, he, rfl⟩ := Option.map_eq_some_iff.mp h
  have hkey : (str s == e.1) = true := List.find?_some (p := fun e : Value × Value => str s == e.1) he
  exact str_beq.mp hkey ▸ List.mem_of_find?_eq_some he

/-- An object that carries these labels. -/
def labelled (labels : List (Value × Value)) : Value :=
  object (str "") (str "") labels (str "")

/-- A service of this selector. -/
def selecting (selector : List (Value × Value)) : Value :=
  service (str "") (str "") [] (str serviceKind) selector

/-- An object of this identity. -/
def called (id : Identity) : Value :=
  object (str id.name) (str id.ns) [] (str "")

end Value

/-- The two inclusions that read a table agree on what there has to be under a key. -/
theorem isSubset_iff {required current : List (Value × Value)} : isSubset required current = true ↔
    ∀ pair ∈ required, ∃ w, Table.get? pair.1 current = some w ∧ w.equal pair.2 = true := by
  rw [isSubset, List.all_eq_true]
  refine forall₂_congr fun pair _ => ?_
  cases Table.get? pair.1 current <;> simp

theorem sameEntries_iff {fs es : List (Value × Value)} : Value.sameEntries fs es = true ↔
    ∀ pair ∈ es, ∃ w, Table.get? pair.1 fs = some w ∧ (pair.2 == w) = true := by
  induction es with
  | nil => simp [Value.sameEntries]
  | cons pair rest ih =>
    rw [Value.sameEntries, Bool.and_eq_true, ih, List.forall_mem_cons]
    have hget : Table.get? pair.1 fs = (fs.find? fun f => Value.same pair.1 f.1).map (·.2) := rfl
    rw [hget]
    refine and_congr_left fun _ => ?_
    cases fs.find? fun f => Value.same pair.1 f.1 with
    | none => simp
    | some f => exact ⟨fun h => ⟨f.2, rfl, h⟩, fun ⟨w, hw, h⟩ => by cases hw; exact h⟩

section Pairs
variable {t u : List (Value × Value)}

theorem isEmpty_congr (h : ∀ pair, pair ∈ t ↔ pair ∈ u) : t.isEmpty = u.isEmpty := by
  rw [Bool.eq_iff_iff, List.isEmpty_iff, List.isEmpty_iff, List.eq_nil_iff_forall_not_mem,
    List.eq_nil_iff_forall_not_mem]
  exact forall_congr' fun pair => not_congr (h pair)

theorem isSubset_congr_left {current : List (Value × Value)} (h : ∀ pair, pair ∈ t ↔ pair ∈ u) :
    isSubset t current = isSubset u current := by
  rw [Bool.eq_iff_iff, isSubset_iff, isSubset_iff]
  exact forall_congr' fun pair => imp_congr_left (h pair)

end Pairs

/-- A target that maps texts to texts. -/
structure Textual (target : List (Value × Value)) : Prop where
  keys : (Table.keys target).Nodup
  texts : ∀ pair ∈ target, ∃ k v, pair = (.str k, .str v)

namespace Textual
variable {t u : List (Value × Value)} {k w : Value}

theorem get?_eq_some_iff (ht : Textual t) : Table.get? k t = some w ↔ (k, w) ∈ t := by
  refine Table.get?_eq_some_iff_of_keys ht.keys fun k' hk' => ?_
  obtain ⟨w', hmem⟩ := Table.mem_keys.mp hk'
  obtain ⟨s, _, hpair⟩ := ht.texts _ hmem
  cases hpair
  exact Value.beq_str

theorem nodup (ht : Textual t) : t.Nodup := .of_map _ ht.keys

theorem isSubset_iff_subset (ht : Textual t) (hu : Textual u) : isSubset t u = true ↔ t ⊆ u := by
  rw [isSubset_iff]
  refine forall₂_congr fun pair hpair => ?_
  obtain ⟨k, v, rfl⟩ := ht.texts pair hpair
  simp [hu.get?_eq_some_iff, Value.equal_str]

theorem sameEntries_iff_subset (ht : Textual t) (hu : Textual u) : Value.sameEntries u t = true ↔ t ⊆ u := by
  rw [sameEntries_iff]
  refine forall₂_congr fun pair hpair => ?_
  obtain ⟨k, v, rfl⟩ := ht.texts pair hpair
  simp [hu.get?_eq_some_iff, Value.str_beq]

/-- One inclusion and the same number of pairs make the other. -/
theorem subset_and_length_iff (ht : Textual t) (hu : Textual u) :
    t ⊆ u ∧ t.length = u.length ↔ ∀ pair, pair ∈ t ↔ pair ∈ u := by
  constructor
  · rintro ⟨hsub, hlength⟩ pair
    exact ((ht.nodup.subperm hsub).perm_of_length_le (Nat.le_of_eq hlength.symm)).mem_iff
  · intro h
    exact ⟨fun pair hpair => (h pair).mp hpair, ((List.perm_ext_iff_of_nodup ht.nodup hu.nodup).mpr h).length_eq⟩

/-- A table is read by its pairs, whatever their order. -/
theorem get?_congr (ht : Textual t) (hu : Textual u) (h : ∀ pair, pair ∈ t ↔ pair ∈ u) :
    Table.get? k t = Table.get? k u := by
  refine Option.ext fun w => ?_
  rw [ht.get?_eq_some_iff, hu.get?_eq_some_iff, h]

end Textual

namespace Filter

/-- The variant of a filter. -/
def variant : Filter → Variant
  | null => .null
  | all => .all
  | labels _ => .labels
  | serviceFor _ => .serviceFor
  | names _ => .names

/-- A filter whose target, if it has one, maps texts to texts. -/
def HasTexts (f : Filter) : Prop :=
  ∀ target, f.target? = some target → Textual target

/-- The filters that are made of targets that map texts to texts and of identities that are not refused. -/
inductive Made : Filter → Prop where
  | null : Made null
  | all : Made all
  | labels {target : List (Value × Value)} (h : Textual target) : Made (labels target)
  | serviceFor {target : List (Value × Value)} (h : Textual target) : Made (serviceFor target)
  | names {vs : List Value} {f : Filter} (h : ofIdentities vs = .ok f) : Made f

section Equality
variable {f g : Filter} {t u : List (Value × Value)} {a b : List Identity}

theorem ofIdentities_eq_ok_iff {vs : List Value} : ofIdentities vs = .ok f ↔
    ∃ ids, vs.mapM Identity.named = .ok ids ∧ names ids = f :=
  map_eq_ok_iff

theorem name_ne_of_named {v : Value} {id : Identity} (h : Identity.named v = .ok id) : id.name ≠ "" := by
  unfold Identity.named at h
  cases hv : Identity.ofValue v with
  | error e =>
    rw [hv] at h
    cases h
  | ok n =>
    simp only [hv] at h
    split at h
    · cases h
    · rename_i hne
      cases h
      exact hne

theorem ofIdentities_ok {vs : List Value} (h : ofIdentities vs = .ok f) :
    ∃ ids, f = names ids ∧ ∀ id ∈ ids, id.name ≠ "" := by
  obtain ⟨ids, hids, rfl⟩ := ofIdentities_eq_ok_iff.mp h
  refine ⟨ids, rfl, fun id hid => ?_⟩
  obtain ⟨v, -, hv⟩ := (mem_of_mapM_eq_ok hids).mp hid
  exact name_ne_of_named hv

theorem Made.hasTexts (hf : Made f) : f.HasTexts := by
  cases hf with
  | null => exact nofun
  | all => exact nofun
  | labels h => rintro _ ⟨⟩; exact h
  | serviceFor h => rintro _ ⟨⟩; exact h
  | names h =>
    obtain ⟨ids, rfl, -⟩ := ofIdentities_ok h
    exact nofun

theorem Made.named (ha : Made (Filter.names a)) : ∀ id ∈ a, id.name ≠ "" := by
  cases ha with
  | names h =>
    obtain ⟨ids, hids, hnamed⟩ := ofIdentities_ok h
    cases hids
    exact hnamed

/-! ### Equality compares finite sets -/

theorem labels_equals_iff (ht : Textual t) (hu : Textual u) :
    (labels t).equals (labels u) = true ↔ ∀ pair, pair ∈ t ↔ pair ∈ u := by
  rw [equals, Bool.and_eq_true, beq_iff_eq, ht.isSubset_iff_subset hu, and_comm, ht.subset_and_length_iff hu]

theorem serviceFor_equals_iff (ht : Textual t) (hu : Textual u) :
    (serviceFor t).equals (serviceFor u) = true ↔ ∀ pair, pair ∈ t ↔ pair ∈ u := by
  have step : (serviceFor t).equals (serviceFor u) = (t.length == u.length && Value.sameEntries u t) := rfl
  rw [step, Bool.and_eq_true, beq_iff_eq, ht.sameEntries_iff_subset hu, and_comm, ht.subset_and_length_iff hu]

theorem names_equals_iff : (names a).equals (names b) = true ↔ ∀ id, id ∈ a ↔ id ∈ b := by
  simp only [equals, Bool.and_eq_true, List.all_eq_true, List.contains_iff_mem]
  exact ⟨fun h id => ⟨h.1 id, h.2 id⟩, fun h => ⟨fun id => (h id).mp, fun id => (h id).mpr⟩⟩

theorem variant_eq_of_equals (h : f.equals g = true) : f.variant = g.variant := by
  cases f <;> cases g <;> first | rfl | cases h

/-! ### Equal filters pass the same objects -/

theorem labels_accept_iff {v : Value} : (labels t).accept v = true ↔
    ∀ pair ∈ t, ∃ w, Table.get? pair.1 v.labels = some w ∧ w.equal pair.2 = true := by
  rw [accept, Bool.or_eq_true, List.isEmpty_iff, isSubset_iff, or_iff_right_of_imp]
  rintro rfl
  exact fun _ hpair => absurd hpair List.not_mem_nil

theorem labels_accept_congr (h : ∀ pair, pair ∈ t ↔ pair ∈ u) (v : Value) :
    (labels t).accept v = (labels u).accept v := by
  rw [Bool.eq_iff_iff, labels_accept_iff, labels_accept_iff]
  exact forall_congr' fun pair => imp_congr_left (h pair)

theorem serviceFor_accept_congr (ht : Textual t) (hu : Textual u) (h : ∀ pair, pair ∈ t ↔ pair ∈ u) (v : Value) :
    (serviceFor t).accept v = (serviceFor u).accept v := by
  simp only [accept, isSubset, ht.get?_congr hu h, isEmpty_congr h]

theorem serviceFor_accept_iff {v : Value} : (serviceFor t).accept v = true ↔
    t ≠ [] ∧ ∃ selector, v.selector? = some selector ∧ selector ≠ [] ∧ isSubset selector t = true := by
  rw [accept]
  cases v.selector? with
  | none => simp
  | some selector => simp [and_comm, and_assoc]

theorem names_accept_iff {v : Value} : (names a).accept v = true ↔ ∃ id ∈ a, v.identity? = some id := by
  rw [accept]
  cases v.identity? with
  | none => simp
  | some id => simp

theorem names_accept_congr (h : ∀ id, id ∈ a ↔ id ∈ b) (v : Value) : (names a).accept v = (names b).accept v := by
  rw [Bool.eq_iff_iff, names_accept_iff, names_accept_iff]
  simp only [h]

/-- Whatever an object is like, it passes either both of two equal filters or neither. -/
theorem accept_eq_of_equals (hf : f.HasTexts) (hg : g.HasTexts) (h : f.equals g = true) (v : Value) :
    f.accept v = g.accept v := by
  cases f <;> cases g <;> try cases h
  case null.null => rfl
  case all.all => rfl
  case labels.labels t u =>
    exact labels_accept_congr ((labels_equals_iff (hf t rfl) (hg u rfl)).mp h) v
  case serviceFor.serviceFor t u =>
    exact serviceFor_accept_congr (hf t rfl) (hg u rfl) ((serviceFor_equals_iff (hf t rfl) (hg u rfl)).mp h) v
  case names.names a b => exact names_accept_congr (names_equals_iff.mp h) v

/-- Between texts, a labels filter asks for its target among the labels. -/
theorem labels_accept_iff_subset {v : Value} (ht : Textual t) (hv : v.labels = t) (hu : Textual u) :
    (labels u).accept v = true ↔ u ⊆ t := by
  rw [labels_accept_iff, hv, ← hu.isSubset_iff_subset ht, isSubset_iff]

/-- Between texts, a service filter asks for the selector in its target, and for a pair in both. -/
theorem serviceFor_accept_iff_subset {v : Value} (ht : Textual t) (hv : v.selector? = some t) (hu : Textual u) :
    (serviceFor u).accept v = true ↔ t ≠ [] ∧ u ≠ [] ∧ t ⊆ u := by
  rw [serviceFor_accept_iff, hv, and_left_comm]
  simp only [Option.some.injEq, exists_eq_left', ht.isSubset_iff_subset hu, and_left_comm]

/-! ### Objects that tell filters apart -/

theorem labels_accept_labelled (ht : Textual t) (hu : Textual u) :
    (labels u).accept (.labelled t) = true ↔ u ⊆ t :=
  labels_accept_iff_subset ht rfl hu

theorem serviceFor_accept_selecting (ht : Textual t) (hu : Textual u) :
    (serviceFor u).accept (.selecting t) = true ↔ t ≠ [] ∧ u ≠ [] ∧ t ⊆ u :=
  serviceFor_accept_iff_subset ht rfl hu

theorem names_accept_called {id : Identity} (hid : id.name ≠ "") : (names a).accept (.called id) = true ↔ id ∈ a := by
  have hidentity : (Value.called id).identity? = some id := by
    obtain ⟨ns, name⟩ := id
    by_cases hns : ns = "" <;> simp_all [Value.identity?, Value.called, Value.get, Value.entries?, Value.attribute?,
      Value.truthy, Value.text]
  simp only [names_accept_iff, hidentity, Option.some.injEq, exists_eq_right']

theorem labels_subset (ht : Textual t) (hu : Textual u) (h : ∀ v, (labels t).accept v = (labels u).accept v) :
    t ⊆ u := by
  have self := (labels_accept_labelled hu hu).mpr (List.Subset.refl u)
  rw [← h] at self
  exact (labels_accept_labelled hu ht).mp self

/-- A filter of an empty target passes no service, so only a target that has a pair needs one. -/
theorem serviceFor_subset (ht : Textual t) (hu : Textual u)
    (h : ∀ v, (serviceFor t).accept v = (serviceFor u).accept v) : t ⊆ u := by
  intro pair hpair
  have hne : t ≠ [] := List.ne_nil_of_mem hpair
  have self := (serviceFor_accept_selecting ht ht).mpr ⟨hne, hne, List.Subset.refl t⟩
  rw [h] at self
  exact ((serviceFor_accept_selecting ht hu).mp self).2.2 hpair

theorem names_subset (ha : ∀ id ∈ a, id.name ≠ "") (h : ∀ v, (names a).accept v = (names b).accept v) : a ⊆ b := by
  intro id hid
  have self := (names_accept_called (ha id hid)).mpr hid
  rw [h] at self
  exact (names_accept_called (ha id hid)).mp self

/-- Filters are equal exactly when they are of one variant and pass the same objects. -/
theorem equals_iff_accept_eq (hf : Made f) (hg : Made g) :
    f.equals g = true ↔ f.variant = g.variant ∧ ∀ v, f.accept v = g.accept v := by
  refine ⟨fun h => ⟨variant_eq_of_equals h, accept_eq_of_equals hf.hasTexts hg.hasTexts h⟩, ?_⟩
  rintro ⟨hvariant, haccept⟩
  have haccept' := fun v => (haccept v).symm
  cases f <;> cases g <;> try cases hvariant
  case null.null => rfl
  case all.all => rfl
  case labels.labels t u =>
    have ht := hf.hasTexts t rfl
    have hu := hg.hasTexts u rfl
    exact (labels_equals_iff ht hu).mpr fun _ =>
      ⟨fun h => labels_subset ht hu haccept h, fun h => labels_subset hu ht haccept' h⟩
  case serviceFor.serviceFor t u =>
    have ht := hf.hasTexts t rfl
    have hu := hg.hasTexts u rfl
    exact (serviceFor_equals_iff ht hu).mpr fun _ =>
      ⟨fun h => serviceFor_subset ht hu haccept h, fun h => serviceFor_subset hu ht haccept' h⟩
  case names.names a b =>
    exact names_equals_iff.mpr fun _ =>
      ⟨fun h => names_subset hf.named haccept h, fun h => names_subset hg.named haccept' h⟩

/-- The order of the pairs of a target makes no difference. -/
theorem equals_iff_accept_eq_reordered :
    let t : List (Value × Value) := [(.str "a", .str "1"), (.str "b", .str "2")]
    let u : List (Value × Value) := [(.str "b", .str "2"), (.str "a", .str "1")]
    Made (labels t) ∧ Made (labels u) ∧ (labels t).equals (labels u) = true ∧
      ∀ v, (labels t).accept v = (labels u).accept v := by
  intro t u
  have ht : Made (labels t) := .labels ⟨by simp [t], by simp [t]⟩
  have hu : Made (labels u) := .labels ⟨by simp [u], by simp [u]⟩
  have hequals : (labels t).equals (labels u) = true := by decide +kernel
  exact ⟨ht, hu, hequals, ((equals_iff_accept_eq ht hu).mp hequals).2⟩

end Equality

end Filter

end ObjectWatch
