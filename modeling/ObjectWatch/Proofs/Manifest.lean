import ObjectWatch.Manifest
import ObjectWatch.Proofs.Filter.Equality
import ObjectWatch.Proofs.Value.Text

/-! What a manifest is turned into. All that is read off a typed object made from a manifest is text: its
    identity, and tables from texts to texts. So equality of two such objects is that of their parts, and
    the same filters pass them. -/

namespace ObjectWatch

namespace Value

section Tables
variable {v : Value} {k w : String} {pairs t : List (String × String)}

/-- A pair of texts as a pair of values. -/
def texts (p : String × String) : Value × Value :=
  (str p.1, str p.2)

theorem str_beq_str : (str k == str w) = (k == w) := by
  rw [Bool.eq_iff_iff, str_beq, beq_iff_eq, str.injEq, eq_comm]

theorem put_texts : Table.put (str k) (str w) (t.map texts) = (Table.put k w t).map texts := by
  induction t with
  | nil => rfl
  | cons p rest ih =>
    have hkeys : (str k == (texts p).1) = (k == p.1) := str_beq_str
    rw [List.map_cons, Table.put, Table.put, hkeys]
    split
    · rfl
    · rw [ih, List.map_cons]

theorem ofPairs_texts : Table.ofPairs (pairs.map texts) = (Table.ofPairs pairs).map texts := by
  have putAll (t : List (String × String)) :
      Table.putAll (t.map texts) (pairs.map texts) = (Table.putAll t pairs).map texts := by
    induction pairs generalizing t with
    | nil => rfl
    | cons p rest ih =>
      have step : Table.putAll (t.map texts) ((p :: rest).map texts) =
          Table.putAll (Table.put (str p.1) (str p.2) (t.map texts)) (rest.map texts) := rfl
      rw [step, put_texts]
      exact ih (Table.put p.1 p.2 t)
  exact putAll []

theorem textual_texts (ht : (Table.keys t).Nodup) : Textual (t.map texts) := by
  constructor
  · have hkeys : ((Table.keys t).map str).Nodup := ht.map fun _ _ h => str.inj h
    rw [Table.keys, List.map_map] at hkeys ⊢
    exact hkeys
  · intro pair hpair
    obtain ⟨p, -, rfl⟩ := List.mem_map.mp hpair
    exact ⟨p.1, p.2, rfl⟩

theorem labelTable_eq : v.labelTable =
    (Table.ofPairs ((v.entries?.getD []).map fun e => (e.1.text, e.2.label))).map texts := by
  rw [← ofPairs_texts, List.map_map]
  rfl

/-- The text form of a mapping maps texts to texts, each key once. -/
theorem labelTable_textual : Textual v.labelTable := by
  rw [labelTable_eq]
  exact textual_texts Table.nodup_keys_ofPairs

/-- A table of texts is in text form. -/
theorem labelTable_of_textual {table : List (Value × Value)} (h : Textual table) :
    (mapping table).labelTable = table := by
  have same : (table.map fun p => (p.1.text, p.2.label)).map texts = table := by
    rw [List.map_map]
    refine (List.map_congr_left fun p hp => ?_).trans (List.map_id table)
    obtain ⟨k, v, rfl⟩ := h.texts p hp
    rfl
  have once : (Table.keys (table.map fun p => (p.1.text, p.2.label))).Nodup := by
    have keys := congrArg Table.keys same
    rw [Table.keys, List.map_map] at keys
    refine .of_map str ?_
    rw [Table.keys, List.map_map]
    exact keys ▸ h.keys
  have entries : (mapping table).entries?.getD [] = table := rfl
  rw [labelTable_eq, entries, Table.ofPairs_of_nodup once, same]

theorem entriesHaveTexts_of_textual {table : List (Value × Value)} (h : Textual table) :
    (mapping table).entriesHaveTexts = true := by
  refine hasTextEntries_iff.mpr fun e he => ?_
  obtain ⟨k, v, rfl⟩ := h.texts e he
  exact ⟨rfl, rfl⟩

theorem textual_nil : Textual [] :=
  ⟨List.nodup_nil, fun _ h => absurd h List.not_mem_nil⟩

end Tables

/-! ### Typed objects -/

section Typed
variable {m o : Value} {name ns kind : String} {labels selector : List (Value × Value)}

@[simp] theorem get_name : (metadata (str name) (str ns) labels).get "name" = str name := rfl

@[simp] theorem get_namespace : (metadata (str name) (str ns) labels).get "namespace" = str ns := rfl

/-- The identity of an object whose metadata has texts for a name and a namespace. -/
theorem identity?_of_metadata (h : o.get "metadata" = metadata (str name) (str ns) labels) (hname : name ≠ "") :
    o.identity? = some ⟨ns, name⟩ := by
  have htext : (if (str ns).truthy = true then (str ns).text else "") = ns := by
    by_cases hns : ns = "" <;> simp [truthy, text, hns]
  have hgiven : (str name).truthy = true := by simp [truthy, hname]
  simp only [identity?, h, get_name, get_namespace, if_pos hgiven, htext]
  rfl

theorem isService_object (hkind : kind ≠ serviceKind) :
    (object (str name) (str ns) labels (str kind)).isService = false :=
  Bool.eq_false_iff.mpr fun h => hkind (str.inj (beq_str.mp h))

/-- An object that has the kind of services shows an empty selector. -/
theorem selector?_object_eq : (object (str name) (str ns) labels (str kind)).selector? =
    if str kind == str serviceKind then some [] else none := rfl

theorem selector?_object (hkind : kind ≠ serviceKind) :
    (object (str name) (str ns) labels (str kind)).selector? = none := by
  rw [selector?, isService_object hkind]
  · rfl
  · exact nofun

theorem text_orElse : (m.orElse (str "")).text = if m.truthy then m.text else "" := by
  rw [orElse]
  split <;> rfl

theorem hasText_orElse_str {s : String} : ((str s).orElse (str "")).hasText = true := by
  rw [orElse]
  split <;> rfl

/-- The name, the namespace and the kind that a manifest gives. -/
def givenName (m : Value) : String := ((m.get "metadata").get "name").text

def givenNamespace (m : Value) : String := (((m.get "metadata").get "namespace").orElse (str "")).text

def givenKind (m : Value) : String := ((m.get "kind").orElse (str "")).text

/-- The parts of a manifest that are put in text form all have texts: its name, its namespace, its labels, its kind,
and the selector of a service. -/
def partsHaveTexts (m : Value) : Bool :=
  ((m.get "metadata").get "name").hasText && (((m.get "metadata").get "namespace").orElse (str "")).hasText
    && ((m.get "metadata").get "labels").entriesHaveTexts && ((m.get "kind").orElse (str "")).hasText
    && (m.givenKind != serviceKind || !(m.get "spec").isMapping || ((m.get "spec").get "selector").entriesHaveTexts)

/-- The object that has the parts of a manifest in text form. -/
def typedForm (m : Value) : Value :=
  if m.givenKind = serviceKind then
    service (str m.givenName) (str m.givenNamespace) ((m.get "metadata").get "labels").labelTable (str serviceKind)
      (if (m.get "spec").isMapping then ((m.get "spec").get "selector").labelTable else [])
  else
    object (str m.givenName) (str m.givenNamespace) ((m.get "metadata").get "labels").labelTable (str m.givenKind)

/-- A manifest with metadata that have a name which counts as given. -/
def isNamed (m : Value) : Bool :=
  m.isMapping && (m.get "metadata").isMapping && ((m.get "metadata").get "name").truthy

theorem typedObject_eq_ok_iff : m.typedObject = .ok o ↔ m.partsHaveTexts = true ∧ m.typedForm = o := by
  rw [partsHaveTexts, typedForm]
  simp only [typedObject, bind_eq_ok_iff, text?_eq_ok_iff, labelTable?_eq_ok_iff, and_assoc, exists_and_left,
    exists_eq_left', Bool.and_eq_true]
  refine and_congr_right fun _ => and_congr_right fun _ => and_congr_right fun _ => and_congr_right fun _ => ?_
  unfold givenKind
  by_cases hkind : ((m.get "kind").orElse (str "")).text = serviceKind
  · cases hspec : (m.get "spec").isMapping <;>
      simp [hkind, bind_eq_ok_iff, labelTable?_eq_ok_iff, givenName, givenNamespace]
  · simp [hkind, givenName, givenNamespace]

theorem ofManifest_of_isNamed (h : m.isNamed = true) : ofManifest m = m.typedObject.mapError .text := by
  simp only [isNamed, Bool.and_eq_true] at h
  obtain ⟨⟨hm, hmetadata⟩, hname⟩ := h
  simp [ofManifest, hm, hmetadata, hname]

theorem isNamed_of_ofManifest (h : ofManifest m = .ok o) : m.isNamed = true := by
  unfold ofManifest at h
  simp only [isNamed, Bool.and_eq_true]
  grind

/-- A manifest is turned into an object exactly if it has a name and its parts have texts. -/
theorem ofManifest_eq_ok_iff :
    ofManifest m = .ok o ↔ m.isNamed = true ∧ m.partsHaveTexts = true ∧ m.typedForm = o := by
  constructor
  · intro h
    have hnamed := isNamed_of_ofManifest h
    rw [ofManifest_of_isNamed hnamed, mapError_eq_ok_iff, typedObject_eq_ok_iff] at h
    exact ⟨hnamed, h⟩
  · rintro ⟨hnamed, h⟩
    rw [ofManifest_of_isNamed hnamed, mapError_eq_ok_iff, typedObject_eq_ok_iff]
    exact h

theorem partsHaveTexts_of_labels (h : ((m.get "metadata").get "labels").entriesHaveTexts = false) :
    m.partsHaveTexts = false := by
  simp [partsHaveTexts, h]

theorem ofManifest_of_not_haveTexts (hnamed : m.isNamed = true) (h : m.partsHaveTexts = false) :
    ofManifest m = .error (.text .tooManyDigits) := by
  rw [ofManifest_of_isNamed hnamed]
  cases hobject : m.typedObject with
  | ok o => exact absurd (h.symm.trans (typedObject_eq_ok_iff.mp hobject).1) Bool.false_ne_true
  | error cause => rfl

/-- What a manifest is turned into. -/
theorem ofManifest_cases (h : ofManifest m = .ok o) :
    m.isMapping = true ∧ (m.get "metadata").isMapping = true ∧ ((m.get "metadata").get "name").truthy = true ∧
    (m.givenKind = serviceKind ∧ o = service (str m.givenName) (str m.givenNamespace)
        ((m.get "metadata").get "labels").labelTable (str serviceKind)
        (if (m.get "spec").isMapping then ((m.get "spec").get "selector").labelTable else []) ∨
      m.givenKind ≠ serviceKind ∧ o = object (str m.givenName) (str m.givenNamespace)
        ((m.get "metadata").get "labels").labelTable (str m.givenKind)) := by
  obtain ⟨hnamed, -, rfl⟩ := ofManifest_eq_ok_iff.mp h
  rw [isNamed, Bool.and_eq_true, Bool.and_eq_true, and_assoc] at hnamed
  obtain ⟨hm, hmetadata, hname⟩ := hnamed
  refine ⟨hm, hmetadata, hname, ?_⟩
  rw [typedForm]
  by_cases hkind : m.givenKind = serviceKind
  · exact .inl ⟨hkind, if_pos hkind⟩
  · exact .inr ⟨hkind, if_neg hkind⟩

theorem labels_of_ofManifest (h : ofManifest m = .ok o) : o.labels = ((m.get "metadata").get "labels").labelTable := by
  obtain ⟨-, -, -, ⟨-, rfl⟩ | ⟨-, rfl⟩⟩ := ofManifest_cases h
  · rfl
  · rfl

/-- The kind that a manifest shows is the kind that it gives, so a service manifest is turned into a service. -/
theorem selector?_of_ofManifest (h : ofManifest m = .ok o) (hkind : m.get "kind" = str serviceKind)
    (hspec : (m.get "spec").isMapping = true) : o.selector? = some ((m.get "spec").get "selector").labelTable := by
  obtain ⟨-, -, -, ⟨-, rfl⟩ | ⟨hother, -⟩⟩ := ofManifest_cases h
  · rw [if_pos hspec]
    rfl
  · rw [givenKind, hkind] at hother
    exact absurd rfl hother

/-- A typed object all of whose parts are texts and tables of texts. -/
inductive Typed : Value → Prop where
  | object {name ns kind : String} {labels : List (Value × Value)} (hlabels : Textual labels)
    (hkind : kind ≠ serviceKind) : Typed (object (str name) (str ns) labels (str kind))
  | service {name ns : String} {labels selector : List (Value × Value)} (hlabels : Textual labels)
    (hselector : Textual selector) : Typed (service (str name) (str ns) labels (str serviceKind) selector)

theorem typed_of_ofManifest (h : ofManifest m = .ok o) : Typed o := by
  obtain ⟨-, -, -, ⟨-, rfl⟩ | ⟨hkind, rfl⟩⟩ := ofManifest_cases h
  · refine .service labelTable_textual ?_
    split
    · exact labelTable_textual
    · exact textual_nil
  · exact .object labelTable_textual hkind

end Typed

/-! ### Equal typed objects -/

/-- A typed object whose parts are texts and tables of texts. The kind may be any text. -/
inductive OfTexts : Value → Prop where
  | object {name ns kind : String} {labels : List (Value × Value)} (hlabels : Textual labels) :
    OfTexts (object (str name) (str ns) labels (str kind))
  | service {name ns kind : String} {labels selector : List (Value × Value)} (hlabels : Textual labels)
    (hselector : Textual selector) : OfTexts (service (str name) (str ns) labels (str kind) selector)

theorem Typed.ofTexts {v : Value} (h : Typed v) : OfTexts v := by
  cases h with
  | object hlabels _ => exact .object hlabels
  | service hlabels hselector => exact .service hlabels hselector

/-- All that equality of typed objects compares: the class, the three names, and the pairs of the two tables
whatever their order. -/
def features? : Value → Option (Bool × Value × Value × Value × (Value × Value → Prop) × (Value × Value → Prop))
  | object name ns labels kind => some (false, name, ns, kind, (· ∈ labels), fun _ => False)
  | service name ns labels kind selector => some (true, name, ns, kind, (· ∈ labels), (· ∈ selector))
  | _ => none

section Equal
variable {u v w : Value} {name name' ns ns' kind kind' : String} {labels labels' selector selector' : List (Value × Value)}

theorem object_equal_iff (hlabels : Textual labels) (hlabels' : Textual labels') :
    (object (str name) (str ns) labels (str kind)).equal (object (str name') (str ns') labels' (str kind')) = true ↔
      name = name' ∧ ns = ns' ∧ (∀ pair, pair ∈ labels ↔ pair ∈ labels') ∧ kind = kind' := by
  have step : (object (str name) (str ns) labels (str kind)).equal (object (str name') (str ns') labels' (str kind')) =
      (str name == str name' && str ns == str ns' && (Filter.serviceFor labels).equals (.serviceFor labels')
        && str kind == str kind') := rfl
  simp only [step, Bool.and_eq_true, str_beq_str, beq_iff_eq, Filter.serviceFor_equals_iff hlabels hlabels', and_assoc]

theorem service_equal_iff (hlabels : Textual labels) (hlabels' : Textual labels') (hselector : Textual selector)
    (hselector' : Textual selector') : (service (str name) (str ns) labels (str kind) selector).equal
        (service (str name') (str ns') labels' (str kind') selector') = true ↔
      name = name' ∧ ns = ns' ∧ (∀ pair, pair ∈ labels ↔ pair ∈ labels') ∧ kind = kind' ∧
        ∀ pair, pair ∈ selector ↔ pair ∈ selector' := by
  have step : (service (str name) (str ns) labels (str kind) selector).equal
      (service (str name') (str ns') labels' (str kind') selector') =
      (str name == str name' && str ns == str ns' && (Filter.serviceFor labels).equals (.serviceFor labels')
        && str kind == str kind' && (Filter.serviceFor selector).equals (.serviceFor selector')) := rfl
  simp only [step, Bool.and_eq_true, str_beq_str, beq_iff_eq, Filter.serviceFor_equals_iff hlabels hlabels',
    Filter.serviceFor_equals_iff hselector hselector', and_assoc]

namespace OfTexts

theorem equal_iff (hv : OfTexts v) (hw : OfTexts w) : v.equal w = true ↔ v.features? = w.features? := by
  cases hv with
  | object hlabels =>
    cases hw with
    | object hlabels' => simp [object_equal_iff hlabels hlabels', features?, funext_iff, and_comm]
    | service => exact iff_of_false nofun (by simp [features?])
  | service hlabels hselector =>
    cases hw with
    | object => exact iff_of_false nofun (by simp [features?])
    | service hlabels' hselector' =>
      simp [service_equal_iff hlabels hlabels' hselector hselector', features?, funext_iff, and_left_comm]

theorem equal_refl (hv : OfTexts v) : v.equal v = true :=
  (hv.equal_iff hv).mpr rfl

theorem equal_symm (hv : OfTexts v) (hw : OfTexts w) (h : v.equal w = true) : w.equal v = true :=
  (hw.equal_iff hv).mpr ((hv.equal_iff hw).mp h).symm

theorem equal_trans (hu : OfTexts u) (hv : OfTexts v) (hw : OfTexts w) (h : u.equal v = true)
    (h' : v.equal w = true) : u.equal w = true :=
  (hu.equal_iff hw).mpr (((hu.equal_iff hv).mp h).trans ((hv.equal_iff hw).mp h'))

end OfTexts

/-- What decides whether a filter passes an object: its identity, the pairs of its labels, and those of its
selector if it has one. -/
theorem accept_eq_of_parts (hidentity : v.identity? = w.identity?)
    (hlabels : ∀ k, Table.get? k v.labels = Table.get? k w.labels)
    (hselector : Option.Rel (fun s s' => ∀ pair, pair ∈ s ↔ pair ∈ s') v.selector? w.selector?) (f : Filter) :
    f.accept v = f.accept w := by
  cases f with
  | null => rfl
  | all => rfl
  | labels target => simp only [Filter.accept, isSubset, hlabels]
  | serviceFor target =>
    rw [Filter.accept, Filter.accept]
    generalize v.selector? = s, w.selector? = s' at hselector ⊢
    cases hselector with
    | none => rfl
    | some h => simp only [isEmpty_congr h, isSubset_congr_left h]
  | names ids => rw [Filter.accept, Filter.accept, hidentity]

/-- The same filters pass equal typed objects. -/
theorem OfTexts.accept_eq (hv : OfTexts v) (hw : OfTexts w) (h : v.equal w = true) (f : Filter) :
    f.accept v = f.accept w := by
  cases hv with
  | object hlabels =>
    cases hw with
    | service => cases h
    | object hlabels' =>
      obtain ⟨rfl, rfl, hpairs, rfl⟩ := (object_equal_iff hlabels hlabels').mp h
      refine accept_eq_of_parts ?_ ?_ ?_ f
      · rfl
      · exact fun k => hlabels.get?_congr hlabels' hpairs
      · rw [selector?_object_eq, selector?_object_eq]
        split
        · exact .some fun _ => Iff.rfl
        · exact .none
  | service hlabels hselector =>
    cases hw with
    | object => cases h
    | service hlabels' hselector' =>
      obtain ⟨rfl, rfl, hpairs, rfl, hpairs'⟩ := (service_equal_iff hlabels hlabels' hselector hselector').mp h
      refine accept_eq_of_parts ?_ ?_ ?_ f
      · rfl
      · exact fun k => hlabels.get?_congr hlabels' hpairs
      · exact .some hpairs'

end Equal

end Value

end ObjectWatch
