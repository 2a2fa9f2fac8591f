import ObjectWatch.Proofs.Filter.Verdict
import ObjectWatch.Proofs.Value.Plain

/-! The same is read off a manifest, off the typed object that it is turned into, and off an object that has
    the entries of the manifest, of its metadata or of its specification for attributes. What is read comes
    from the metadata, the kind and the selector alone, so each of these may change its form on its own. -/

namespace ObjectWatch.Value

/-- Of two values the same is read: the identity, the labels, whether it is a service, and the selector. -/
structure ReadAlike (v w : Value) : Prop where
  identity : v.identity? = w.identity?
  labels : v.labels = w.labels
  service : v.isService = w.isService
  selector : v.selector? = w.selector?

/-- Of two values the same is read under every key. -/
def SameParts (v w : Value) : Prop :=
  ∀ key, v.get key = w.get key

/-- A typed object shows its own labels, and a service its own selector. -/
def isTyped : Value → Bool
  | object .. | service .. => true
  | _ => false

section ReadAlike
variable {u v w m o : Value} {key key' : String}

/-- Every filter passes both of two values that read alike, or neither. -/
theorem ReadAlike.accept (h : ReadAlike v w) (f : Filter) : f.accept v = f.accept w := by
  cases f with
  | null => rfl
  | all => rfl
  | labels target => rw [Filter.accept, Filter.accept, h.labels]
  | serviceFor target => rw [Filter.accept, Filter.accept, h.selector]
  | names ids => rw [Filter.accept, Filter.accept, h.identity]

theorem labels_of_not_typed (h : v.isTyped = false) : v.labels = ((v.get "metadata").get "labels").labelTable := by
  cases v <;> first | rfl | cases h

theorem selector?_of_not_typed (h : v.isTyped = false) :
    v.selector? = if v.isService then some ((v.get "spec").get "selector").labelTable else none := by
  cases v <;> first | rfl | cases h

theorem readLabels_of_not_typed (h : v.isTyped = false) :
    v.readLabels = ((v.get "metadata").get "labels").labelTable? := by
  cases v <;> first | rfl | cases h

theorem readSelector_of_not_typed (h : v.isTyped = false) :
    v.readSelector = if v.isService then (((v.get "spec").get "selector").labelTable?).map some else .ok none := by
  cases v <;> first | rfl | cases h

/-- Two values that are no typed objects show the same at each level that is read: their metadata, their kind and their
specification. -/
structure SameLevels (v w : Value) : Prop where
  left : v.isTyped = false
  right : w.isTyped = false
  metadata : SameParts (v.get "metadata") (w.get "metadata")
  kind : v.get "kind" = w.get "kind"
  spec : SameParts (v.get "spec") (w.get "spec")

namespace SameLevels

theorem refl (h : v.isTyped = false) : SameLevels v v :=
  ⟨h, h, fun _ => rfl, rfl, fun _ => rfl⟩

theorem trans (h₁ : SameLevels u v) (h₂ : SameLevels v w) : SameLevels u w :=
  ⟨h₁.left, h₂.right, fun key => (h₁.metadata key).trans (h₂.metadata key), h₁.kind.trans h₂.kind,
    fun key => (h₁.spec key).trans (h₂.spec key)⟩

theorem isService (h : SameLevels v w) : v.isService = w.isService := by
  rw [Value.isService, Value.isService, h.kind]

theorem readAlike (h : SameLevels v w) : ReadAlike v w := by
  refine ⟨?_, ?_, h.isService, ?_⟩
  · simp only [identity?, h.metadata _]
  · rw [labels_of_not_typed h.left, labels_of_not_typed h.right, h.metadata]
  · rw [selector?_of_not_typed h.left, selector?_of_not_typed h.right, h.isService, h.spec]

theorem readable (h : SameLevels v w) (hw : w.Readable) : v.Readable := by
  have alike := h.readAlike
  refine ⟨?_, ?_, ?_⟩
  · rw [alike.identity, ← hw.identity]
    simp only [readIdentity, h.metadata _]
  · rw [alike.labels, ← hw.labels, readLabels_of_not_typed h.left, readLabels_of_not_typed h.right, h.metadata]
  · rw [alike.selector, ← hw.selector, readSelector_of_not_typed h.left, readSelector_of_not_typed h.right,
      h.isService, h.spec]

end SameLevels

/-! ### A manifest and its typed object -/

theorem not_typed_of_isMapping (h : v.isMapping = true) : v.isTyped = false := by
  cases v <;> first | rfl | cases h

/-- The kind of a plain manifest is that of services only where the manifest says so itself. -/
theorem givenKind_eq_serviceKind_iff (hm : Plain m) : m.givenKind = serviceKind ↔ m.get "kind" = .str serviceKind := by
  rw [givenKind, orElse]
  split
  · exact hm.get.text_eq_serviceKind_iff
  · rename_i hfalsy
    constructor
    · intro h
      exact absurd h (by decide)
    · intro h
      rw [h] at hfalsy
      exact absurd rfl hfalsy

/-- A plain manifest reads like the typed object that it is turned into. -/
theorem ReadAlike.of_ofManifest (hm : Plain m) (h : ofManifest m = .ok o) : ReadAlike m o := by
  obtain ⟨hmapping, -, hname, ho⟩ := ofManifest_cases h
  have huntyped := not_typed_of_isMapping hmapping
  have hidentity : m.identity? = some ⟨m.givenNamespace, m.givenName⟩ := by
    rw [givenNamespace, text_orElse]
    exact if_pos hname
  have hgiven : m.givenName ≠ "" := hm.get.get.text_ne_empty hname
  rcases ho with ⟨hkind, rfl⟩ | ⟨hkind, rfl⟩
  · -- A service: the selector of a specification that is no mapping is empty both ways.
    have hservice : m.isService = true := beq_str.mpr ((givenKind_eq_serviceKind_iff hm).mp hkind)
    have hselector : ((m.get "spec").get "selector").labelTable =
        if (m.get "spec").isMapping then ((m.get "spec").get "selector").labelTable else [] := by
      split
      · rfl
      · rename_i hspec
        rw [hm.get.get_eq_null (Bool.eq_false_iff.mpr hspec)]
        rfl
    refine ⟨?_, labels_of_not_typed huntyped, hservice.trans rfl, ?_⟩
    · rw [hidentity, identity?_of_metadata rfl hgiven]
    · rw [selector?_of_not_typed huntyped, if_pos hservice]
      exact congrArg some hselector
  · have hservice : m.isService = false := by
      refine Bool.eq_false_iff.mpr fun h => hkind ?_
      exact (givenKind_eq_serviceKind_iff hm).mpr (beq_str.mp h)
    refine ⟨?_, labels_of_not_typed huntyped, ?_, ?_⟩
    · rw [hidentity, identity?_of_metadata rfl hgiven]
    · rw [hservice, isService_object hkind]
    · rw [selector?_of_not_typed huntyped, hservice, selector?_object hkind]
      rfl

/-- A plain manifest whose parts have texts can be read: of a specification that is no mapping nothing is. -/
theorem Plain.readable (hm : Plain m) (hmapping : m.isMapping = true) (h : m.partsHaveTexts = true) : m.Readable := by
  have huntyped := not_typed_of_isMapping hmapping
  simp only [partsHaveTexts, Bool.and_eq_true] at h
  obtain ⟨⟨⟨⟨hname, hns⟩, hlabels⟩, -⟩, hselector⟩ := h
  refine ⟨readIdentity_of_texts hname hns, ?_, ?_⟩
  · rw [readLabels_of_not_typed huntyped, labels_of_not_typed huntyped, labelTable?_of_haveTexts hlabels]
  · rw [readSelector_of_not_typed huntyped, selector?_of_not_typed huntyped]
    cases hservice : m.isService with
    | false => rfl
    | true =>
      have hkind : m.givenKind = serviceKind := (givenKind_eq_serviceKind_iff hm).mpr (beq_str.mp hservice)
      have htexts : ((m.get "spec").get "selector").entriesHaveTexts = true := by
        cases hspec : (m.get "spec").isMapping with
        | false =>
          rw [hm.get.get_eq_null hspec]
          rfl
        | true => simpa [hkind, hspec] using hselector
      rw [labelTable?_of_haveTexts htexts]
      rfl

end ReadAlike

/-! ### Attributes in the place of entries -/

/-- The attributes that entries with texts for keys make. -/
def fields? : List (Value × Value) → Option (List (String × Value))
  | [] => some []
  | (str k, v) :: rest => (fields? rest).map ((k, v) :: ·)
  | _ :: _ => none

/-- An object that has the entries of a mapping for attributes, if all keys are texts. Anything else stays. -/
def asRecord (v : Value) : Value :=
  match v.entries?.bind fields? with
  | some fields => record fields
  | none => v

/-- A mapping with the values under a key changed. -/
def mapAt (key : String) (f : Value → Value) (v : Value) : Value :=
  match v.entries? with
  | some entries => mapping (entries.map fun e => if str key == e.1 then (e.1, f e.2) else e)
  | none => v

/-- A manifest some of whose levels are objects with attributes: the manifest itself, its metadata, its
specification. -/
def recast (top metadata spec : Bool) (v : Value) : Value :=
  let v := if metadata then v.mapAt "metadata" asRecord else v
  let v := if spec then v.mapAt "spec" asRecord else v
  if top then v.asRecord else v

section Recast
variable {v : Value} {key key' : String} {entries : List (Value × Value)} {fields : List (String × Value)}
  {f : Value → Value}

theorem get_of_entries (h : v.entries? = some entries) : v.get key = (Table.get? (str key) entries).getD null := by
  rw [get, h]

theorem get?_of_fields (h : fields? entries = some fields) : Table.get? key fields = Table.get? (str key) entries := by
  induction entries generalizing fields with
  | nil =>
    cases h
    rfl
  | cons e rest ih =>
    obtain ⟨k, w⟩ := e
    cases k with
    | str s =>
      obtain ⟨fields', hfields', rfl⟩ := Option.map_eq_some_iff.mp h
      rw [Table.get?_cons, Table.get?_cons, ih hfields', str_beq_str]
    | _ => cases h

theorem sameParts_asRecord : SameParts v.asRecord v := by
  intro key
  unfold asRecord
  split
  · rename_i fields hfields
    obtain ⟨entries, hentries, hfields⟩ := Option.bind_eq_some_iff.mp hfields
    rw [get_of_entries hentries, ← get?_of_fields hfields]
    rfl
  · rfl

theorem asRecord_not_typed (h : v.isMapping = true) : v.asRecord.isTyped = false := by
  unfold asRecord
  split
  · rfl
  · exact not_typed_of_isMapping h

theorem get?_mapAt : Table.get? (str key') (entries.map fun e => if str key == e.1 then (e.1, f e.2) else e) =
    if key' = key then (Table.get? (str key) entries).map f else Table.get? (str key') entries := by
  induction entries with
  | nil => split <;> rfl
  | cons e rest ih =>
    rw [List.map_cons, Table.get?_cons, ih]
    by_cases hkey : key' = key
    · rw [if_pos hkey, hkey, Table.get?_cons]
      cases h : str key == e.1 with
      | true => simp [h]
      | false => simp [h]
    · rw [if_neg hkey, if_neg hkey, Table.get?_cons]
      cases h : str key == e.1 with
      | true =>
        have hne : (str key' == e.1) = false := by
          refine Bool.eq_false_iff.mpr fun h' => hkey ?_
          exact str.inj ((str_beq.mp h').symm.trans (str_beq.mp h))
        simp [hne]
      | false => simp

theorem entries?_mapAt (h : v.entries? = some entries) :
    (v.mapAt key f).entries? = some (entries.map fun e => if str key == e.1 then (e.1, f e.2) else e) := by
  rw [mapAt, h]
  rfl

theorem isMapping_mapAt (h : v.isMapping = true) : (v.mapAt key f).isMapping = true := by
  obtain ⟨entries, hentries⟩ := Option.isSome_iff_exists.mp h
  rw [isMapping, entries?_mapAt hentries]
  rfl

theorem get_mapAt_of_ne (h : v.isMapping = true) (hkey : key' ≠ key) : (v.mapAt key f).get key' = v.get key' := by
  obtain ⟨entries, hentries⟩ := Option.isSome_iff_exists.mp h
  rw [get_of_entries (entries?_mapAt hentries), get_of_entries hentries, get?_mapAt, if_neg hkey]

theorem sameParts_get_mapAt (h : v.isMapping = true) : SameParts ((v.mapAt key asRecord).get key') (v.get key') := by
  by_cases hkey : key' = key
  · obtain ⟨entries, hentries⟩ := Option.isSome_iff_exists.mp h
    rw [get_of_entries (entries?_mapAt hentries), get_of_entries hentries, get?_mapAt, if_pos hkey, hkey]
    cases Table.get? (str key) entries with
    | none => exact fun _ => rfl
    | some w => exact sameParts_asRecord
  · rw [get_mapAt_of_ne h hkey]
    exact fun _ => rfl

/-- The value under any key but that of the kind may be an object with attributes. -/
theorem SameLevels.mapAt (h : v.isMapping = true) (hkey : "kind" ≠ key) : SameLevels (v.mapAt key asRecord) v where
  left := not_typed_of_isMapping (isMapping_mapAt h)
  right := not_typed_of_isMapping h
  metadata := sameParts_get_mapAt h
  kind := get_mapAt_of_ne h hkey
  spec := sameParts_get_mapAt h

theorem SameLevels.asRecord (h : v.isMapping = true) : SameLevels v.asRecord v where
  left := asRecord_not_typed h
  right := not_typed_of_isMapping h
  metadata := by
    rw [sameParts_asRecord]
    exact fun _ => rfl
  kind := sameParts_asRecord _
  spec := by
    rw [sameParts_asRecord]
    exact fun _ => rfl

/-- A manifest shows the same at each level in all its forms. -/
theorem SameLevels.recast (h : v.isMapping = true) (top metadata spec : Bool) :
    SameLevels (v.recast top metadata spec) v := by
  have level {v : Value} (key : String) (hkey : "kind" ≠ key) (b : Bool) (h : v.isMapping = true) :
      (if b then v.mapAt key Value.asRecord else v).isMapping = true ∧
        SameLevels (if b then v.mapAt key Value.asRecord else v) v := by
    cases b with
    | false => exact ⟨h, .refl (not_typed_of_isMapping h)⟩
    | true => exact ⟨isMapping_mapAt h, .mapAt h hkey⟩
  obtain ⟨hm, hmetadata⟩ := level "metadata" (by decide) metadata h
  obtain ⟨hs, hspec⟩ := level "spec" (by decide) spec hm
  rw [Value.recast]
  cases top with
  | false => exact hspec.trans hmetadata
  | true => exact (SameLevels.asRecord hs).trans (hspec.trans hmetadata)

/-- The metadata and the specification become objects; the manifest itself cannot, because of its key `1`. -/
example : recast true true true (mapping [(int 1, null), (str "metadata", mapping [(str "name", str "a")]),
    (str "spec", mapping [])]) =
    mapping [(int 1, null), (str "metadata", record [("name", str "a")]), (str "spec", record [])] := rfl

/-- A plain manifest that is turned into an object reads like that object, and like itself with any of its
levels shown as attributes: the same filters pass all of them, and no text is wanting to read them. -/
theorem manifest_reads_alike {m o : Value} (hm : Plain m) (h : ofManifest m = .ok o) :
    ReadAlike m o ∧ (m.Readable ∧ o.Readable) ∧ (∀ f : Filter, f.accept m = f.accept o) ∧
      ∀ top metadata spec, ReadAlike (m.recast top metadata spec) m ∧ (m.recast top metadata spec).Readable ∧
        ∀ f : Filter, f.accept (m.recast top metadata spec) = f.accept m := by
  have hobject : ReadAlike m o := .of_ofManifest hm h
  have hmapping : m.isMapping = true := (ofManifest_cases h).1
  have hreadable : m.Readable := hm.readable hmapping (ofManifest_eq_ok_iff.mp h).2.1
  refine ⟨hobject, ⟨hreadable, readable_of_ofManifest h⟩, hobject.accept, fun top metadata spec => ?_⟩
  have hlevels : SameLevels (m.recast top metadata spec) m := .recast hmapping top metadata spec
  exact ⟨hlevels.readAlike, hlevels.readable hreadable, hlevels.readAlike.accept⟩

/-- A service whose name is a number and whose labels collide once they are texts. -/
theorem manifest_reads_alike_colliding :
    let m : Value := .mapping [(.str "kind", .str "Service"), (.int 1, .null),
      (.str "metadata", .mapping [(.str "name", .int 7), (.str "namespace", .bool false),
        (.str "labels", .mapping [(.int 1, .bool true), (.str "x", .null), (.str "1", .int 2)])]),
      (.str "spec", .mapping [(.str "selector", .mapping [(.str "app", .bool false)])])]
    let o : Value := .service (.str "7") (.str "") [(.str "1", .str "2"), (.str "x", .str "")] (.str "Service")
      [(.str "app", .str "false")]
    Plain m ∧ ofManifest m = .ok o ∧ ReadAlike m o ∧ (m.Readable ∧ o.Readable) ∧
      (∀ f : Filter, f.accept m = f.accept o) ∧
      ∀ top metadata spec, ReadAlike (m.recast top metadata spec) m ∧ (m.recast top metadata spec).Readable ∧
        ∀ f : Filter, f.accept (m.recast top metadata spec) = f.accept m := by
  intro m o
  have hlabels : Plain (.mapping [(.int 1, .bool true), (.str "x", .null), (.str "1", .int 2)]) := .mapping <| by
    simp only [List.mem_cons, List.not_mem_nil, or_false, forall_eq_or_imp, forall_eq]
    exact ⟨.bool true, .null, .int 2⟩
  have hmetadata : Plain (.mapping [(.str "name", .int 7), (.str "namespace", .bool false),
      (.str "labels", .mapping [(.int 1, .bool true), (.str "x", .null), (.str "1", .int 2)])]) := .mapping <| by
    simp only [List.mem_cons, List.not_mem_nil, or_false, forall_eq_or_imp, forall_eq]
    exact ⟨.int 7, .bool false, hlabels⟩
  have hspec : Plain (.mapping [(.str "selector", .mapping [(.str "app", .bool false)])]) := .mapping <| by
    simp only [List.mem_cons, List.not_mem_nil, or_false, forall_eq]
    refine .mapping ?_
    simp only [List.mem_cons, List.not_mem_nil, or_false, forall_eq]
    exact .bool false
  have hm : Plain m := .mapping <| by
    simp only [List.mem_cons, List.not_mem_nil, or_false, forall_eq_or_imp, forall_eq]
    exact ⟨.str "Service", .null, hmetadata, hspec⟩
  have h : ofManifest m = .ok o := by rfl
  exact ⟨hm, h, manifest_reads_alike hm h⟩

end Recast

end ObjectWatch.Value
