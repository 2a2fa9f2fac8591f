import ObjectWatch.Proofs.Manifest.Reading

/-! The match of a section and the labels and selectors of objects are put in text form alike: keys by their
    text, values by their label, and of the keys that have one text the last one decides. So what a section
    passes is an inclusion between text forms, whatever scalars the section and the object were written with, as
    long as these have texts. -/

namespace ObjectWatch

/-- What a mapping has under a text in text form: the label of its last entry whose key has this text. -/
def rendered? (entries : List (Value × Value)) (key : String) : Option String :=
  (entries.findRev? fun e => key == e.1.text).map fun e => e.2.label

/-- Every pair of one mapping in text form is a pair of the other one. -/
def RendersWithin (es fs : List (Value × Value)) : Prop :=
  ∀ key label, rendered? es key = some label → rendered? fs key = some label

/-- A manifest with this mapping for labels, or the typed object that it is turned into. -/
inductive Value.HasLabels (l : List (Value × Value)) : Value → Prop where
  | manifest {v : Value} (hm : v.isMapping = true) (hl : (v.get "metadata").get "labels" = .mapping l) : HasLabels l v
  | object {v o : Value} (hl : (v.get "metadata").get "labels" = .mapping l) (ho : v.ofManifest = .ok o) : HasLabels l o

/-- A service manifest with this mapping for a selector, or the typed object that it is turned into. -/
inductive Value.HasSelector (l : List (Value × Value)) : Value → Prop where
  | manifest {v : Value} (hm : v.isMapping = true) (hservice : v.isService = true)
    (hl : (v.get "spec").get "selector" = .mapping l) : HasSelector l v
  | object {v o : Value} (hservice : v.isService = true) (hspec : (v.get "spec").isMapping = true)
    (hl : (v.get "spec").get "selector" = .mapping l) (ho : v.ofManifest = .ok o) : HasSelector l o

namespace Filter

/-- A section that names a variant and has a match. -/
def matching (variant : Variant) (m : List (Value × Value)) : Value :=
  .mapping [(.str "type", .str variant.name), (.str "match", .mapping m)]

/-- Neither a mapping nor a list. -/
def Scalar (v : Value) : Prop :=
  v.isMapping = false ∧ v.isList = false

instance (v : Value) : Decidable (Scalar v) :=
  inferInstanceAs (Decidable (_ ∧ _))

/-- No value is a mapping or a list. -/
def Flat (m : List (Value × Value)) : Prop :=
  ∀ e ∈ m, Scalar e.2

instance (m : List (Value × Value)) : Decidable (Flat m) :=
  inferInstanceAs (Decidable (∀ e ∈ m, Scalar e.2))

/-- The key or, if it is asked for, the value of an entry has no text. -/
def LacksText (e : Value × Value) : Prop :=
  e.1.hasText = false ∨ Scalar e.2 ∧ e.2.hasText = false

end Filter

section Rendering
variable {es fs l m : List (Value × Value)} {key label : String} {v : Value}

open Value

theorem exists_rendered? {e : Value × Value} (he : e ∈ es) : ∃ label, rendered? es e.1.text = some label := by
  refine Option.isSome_iff_exists.mp ?_
  rw [rendered?, List.findRev?_eq_find?_reverse, Option.isSome_map, List.find?_isSome]
  exact ⟨e, List.mem_reverse.mpr he, beq_self_eq_true _⟩

/-- Only the keys of a mapping need be looked up. -/
theorem rendersWithin_iff : RendersWithin es fs ↔ ∀ e ∈ es, rendered? fs e.1.text = rendered? es e.1.text := by
  constructor
  · intro h e he
    obtain ⟨label, hlabel⟩ := exists_rendered? he
    rw [hlabel, h _ _ hlabel]
  · intro h key label hkey
    obtain ⟨e, he, -⟩ := Option.map_eq_some_iff.mp hkey
    obtain ⟨hmem, htext⟩ := Table.of_findRev? he
    rw [beq_iff_eq.mp htext] at hkey ⊢
    rw [h e hmem, hkey]

instance (es fs : List (Value × Value)) : Decidable (RendersWithin es fs) :=
  decidable_of_iff _ rendersWithin_iff.symm

theorem texts_injective : Function.Injective texts := fun p q h => by
  cases p
  cases q
  cases h
  rfl

theorem get?_ofPairs_rendered :
    Table.get? key (Table.ofPairs (es.map fun e => (e.1.text, e.2.label))) = rendered? es key := by
  rw [Table.get?_ofPairs, rendered?, List.findRev?_eq_find?_reverse, List.findRev?_eq_find?_reverse, ← List.map_reverse,
    List.find?_map, Option.map_map]
  rfl

theorem mem_labelTable_iff : texts (key, label) ∈ (mapping es).labelTable ↔ rendered? es key = some label := by
  rw [labelTable_eq, List.mem_map_of_injective texts_injective, ← Table.get?_eq_some_iff Table.nodup_keys_ofPairs]
  exact iff_of_eq (congrArg (· = some label) get?_ofPairs_rendered)

theorem labelTable_subset_iff : (mapping es).labelTable ⊆ (mapping fs).labelTable ↔ RendersWithin es fs := by
  constructor
  · intro h key label hkey
    exact mem_labelTable_iff.mp (h (mem_labelTable_iff.mpr hkey))
  · intro h pair hpair
    obtain ⟨key, label, rfl⟩ := labelTable_textual.texts pair hpair
    exact mem_labelTable_iff.mpr (h key label (mem_labelTable_iff.mp hpair))

/-- Keys may fall together, but some entry is left. -/
theorem labelTable_eq_nil_iff : (mapping es).labelTable = [] ↔ es = [] := by
  constructor
  · intro h
    cases es with
    | nil => rfl
    | cons e rest =>
      obtain ⟨label, hlabel⟩ := exists_rendered? (List.mem_cons_self : e ∈ e :: rest)
      have hmem := mem_labelTable_iff.mpr hlabel
      rw [h] at hmem
      cases hmem
  · rintro rfl
    rfl

/-! ### Objects -/

/-- Labels can be read exactly if they have texts. A typed object is only made of such. -/
theorem Value.HasLabels.readLabels_eq (h : v.HasLabels l) : v.readLabels = (mapping l).labelTable? := by
  cases h with
  | manifest hm hl => rw [readLabels_of_not_typed (not_typed_of_isMapping hm), hl]
  | object hl ho =>
    have htexts := (ofManifest_eq_ok_iff.mp ho).2.1
    simp only [partsHaveTexts, Bool.and_eq_true, hl] at htexts
    rw [labelTable?_of_haveTexts htexts.1.1.2, ← hl, ← labels_of_ofManifest ho]
    cases typed_of_ofManifest ho <;> rfl

theorem Value.HasSelector.readSelector_eq (h : v.HasSelector l) :
    v.readSelector = (mapping l).labelTable?.map some := by
  cases h with
  | manifest hm hservice hl => rw [readSelector_of_not_typed (not_typed_of_isMapping hm), if_pos hservice, hl]
  | @object m o hservice hspec hl ho =>
    have hkind : m.givenKind = serviceKind := by
      rw [givenKind, beq_str.mp hservice]
      rfl
    obtain ⟨-, -, -, ⟨-, rfl⟩ | ⟨hother, -⟩⟩ := ofManifest_cases ho
    · have htexts := (ofManifest_eq_ok_iff.mp ho).2.1
      simp only [partsHaveTexts, Bool.and_eq_true, hl, hkind, hspec] at htexts
      have hselector : (mapping l).entriesHaveTexts = true := by simpa using htexts.2
      rw [labelTable?_of_haveTexts hselector, if_pos hspec, hl]
      rfl
    · exact absurd hkind hother

/-! ### Sections -/

namespace Filter
variable {variant : Variant} {target before after : List (Value × Value)} {e p : Value × Value} {cause : TextError}

theorem renderPair_of_lacksText (h : LacksText e) : renderPair e = .error (.text .tooManyDigits) := by
  unfold renderPair
  rcases h with hkey | ⟨⟨hmapping, hlist⟩, hvalue⟩
  · rw [text?_of_not_hasText hkey]
    rfl
  · cases hkey : e.1.hasText with
    | false => rw [text?_of_not_hasText hkey]; rfl
    | true =>
      rw [text?_of_hasText hkey, label?_of_not_hasText hvalue, hmapping, hlist]
      rfl

theorem renderPair_of_not_scalar (hkey : e.1.hasText = true) (h : ¬ Scalar e.2) :
    renderPair e = .error (.matchNotScalar e.1.text) := by
  have hparts : (e.2.isMapping || e.2.isList) = true := by
    rw [Scalar, ← Bool.or_eq_false_iff] at h
    exact Bool.of_not_eq_false h
  unfold renderPair
  rw [text?_of_hasText hkey, hparts]
  rfl

theorem renderPair_of_hasText (h : Scalar e.2) (hkey : e.1.hasText = true) (hvalue : e.2.hasText = true) :
    renderPair e = .ok (texts (e.1.text, e.2.label)) := by
  unfold renderPair
  rw [text?_of_hasText hkey, label?_of_hasText hvalue, h.1, h.2]
  rfl

/-- A pair is put in text form, or it lacks a text, or its value is no scalar. -/
theorem renderPair_cases (e : Value × Value) : Scalar e.2 ∧ (e.1.hasText = true ∧ e.2.hasText = true) ∨
    LacksText e ∨ e.1.hasText = true ∧ ¬ Scalar e.2 := by
  unfold LacksText
  by_cases hscalar : Scalar e.2 <;> cases e.1.hasText <;> cases e.2.hasText <;> simp [hscalar]

theorem renderPair_eq_ok_iff : renderPair e = .ok p ↔
    Scalar e.2 ∧ (e.1.hasText = true ∧ e.2.hasText = true) ∧ texts (e.1.text, e.2.label) = p := by
  rcases renderPair_cases e with ⟨hscalar, hkey, hvalue⟩ | hlacks | ⟨hkey, hparts⟩
  · simp [renderPair_of_hasText hscalar hkey hvalue, hscalar, hkey, hvalue]
  · rw [renderPair_of_lacksText hlacks]
    refine iff_of_false nofun ?_
    rintro ⟨-, ⟨hkey, hvalue⟩, -⟩
    rcases hlacks with h | ⟨-, h⟩
    · exact Bool.false_ne_true (h.symm.trans hkey)
    · exact Bool.false_ne_true (h.symm.trans hvalue)
  · rw [renderPair_of_not_scalar hkey hparts]
    exact iff_of_false nofun fun h => hparts h.1

theorem renderPair_eq_text_iff : renderPair e = .error (.text cause) ↔ LacksText e := by
  rcases renderPair_cases e with ⟨hscalar, hkey, hvalue⟩ | hlacks | ⟨hkey, hparts⟩
  · rw [renderPair_of_hasText hscalar hkey hvalue]
    refine iff_of_false nofun ?_
    simp [LacksText, hkey, hvalue]
  · cases cause
    exact iff_of_true (renderPair_of_lacksText hlacks) hlacks
  · rw [renderPair_of_not_scalar hkey hparts]
    refine iff_of_false nofun ?_
    simp [LacksText, hkey, hparts]

theorem renderPair_eq_error {cause : SectionError} (h : renderPair e = .error cause) :
    cause = .text .tooManyDigits ∧ LacksText e ∨ cause = .matchNotScalar e.1.text ∧ ¬ Scalar e.2 := by
  rcases renderPair_cases e with ⟨hscalar, hkey, hvalue⟩ | hlacks | ⟨hkey, hparts⟩
  · rw [renderPair_of_hasText hscalar hkey hvalue] at h
    cases h
  · rw [renderPair_of_lacksText hlacks] at h
    exact .inl ⟨(Except.error.inj h).symm, hlacks⟩
  · rw [renderPair_of_not_scalar hkey hparts] at h
    exact .inr ⟨(Except.error.inj h).symm, hparts⟩

theorem mapM_renderPair_eq_ok_iff {ps : List (Value × Value)} : m.mapM renderPair = .ok ps ↔
    (Flat m ∧ hasTextEntries m = true) ∧ m.map (fun e => texts (e.1.text, e.2.label)) = ps := by
  simp only [mapM_eq_ok_iff, renderPair_eq_ok_iff, hasTextEntries_iff]
  rw [List.forall₂_and_left, List.forall₂_and_left, ← List.forall₂_eq_eq_eq, List.forall₂_map_left_iff, and_assoc]
  rfl

/-- A match gives a target exactly if its values are scalars and all has texts; it is the match in text form. -/
theorem targetOf_eq_ok_iff : targetOf m = .ok target ↔
    (Flat m ∧ hasTextEntries m = true) ∧ (mapping m).labelTable = target := by
  simp only [targetOf, map_eq_ok_iff, mapM_renderPair_eq_ok_iff, and_assoc, exists_and_left, exists_eq_left']
  rfl

/-- Reading a match stops for want of a text at the first pair that lacks one, if it comes so far. -/
theorem targetOf_eq_text_iff : targetOf m = .error (.text cause) ↔ ∃ before e after, m = before ++ e :: after ∧
    (Flat before ∧ hasTextEntries before = true) ∧ LacksText e := by
  simp only [targetOf, map_eq_error_iff, mapM_eq_error, renderPair_eq_text_iff]
  refine exists_congr fun before => exists_congr fun e => exists_congr fun after => and_congr_right fun _ =>
    and_congr_left fun _ => ?_
  rw [← exists_forall₂_iff]
  simp only [← mapM_eq_ok_iff, mapM_renderPair_eq_ok_iff, exists_and_left, exists_eq', and_true]

/-- A match is refused for one of its pairs. -/
theorem exists_of_targetOf_error {cause : SectionError} (h : targetOf m = .error cause) :
    ∃ e ∈ m, renderPair e = .error cause := by
  rw [targetOf, map_eq_error_iff, mapM_eq_error] at h
  obtain ⟨before, e, after, rfl, -, he⟩ := h
  exact ⟨e, List.mem_append_right before List.mem_cons_self, he⟩

theorem targetOf_of_flat (hm : Flat m) (ht : hasTextEntries m = false) :
    targetOf m = .error (.text .tooManyDigits) := by
  cases h : targetOf m with
  | ok target =>
    have htexts := (targetOf_eq_ok_iff.mp h).1.2
    exact absurd (ht.symm.trans htexts) Bool.false_ne_true
  | error cause =>
    obtain ⟨e, hmem, he⟩ := exists_of_targetOf_error h
    rcases renderPair_eq_error he with ⟨rfl, -⟩ | ⟨-, hparts⟩
    · rfl
    · exact absurd (hm e hmem) hparts

theorem Variant.ofName?_name : ofName? variant.name = some variant := by
  cases variant <;> decide

theorem ofSection_matching : ofSection (matching variant m) = ofVariant (matching variant m) variant := by
  have type : Value.entry? (matching variant m) "type" = some (.str variant.name) := rfl
  have named : (str variant.name).text? = .ok variant.name := rfl
  rw [ofSection, if_neg nofun, if_neg nofun, type, Option.getD_some, named]
  simp only [Variant.ofName?_name]

theorem sectionTarget_matching : sectionTarget (matching variant m) = targetOf m := rfl

/-! ### Verdicts -/

theorem labels_decides (hv : v.HasLabels l) : (labels (mapping m).labelTable).Decides v
    (m = [] ∨ hasTextEntries l = true ∧ RendersWithin m l) (m ≠ [] ∧ hasTextEntries l = false) := by
  by_cases hm : m = []
  · subst hm
    have passed : (labels (mapping []).labelTable).verdict v = .ok true := rfl
    exact ⟨iff_of_true passed (.inl rfl), iff_of_false (by simp [passed]) fun h => h.1 rfl⟩
  have given : (mapping m).labelTable.isEmpty = false :=
    List.isEmpty_eq_false_iff.mpr (mt labelTable_eq_nil_iff.mp hm)
  have step : (labels (mapping m).labelTable).verdict v =
      ((mapping l).labelTable?).map (isSubset (mapping m).labelTable) := by
    rw [verdict, given, hv.readLabels_eq]
    rfl
  cases hl : hasTextEntries l with
  | false =>
    have failed : (labels (mapping m).labelTable).verdict v = .error .tooManyDigits := by
      rw [step, labelTable?_of_not_haveTexts (v := mapping l) hl]
      rfl
    exact ⟨iff_of_false (by simp [failed]) (by simp [hm]), iff_of_true failed ⟨hm, rfl⟩⟩
  | true =>
    have said : (labels (mapping m).labelTable).verdict v =
        .ok (isSubset (mapping m).labelTable (mapping l).labelTable) := by
      rw [step, labelTable?_of_haveTexts (v := mapping l) hl]
      rfl
    refine ⟨?_, iff_of_false (by simp [said]) (by simp)⟩
    rw [said, Except.ok.injEq, labelTable_textual.isSubset_iff_subset labelTable_textual, labelTable_subset_iff]
    simp [hm]

theorem serviceFor_decides (hv : v.HasSelector l) : (serviceFor (mapping m).labelTable).Decides v
    (hasTextEntries l = true ∧ m ≠ [] ∧ l ≠ [] ∧ RendersWithin l m) (hasTextEntries l = false) := by
  cases hl : hasTextEntries l with
  | false =>
    have failed : (serviceFor (mapping m).labelTable).verdict v = .error .tooManyDigits := by
      rw [verdict, hv.readSelector_eq, labelTable?_of_not_haveTexts (v := mapping l) hl]
      rfl
    exact ⟨iff_of_false (by simp [failed]) (by simp), iff_of_true failed rfl⟩
  | true =>
    have said : (serviceFor (mapping m).labelTable).verdict v = .ok (!(mapping l).labelTable.isEmpty &&
        !(mapping m).labelTable.isEmpty && isSubset (mapping l).labelTable (mapping m).labelTable) := by
      rw [verdict, hv.readSelector_eq, labelTable?_of_haveTexts (v := mapping l) hl]
      rfl
    refine ⟨?_, iff_of_false (by simp [said]) (by simp)⟩
    rw [said, Except.ok.injEq]
    simp only [Bool.and_eq_true, Bool.not_eq_true', List.isEmpty_eq_false_iff, ne_eq, labelTable_eq_nil_iff,
      labelTable_textual.isSubset_iff_subset labelTable_textual, labelTable_subset_iff]
    tauto

/-- What comes of a flat match. If it has no texts then its sections are refused. If it has, they give filters. The
labels filter passes what has labels that the match is within, the service filter what has a selector that is
within the match, where neither is empty; they fail where what they are to read of a value has no text, and a
manifest whose parts have no texts is turned into no object. -/
theorem section_passes_by_rendering (hm : Flat m) :
    (hasTextEntries m = false → ofSection (matching .labels m) = .error (.text .tooManyDigits) ∧
      ofSection (matching .serviceFor m) = .error (.text .tooManyDigits)) ∧
    (hasTextEntries m = true → ∃ f g,
      ofSection (matching .labels m) = .ok f ∧ ofSection (matching .serviceFor m) = .ok g ∧
      (∀ l v, v.HasLabels l →
        f.Decides v (m = [] ∨ hasTextEntries l = true ∧ RendersWithin m l) (m ≠ [] ∧ hasTextEntries l = false)) ∧
      (∀ l v, v.HasSelector l → g.Decides v (hasTextEntries l = true ∧ m ≠ [] ∧ l ≠ [] ∧ RendersWithin l m)
        (hasTextEntries l = false)) ∧
      (∀ v, v.HasLabels m → f.verdict v = .ok true) ∧ (m ≠ [] → ∀ v, v.HasSelector m → g.verdict v = .ok true)) ∧
    ∀ v : Value, v.isNamed = true → v.partsHaveTexts = false → v.ofManifest = .error (.text .tooManyDigits) := by
  refine ⟨fun ht => ?_, fun ht => ?_, fun _ => ofManifest_of_not_haveTexts⟩
  · rw [ofSection_matching, ofSection_matching, ofVariant, ofVariant, sectionTarget_matching, sectionTarget_matching,
      targetOf_of_flat hm ht]
    exact ⟨rfl, rfl⟩
  have htarget : targetOf m = .ok (mapping m).labelTable := targetOf_eq_ok_iff.mpr ⟨⟨hm, ht⟩, rfl⟩
  have hlabels : ofSection (matching .labels m) = .ok (labels (mapping m).labelTable) := by
    rw [ofSection_matching, ofVariant, sectionTarget_matching, htarget]
    rfl
  have hservice : ofSection (matching .serviceFor m) = .ok (serviceFor (mapping m).labelTable) := by
    rw [ofSection_matching, ofVariant, sectionTarget_matching, htarget]
    rfl
  refine ⟨_, _, hlabels, hservice, fun _ _ => labels_decides, fun _ _ => serviceFor_decides, fun v hv => ?_,
    fun hne v hv => ?_⟩
  · exact (labels_decides hv).passes.mpr (.inr ⟨ht, fun _ _ => id⟩)
  · exact (serviceFor_decides hv).passes.mpr ⟨ht, hne, hne, fun _ _ => id⟩

/-- The keys `1` and `"1"` fall together in the match and in the labels, where they stand in two orders; the
value that comes last decides. -/
theorem section_passes_by_rendering_colliding :
    let m : List (Value × Value) := [(.int 1, .bool true), (.str "x", .null), (.str "1", .int 2)]
    let l : List (Value × Value) := [(.str "1", .null), (.null, .bool false), (.str "x", .str ""), (.int 1, .str "2")]
    let v : Value := .mapping [(.str "kind", .str "Service"),
      (.str "metadata", .mapping [(.str "name", .str "a"), (.str "labels", .mapping l)]),
      (.str "spec", .mapping [(.str "selector", .mapping [(.str "1", .int 2)])])]
    let o : Value := .service (.str "a") (.str "")
      [(.str "1", .str "2"), (.str "None", .str "false"), (.str "x", .str "")] (.str "Service") [(.str "1", .str "2")]
    Flat m ∧ v.ofManifest = .ok o ∧
      ∃ f g, ofSection (matching .labels m) = .ok f ∧ ofSection (matching .serviceFor m) = .ok g ∧
        f.verdict v = .ok true ∧ f.verdict o = .ok true ∧ g.verdict v = .ok true ∧ g.verdict o = .ok true := by
  intro m l v o
  have flat : Flat m := by decide
  have converted : v.ofManifest = .ok o := by rfl
  obtain ⟨-, built, -⟩ := section_passes_by_rendering flat
  obtain ⟨f, g, hf, hg, passed, selected, -, -⟩ := built (by decide)
  have labels : hasTextEntries l = true ∧ RendersWithin m l := by decide +kernel
  have selector : hasTextEntries [(.str "1", .int 2)] = true ∧ m ≠ [] ∧ [(Value.str "1", Value.int 2)] ≠ [] ∧
      RendersWithin [(.str "1", .int 2)] m :=
    ⟨by decide, nofun, nofun, by decide +kernel⟩
  refine ⟨flat, converted, f, g, hf, hg, ?_, ?_, ?_, ?_⟩
  · exact (passed l v (.manifest rfl rfl)).passes.mpr (.inr labels)
  · exact (passed l o (.object (v := v) rfl converted)).passes.mpr (.inr labels)
  · exact (selected _ v (.manifest rfl (by decide) rfl)).passes.mpr selector
  · exact (selected _ o (.object (v := v) (by decide) rfl rfl converted)).passes.mpr selector

/-- An integer without a text is a scalar, too: no section can have it in its match, and no filter that asks for
labels can be asked about a manifest that has it among its labels. -/
theorem section_refuses_textless :
    let m : List (Value × Value) := [(.str "a", textless)]
    let v : Value := .mapping [(.str "metadata", .mapping [(.str "name", .str "a"), (.str "labels", .mapping m)])]
    Flat m ∧ RendersWithin m m ∧ v.HasLabels m ∧ ofSection (matching .labels m) = .error (.text .tooManyDigits) ∧
      ofSection (matching .serviceFor m) = .error (.text .tooManyDigits) ∧
      (labels [(.str "a", .str "b")]).verdict v = .error .tooManyDigits ∧
      v.ofManifest = .error (.text .tooManyDigits) := by
  intro m v
  have flat : Flat m := List.forall_mem_singleton.mpr ⟨rfl, rfl⟩
  have labelled : v.HasLabels m := .manifest rfl rfl
  have unwritten : hasTextEntries m = false := hasTextEntries_textless
  have refused : targetOf m = .error (.text .tooManyDigits) := targetOf_of_flat flat unwritten
  refine ⟨flat, fun _ _ => id, labelled, ?_, ?_, ?_, ?_⟩
  · rw [ofSection_matching, ofVariant, sectionTarget_matching, refused]
    rfl
  · rw [ofSection_matching, ofVariant, sectionTarget_matching, refused]
    rfl
  · have step : (labels [(.str "a", .str "b")]).verdict v = v.readLabels.map (isSubset [(.str "a", .str "b")]) := rfl
    rw [step, labelled.readLabels_eq, labelTable?_of_not_haveTexts (v := mapping m) unwritten]
    rfl
  · refine ofManifest_of_not_haveTexts rfl ?_
    exact partsHaveTexts_of_labels unwritten

end Filter

end Rendering

end ObjectWatch
