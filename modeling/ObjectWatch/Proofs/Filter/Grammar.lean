import ObjectWatch.Failure
import ObjectWatch.Proofs.Filter.Rendering
import ObjectWatch.Proofs.Identity.Spelling

/-! Which sections describe filters, and which filter each of them describes. A section names a variant by the
    text of its type, and the variant reads one other entry of it at most; so whether a section is refused, and
    what comes of it otherwise, is settled by its type and that entry. What has no text cannot be read: a type or
    a match without one is refused, but not as an invalid section. -/

namespace ObjectWatch

namespace Filter

/-! ### Sections -/

/-- The type of a section; without one, it is that of the filter that passes everything. -/
def typeOf (sec : Value) : Value :=
  (sec.entry? "type").getD (.str Variant.null.name)

def typeText (sec : Value) : String :=
  (typeOf sec).text

/-- A mapping whose type has a text that names a variant, in whatever case, with `-` or `_`. -/
structure NamesType (sec : Value) (variant : Variant) : Prop where
  mapping : sec.isMapping = true
  written : (typeOf sec).hasText = true
  name : Variant.canonical (typeText sec) = variant.name

/-- The match of a section has these entries, none where it is absent or null. -/
inductive MatchOf (sec : Value) : List (Value × Value) → Prop where
  | absent (h : sec.entry? "match" = none) : MatchOf sec []
  | null (h : sec.entry? "match" = some .null) : MatchOf sec []
  | mapping {v : Value} {m : List (Value × Value)} (h : sec.entry? "match" = some v) (hv : v.entries? = some m) :
    MatchOf sec m

/-- The names of a section are these items, none where they are absent. -/
inductive NamesOf (sec : Value) : List Value → Prop where
  | absent (h : sec.entry? "names" = none) : NamesOf sec []
  | list {v : Value} {items : List Value} (h : sec.entry? "names" = some v) (hv : v.items? = some items) :
    NamesOf sec items

/-- What a variant uses of a section is as it has to be. -/
def Fits (sec : Value) : Variant → Prop
  | .null | .all => True
  | .labels | .serviceFor => ∃ m, MatchOf sec m ∧ Flat m ∧ Value.hasTextEntries m = true
  | .names => ∃ items, NamesOf sec items ∧ ∀ item ∈ items, item.hasText = true ∧ Identity.WellSpelled item.text

/-- The keys that a variant uses of a section, besides the type. -/
def Variant.uses : Variant → List String
  | null | all => []
  | labels | serviceFor => ["match"]
  | names => ["names"]

/-- A text is wanting that a section is read by: that of its type, or one of a pair of the match where this is used
and is as it has to be up to that pair. -/
inductive Unwritten (sec : Value) : Prop where
  | type (hmapping : sec.isMapping = true) (h : (typeOf sec).hasText = false)
  | pair {variant : Variant} {before after : List (Value × Value)} {e : Value × Value}
    (hvariant : NamesType sec variant) (huses : "match" ∈ variant.uses) (hm : MatchOf sec (before ++ e :: after))
    (hbefore : Flat before ∧ Value.hasTextEntries before = true) (h : LacksText e)

/-- A target of texts that has the pairs of a match in text form. -/
structure Renders (m target : List (Value × Value)) : Prop where
  textual : Textual target
  pairs : ∀ key label, (.str key, .str label) ∈ target ↔ rendered? m key = some label

/-- The filter of a variant that a section describes: its target is the match in text form, or its identities are
those that the texts of the names spell, in order. -/
inductive Describes (sec : Value) : Variant → Filter → Prop where
  | null : Describes sec .null null
  | all : Describes sec .all all
  | labels {m target : List (Value × Value)} (hm : MatchOf sec m) (h : Renders m target) :
    Describes sec .labels (labels target)
  | serviceFor {m target : List (Value × Value)} (hm : MatchOf sec m) (h : Renders m target) :
    Describes sec .serviceFor (serviceFor target)
  | names {items : List Value} {ids : List Identity} (hitems : NamesOf sec items)
    (h : List.Forall₂ (fun item id => Identity.SpelledBy item.text id) items ids) : Describes sec .names (names ids)

section Grammar
variable {sec other : Value} {variant : Variant} {m target : List (Value × Value)} {items : List Value} {f : Filter}
  {s : String} {e : SectionError} {cause : TextError}

/-! ### The match -/

theorem MatchOf.unique {m' : List (Value × Value)} (h : MatchOf sec m) (h' : MatchOf sec m') : m = m' := by
  have hnull : Value.null.entries? = none := rfl
  cases h <;> cases h' <;> grind

theorem sectionTarget_of_matchOf (h : MatchOf sec m) : sectionTarget sec = targetOf m := by
  cases h with
  | absent h => rw [sectionTarget, h]; rfl
  | null h => rw [sectionTarget, h]; rfl
  | @mapping v _ h hv =>
    rw [sectionTarget, h, Option.getD_some]
    cases v <;> first | cases hv; done | simp only [hv]

/-- The match of a section has entries, or it is refused for being no mapping. -/
theorem matchOf_or_refused (sec : Value) : (∃ m, MatchOf sec m) ∨ sectionTarget sec = .error .matchNotMapping := by
  cases hmatch : sec.entry? "match" with
  | none => exact .inl ⟨[], .absent hmatch⟩
  | some v =>
    rw [sectionTarget, hmatch, Option.getD_some]
    cases hv : v.entries? with
    | some m => exact .inl ⟨m, .mapping hmatch hv⟩
    | none =>
      split
      · exact .inl ⟨[], .null hmatch⟩
      · exact .inr (by rw [hv])

theorem sectionTarget_eq_ok_iff : sectionTarget sec = .ok target ↔
    ∃ m, MatchOf sec m ∧ (Flat m ∧ Value.hasTextEntries m = true) ∧ (Value.mapping m).labelTable = target := by
  constructor
  · intro h
    rcases matchOf_or_refused sec with ⟨m, hm⟩ | hrefused
    · rw [sectionTarget_of_matchOf hm, targetOf_eq_ok_iff] at h
      exact ⟨m, hm, h⟩
    · rw [hrefused] at h
      cases h
  · rintro ⟨m, hm, h⟩
    rw [sectionTarget_of_matchOf hm, targetOf_eq_ok_iff]
    exact h

theorem sectionTarget_eq_text_iff : sectionTarget sec = .error (.text cause) ↔
    ∃ before e after, MatchOf sec (before ++ e :: after) ∧ (Flat before ∧ Value.hasTextEntries before = true) ∧
      LacksText e := by
  constructor
  · intro h
    rcases matchOf_or_refused sec with ⟨m, hm⟩ | hrefused
    · rw [sectionTarget_of_matchOf hm, targetOf_eq_text_iff] at h
      obtain ⟨before, e, after, rfl, h⟩ := h
      exact ⟨before, e, after, hm, h⟩
    · rw [hrefused] at h
      cases h
  · rintro ⟨before, e, after, hm, h⟩
    rw [sectionTarget_of_matchOf hm, targetOf_eq_text_iff]
    exact ⟨before, e, after, rfl, h⟩

/-- A match is refused as such, unless it is for want of a text. -/
theorem kind_of_sectionTarget (h : sectionTarget sec = .error e) :
    e.kind = .invalidSection ∨ ∃ cause, e = .text cause := by
  rcases matchOf_or_refused sec with ⟨m, hm⟩ | hrefused
  · rw [sectionTarget_of_matchOf hm] at h
    obtain ⟨pair, -, hpair⟩ := exists_of_targetOf_error h
    rcases renderPair_eq_error hpair with ⟨rfl, -⟩ | ⟨rfl, -⟩
    · exact .inr ⟨_, rfl⟩
    · exact .inl rfl
  · rw [hrefused] at h
    cases h
    exact .inl rfl

theorem renders_labelTable : Renders m (Value.mapping m).labelTable :=
  ⟨Value.labelTable_textual, fun _ _ => mem_labelTable_iff⟩

theorem map_sectionTarget_eq_ok_iff {g : List (Value × Value) → Filter} : (sectionTarget sec).map g = .ok f ↔
    ∃ m, MatchOf sec m ∧ (Flat m ∧ Value.hasTextEntries m = true) ∧ g (Value.mapping m).labelTable = f := by
  simp only [map_eq_ok_iff, sectionTarget_eq_ok_iff]
  constructor
  · rintro ⟨target, ⟨m, hm, htexts, rfl⟩, rfl⟩
    exact ⟨m, hm, htexts, rfl⟩
  · rintro ⟨m, hm, htexts, rfl⟩
    exact ⟨_, ⟨m, hm, htexts, rfl⟩, rfl⟩

/-! ### The names -/

theorem named_str {id : Identity} : Identity.named (.str s) = .ok id ↔ Identity.SpelledBy s id := by
  rw [← Identity.parse?_eq_some_iff, Identity.named, Identity.ofValue]
  cases hs : Identity.parse? s with
  | none => exact iff_of_false nofun nofun
  | some n =>
    have hnamed : n.name ≠ "" := (Identity.parse?_eq_some_iff.mp hs).named
    simp only [if_neg hnamed, Except.ok.injEq, Option.some.injEq]

/-- A text that spells no identity is an invalid value. -/
theorem kind_of_named_str {e : IdentityError} (h : Identity.named (.str s) = .error e) : e.kind = .invalidValue := by
  rw [Identity.named, Identity.ofValue] at h
  cases hs : Identity.parse? s with
  | none =>
    rw [hs] at h
    cases h
    rfl
  | some n =>
    rw [hs] at h
    simp only at h
    split at h
    · cases h
      rfl
    · cases h

theorem ofTexts_eq_ok_iff : ofTexts items = .ok f ↔ ∃ ids,
    ((∀ item ∈ items, item.hasText = true) ∧ List.Forall₂ (fun item id => Identity.SpelledBy item.text id) items ids) ∧
      names ids = f := by
  unfold ofTexts
  cases htexts : items.mapM Value.text? with
  | error cause =>
    refine iff_of_false nofun ?_
    rintro ⟨ids, ⟨h, -⟩, -⟩
    cases htexts.symm.trans (Value.mapM_text?_eq_ok_iff.mpr ⟨h, rfl⟩)
  | ok texts =>
    obtain ⟨h, rfl⟩ := Value.mapM_text?_eq_ok_iff.mp htexts
    simp only [ofIdentities_eq_ok_iff, mapM_eq_ok_iff, List.map_map, List.forall₂_map_left_iff, Function.comp_apply,
      named_str]
    exact exists_congr fun ids => and_congr_left fun _ => (and_iff_right h).symm

theorem kind_of_ofTexts {e : IdentityError} (h : ofTexts items = .error e) : e.kind = .invalidValue := by
  unfold ofTexts at h
  split at h
  · rw [ofIdentities, map_eq_error_iff, mapM_eq_error] at h
    obtain ⟨before, v, after, hitems, -, hv⟩ := h
    obtain ⟨s, -, rfl⟩ := List.mem_map.mp (hitems ▸ List.mem_append_right before List.mem_cons_self)
    exact kind_of_named_str hv
  · cases h
    rfl

/-- The names of a section are items of a list, or they are refused for being none. -/
theorem namesOf_or_refused (sec : Value) : (∃ items, NamesOf sec items) ∨ sectionNames sec = .error .namesNotList := by
  cases hnames : sec.entry? "names" with
  | none => exact .inl ⟨[], .absent hnames⟩
  | some v =>
    cases hv : v.items? with
    | some items => exact .inl ⟨items, .list hnames hv⟩
    | none => exact .inr (by rw [sectionNames, hnames, Option.getD_some, hv])

theorem sectionNames_of_namesOf (h : NamesOf sec items) : sectionNames sec = (ofTexts items).mapError .ofNames := by
  cases h with
  | absent h => rw [sectionNames, h]; rfl
  | list h hv => rw [sectionNames, h, Option.getD_some, hv]

theorem sectionNames_eq_ok_iff : sectionNames sec = .ok f ↔ ∃ items ids, NamesOf sec items ∧
    ((∀ item ∈ items, item.hasText = true) ∧ List.Forall₂ (fun item id => Identity.SpelledBy item.text id) items ids) ∧
      names ids = f := by
  constructor
  · intro h
    rcases namesOf_or_refused sec with ⟨items, hitems⟩ | hrefused
    · rw [sectionNames_of_namesOf hitems, mapError_eq_ok_iff, ofTexts_eq_ok_iff] at h
      obtain ⟨ids, h⟩ := h
      exact ⟨items, ids, hitems, h⟩
    · rw [hrefused] at h
      cases h
  · rintro ⟨items, ids, hitems, h⟩
    rw [sectionNames_of_namesOf hitems, mapError_eq_ok_iff, ofTexts_eq_ok_iff]
    exact ⟨ids, h⟩

/-- All that is wrong with the texts of names is an invalid value, so the section is refused as such. -/
theorem kind_of_sectionNames (h : sectionNames sec = .error e) : e.kind = .invalidSection := by
  rcases namesOf_or_refused sec with ⟨items, hitems⟩ | hrefused
  · rw [sectionNames_of_namesOf hitems, mapError_eq_error_iff] at h
    obtain ⟨cause, hcause, rfl⟩ := h
    rw [SectionError.ofNames, kind_of_ofTexts hcause]
    rfl
  · rw [hrefused] at h
    cases h
    rfl

theorem exists_sectionNames_iff : (∃ f, sectionNames sec = .ok f) ↔
    ∃ items, NamesOf sec items ∧ ∀ item ∈ items, item.hasText = true ∧ Identity.WellSpelled item.text := by
  simp only [sectionNames_eq_ok_iff, ← Identity.exists_spelledBy_iff, forall₂_and, ← exists_forall₂_iff]
  constructor
  · rintro ⟨f, items, ids, hitems, ⟨htexts, hids⟩, -⟩
    exact ⟨items, hitems, htexts, ids, hids⟩
  · rintro ⟨items, hitems, htexts, ids, hids⟩
    exact ⟨names ids, items, ids, hitems, ⟨htexts, hids⟩, rfl⟩

/-! ### Variants -/

theorem Variant.ofName?_eq_some_iff : ofName? s = some variant ↔ canonical s = variant.name := by
  constructor
  · intro h
    have hfound := List.find?_some h
    exact (beq_iff_eq.mp hfound).symm
  · intro h
    rw [ofName?, h]
    cases variant <;> decide

theorem NamesType.unique {variant' : Variant} (h : NamesType sec variant) (h' : NamesType sec variant') :
    variant = variant' := by
  have hname := Variant.ofName?_eq_some_iff.mpr h.name
  rw [Variant.ofName?_eq_some_iff.mpr h'.name] at hname
  exact (Option.some.inj hname).symm

theorem exists_ofVariant_iff : (∃ f, ofVariant sec variant = .ok f) ↔ Fits sec variant := by
  have hmap {g : List (Value × Value) → Filter} :
      (∃ f, (sectionTarget sec).map g = .ok f) ↔ ∃ m, MatchOf sec m ∧ Flat m ∧ Value.hasTextEntries m = true := by
    simp only [map_sectionTarget_eq_ok_iff]
    exact ⟨fun ⟨_, m, hm, htexts, _⟩ => ⟨m, hm, htexts⟩, fun ⟨m, hm, htexts⟩ => ⟨_, m, hm, htexts, rfl⟩⟩
  cases variant with
  | null => exact iff_of_true ⟨null, rfl⟩ trivial
  | all => exact iff_of_true ⟨all, rfl⟩ trivial
  | labels => exact hmap
  | serviceFor => exact hmap
  | names => exact exists_sectionNames_iff

theorem describes_of_ofVariant (h : ofVariant sec variant = .ok f) : Describes sec variant f := by
  cases variant with
  | null =>
    cases h
    exact .null
  | all =>
    cases h
    exact .all
  | labels =>
    obtain ⟨m, hm, -, rfl⟩ := map_sectionTarget_eq_ok_iff.mp h
    exact .labels hm renders_labelTable
  | serviceFor =>
    obtain ⟨m, hm, -, rfl⟩ := map_sectionTarget_eq_ok_iff.mp h
    exact .serviceFor hm renders_labelTable
  | names =>
    obtain ⟨items, ids, hitems, ⟨-, hids⟩, rfl⟩ := sectionNames_eq_ok_iff.mp h
    exact .names hitems hids

/-- A variant refuses a section as an invalid one, or for want of a text in its match. -/
theorem kind_of_ofVariant (h : ofVariant sec variant = .error e) :
    e.kind = .invalidSection ∨ (∃ cause, e = .text cause) ∧ "match" ∈ variant.uses := by
  cases variant with
  | null => cases h
  | all => cases h
  | labels => exact (kind_of_sectionTarget (map_eq_error_iff.mp h)).imp_right fun h => ⟨h, List.mem_cons_self⟩
  | serviceFor => exact (kind_of_sectionTarget (map_eq_error_iff.mp h)).imp_right fun h => ⟨h, List.mem_cons_self⟩
  | names => exact .inl (kind_of_sectionNames h)

theorem ofVariant_eq_text_iff (huses : "match" ∈ variant.uses) :
    ofVariant sec variant = .error (.text cause) ↔ sectionTarget sec = .error (.text cause) := by
  cases variant with
  | labels => exact map_eq_error_iff
  | serviceFor => exact map_eq_error_iff
  | _ => exact absurd huses (by decide)

theorem ofVariant_congr (h : ∀ key ∈ variant.uses, other.entry? key = sec.entry? key) :
    ofVariant other variant = ofVariant sec variant := by
  cases variant with
  | null => rfl
  | all => rfl
  | labels => rw [ofVariant, ofVariant, sectionTarget, sectionTarget, h "match" List.mem_cons_self]
  | serviceFor => rw [ofVariant, ofVariant, sectionTarget, sectionTarget, h "match" List.mem_cons_self]
  | names => rw [ofVariant, ofVariant, sectionNames, sectionNames, h "names" List.mem_cons_self]

/-- A mapping that does not count as given is empty, so its type is the one of the filter that passes everything. -/
theorem typeOf_of_not_truthy (hsec : sec.truthy = false) (h : sec.isMapping = true) :
    typeOf sec = .str Variant.null.name := by
  cases sec <;> try cases h
  case mapping entries =>
    cases entries with
    | nil => rfl
    | cons entry rest => cases hsec
  case knot label body => cases hsec

theorem ofSection_of_not_truthy (h : sec.truthy = false) : ofSection sec = .ok null := by
  rw [ofSection, h]
  rfl

theorem ofSection_of_not_mapping (h : sec.truthy = true) (hsec : sec.isMapping = false) :
    ofSection sec = .error .notMapping := by
  rw [ofSection, h, hsec]
  rfl

theorem ofSection_of_no_text (hsec : sec.isMapping = true) (h : (typeOf sec).hasText = false) :
    ofSection sec = .error (.text .tooManyDigits) := by
  have given : sec.truthy = true := by
    refine Bool.of_not_eq_false fun hfalsy => ?_
    rw [typeOf_of_not_truthy hfalsy hsec] at h
    cases h
  have read : ((sec.entry? "type").getD (.str Variant.null.name)).text? = .error .tooManyDigits :=
    Value.text?_of_not_hasText h
  rw [ofSection, given, hsec, Bool.not_true, if_neg Bool.false_ne_true, if_neg Bool.false_ne_true, read]

/-- A mapping that is not empty is read by the text of its type. -/
theorem ofSection_of_truthy (h : sec.truthy = true) (hsec : sec.isMapping = true)
    (htype : (typeOf sec).hasText = true) :
    ofSection sec = match Variant.ofName? (typeText sec) with
      | some variant => ofVariant sec variant
      | none => .error (.unsupported (sec.get "type").text) := by
  have read : ((sec.entry? "type").getD (.str Variant.null.name)).text? = .ok (typeText sec) :=
    Value.text?_of_hasText htype
  rw [ofSection, h, hsec, Bool.not_true, if_neg Bool.false_ne_true, if_neg Bool.false_ne_true]
  split
  · rename_i hcause
    cases hcause.symm.trans read
  · rename_i hread
    cases hread.symm.trans read
    rfl

theorem ofSection_of_namesType (h : NamesType sec variant) : ofSection sec = ofVariant sec variant := by
  have hname := Variant.ofName?_eq_some_iff.mpr h.name
  cases hsec : sec.truthy with
  | false =>
    rw [typeText, typeOf_of_not_truthy hsec h.mapping] at hname
    cases (@Variant.ofName?_name .null).symm.trans hname
    exact ofSection_of_not_truthy hsec
  | true => rw [ofSection_of_truthy hsec h.mapping h.written, hname]

/-- A section that does not name a variant does not count as given, or its type has no text, or it is refused. -/
theorem ofSection_cases (sec : Value) : sec.truthy = false ∨ (∃ variant, NamesType sec variant) ∨
    (sec.isMapping = true ∧ (typeOf sec).hasText = false) ∨
      ∃ e, ofSection sec = .error e ∧ e.kind = .invalidSection := by
  cases hsec : sec.truthy with
  | false => exact .inl rfl
  | true =>
  cases hmapping : sec.isMapping with
  | false => exact .inr (.inr (.inr ⟨_, ofSection_of_not_mapping hsec hmapping, rfl⟩))
  | true =>
  cases htype : (typeOf sec).hasText with
  | false => exact .inr (.inr (.inl ⟨rfl, rfl⟩))
  | true =>
  have read := ofSection_of_truthy hsec hmapping htype
  cases hname : Variant.ofName? (typeText sec) with
  | some variant => exact .inr (.inl ⟨variant, hmapping, htype, Variant.ofName?_eq_some_iff.mp hname⟩)
  | none =>
    rw [hname] at read
    exact .inr (.inr (.inr ⟨_, read, rfl⟩))

theorem namesType_of_ok (hsec : sec.truthy = true) (h : ofSection sec = .ok f) : ∃ variant, NamesType sec variant := by
  rcases ofSection_cases sec with hfalsy | hvariant | ⟨hmapping, htype⟩ | ⟨e, he, -⟩
  · exact absurd (hfalsy.symm.trans hsec) Bool.false_ne_true
  · exact hvariant
  · cases h.symm.trans (ofSection_of_no_text hmapping htype)
  · cases h.symm.trans he

theorem exists_ofSection_iff : (∃ f, ofSection sec = .ok f) ↔
    sec.truthy = false ∨ ∃ variant, NamesType sec variant ∧ Fits sec variant := by
  constructor
  · rintro ⟨f, hf⟩
    cases hsec : sec.truthy with
    | false => exact .inl rfl
    | true =>
      obtain ⟨variant, hvariant⟩ := namesType_of_ok hsec hf
      rw [ofSection_of_namesType hvariant] at hf
      exact .inr ⟨variant, hvariant, exists_ofVariant_iff.mp ⟨f, hf⟩⟩
  · rintro (hsec | ⟨variant, hvariant, hfits⟩)
    · exact ⟨null, ofSection_of_not_truthy hsec⟩
    · rw [ofSection_of_namesType hvariant]
      exact exists_ofVariant_iff.mpr hfits

/-- A section by which a text is wanting is refused for it. -/
theorem ofSection_of_unwritten (h : Unwritten sec) : ofSection sec = .error (.text .tooManyDigits) := by
  cases h with
  | type hmapping htype => exact ofSection_of_no_text hmapping htype
  | pair hvariant huses hm hbefore hlacks =>
    rw [ofSection_of_namesType hvariant, ofVariant_eq_text_iff huses, sectionTarget_eq_text_iff]
    exact ⟨_, _, _, hm, hbefore, hlacks⟩

/-- Any other section that is refused is refused as an invalid one. -/
theorem kind_of_ofSection (h : ofSection sec = .error e) : e.kind = .invalidSection ∨ Unwritten sec := by
  rcases ofSection_cases sec with hfalsy | ⟨variant, hvariant⟩ | ⟨hmapping, htype⟩ | ⟨e', he', hkind⟩
  · cases h.symm.trans (ofSection_of_not_truthy hfalsy)
  · rw [ofSection_of_namesType hvariant] at h
    rcases kind_of_ofVariant h with hkind | ⟨⟨cause, rfl⟩, huses⟩
    · exact .inl hkind
    · rw [ofVariant_eq_text_iff huses, sectionTarget_eq_text_iff] at h
      obtain ⟨before, pair, after, hm, hbefore, hlacks⟩ := h
      exact .inr (.pair hvariant huses hm hbefore hlacks)
  · exact .inr (.type hmapping htype)
  · cases h.symm.trans he'
    exact .inl hkind

/-- Whatever is wrong with a section is an invalid value. -/
theorem isInvalid_of_ofSection (h : ofSection sec = .error e) : e.kind.isInvalid = true := by
  rcases kind_of_ofSection h with hkind | hunwritten
  · exact congrArg Failure.Kind.isInvalid hkind
  · cases h.symm.trans (ofSection_of_unwritten hunwritten)
    rfl

theorem kind_eq_invalidSection_iff (h : ofSection sec = .error e) : e.kind = .invalidSection ↔ ¬ Unwritten sec := by
  refine ⟨fun hkind hunwritten => ?_, (kind_of_ofSection h).resolve_right⟩
  cases h.symm.trans (ofSection_of_unwritten hunwritten)
  cases hkind

theorem describes_of_ofSection (h : ofSection sec = .ok f) :
    sec.truthy = false ∧ f = null ∨ ∃ variant, NamesType sec variant ∧ Describes sec variant f := by
  cases hsec : sec.truthy with
  | false =>
    rw [ofSection_of_not_truthy hsec] at h
    exact .inl ⟨rfl, (Except.ok.inj h).symm⟩
  | true =>
    obtain ⟨variant, hvariant⟩ := namesType_of_ok hsec h
    rw [ofSection_of_namesType hvariant] at h
    exact .inr ⟨variant, hvariant, describes_of_ofVariant h⟩

/-- For every value: it describes a filter exactly if it does not count as given or it is a mapping that names a
variant and has what that variant uses as it has to be. The filter is the one described, the one that passes
everything where the section does not count as given. Any other value is refused, as an invalid section exactly if no
text is wanting that it is read by, and else for that text. What the variant does not use makes no difference, neither
to the filter nor to the refusal. -/
theorem section_grammar (sec : Value) :
    (∀ e, ofSection sec = .error e → ((Failure.filter e).kind = .invalidSection ↔ ¬ Unwritten sec)) ∧
    (Unwritten sec → ofSection sec = .error (.text .tooManyDigits)) ∧
    ((∃ f, ofSection sec = .ok f) ↔ sec.truthy = false ∨ ∃ variant, NamesType sec variant ∧ Fits sec variant) ∧
    (∀ f, ofSection sec = .ok f → sec.truthy = false ∧ f = null ∨
      ∃ variant, NamesType sec variant ∧ Describes sec variant f) ∧
    ∀ other variant, NamesType sec variant → NamesType other variant →
      (∀ key ∈ variant.uses, other.entry? key = sec.entry? key) → ofSection other = ofSection sec := by
  refine ⟨fun e => kind_eq_invalidSection_iff, ofSection_of_unwritten, exists_ofSection_iff,
    fun f => describes_of_ofSection, ?_⟩
  intro other variant hsec hother huses
  rw [ofSection_of_namesType hsec, ofSection_of_namesType hother, ofVariant_congr huses]

/-- Two keys of the match have one text, the type is in capitals, and what only names filters use is malformed. -/
theorem section_grammar_colliding :
    let m : List (Value × Value) := [(.int 1, .bool true), (.str "1", .int 2)]
    let sec : Value := .mapping [(.str "type", .str "Service-FOR"), (.str "match", .mapping m)]
    let other : Value :=
      .mapping [(.str "names", .int 5), (.str "match", .mapping m), (.str "type", .str "service_for")]
    ∃ target, ofSection sec = .ok (serviceFor target) ∧ ofSection other = .ok (serviceFor target) ∧
      (.str "1", .str "2") ∈ target ∧ (.str "1", .str "true") ∉ target := by
  intro m sec other
  have type : NamesType sec .serviceFor := ⟨rfl, rfl, by decide⟩
  have type' : NamesType other .serviceFor := ⟨rfl, rfl, by decide⟩
  have fits : Fits sec .serviceFor := ⟨m, .mapping rfl rfl, by decide, by decide⟩
  obtain ⟨-, -, accepted, described, unused⟩ := section_grammar sec
  obtain ⟨f, hf⟩ := accepted.mpr (.inr ⟨.serviceFor, type, fits⟩)
  have same : ofSection other = ofSection sec :=
    unused other .serviceFor type type' (List.forall_mem_singleton.mpr rfl)
  obtain ⟨hfalsy, -⟩ | ⟨variant, hvariant, hdescribes⟩ := described f hf
  · cases hfalsy
  · cases hvariant.unique type
    cases hdescribes with
    | @serviceFor m' target hm h =>
      cases hm.unique (.mapping (v := .mapping m) rfl rfl)
      have last : rendered? m "1" = some "2" := by decide +kernel
      refine ⟨target, hf, same.trans hf, (h.pairs "1" "2").mpr last, fun hmem => ?_⟩
      have first := (h.pairs "1" "true").mp hmem
      rw [last] at first
      exact absurd first (by decide)

/-- The digits of a number spell a name. -/
theorem wellSpelled_digits {n : Nat} : Identity.WellSpelled (Value.int n).text := by
  have digits : (Value.int n).text.toList = Nat.toDigits 10 n := by
    have step : (Value.int n).text = n.repr := rfl
    rw [step, Nat.repr, String.toList_ofList]
  have hslash : '/' ∉ (Value.int n).text.toList := by
    rw [digits]
    intro hmem
    have hdigit : '/'.isDigit = true := Nat.isDigit_of_mem_toDigits (by decide) (by decide) hmem
    cases hdigit
  rw [Identity.wellSpelled_plain hslash]
  intro hempty
  rw [hempty] at digits
  exact Nat.toDigits_ne_nil digits.symm

section Textless
variable {v : Value}

theorem ofSection_typed (hv : v.hasText = false) :
    ofSection (.mapping [(.str "type", v)]) = .error (.text .tooManyDigits) :=
  ofSection_of_unwritten (.type rfl hv)

theorem ofSection_named (hv : v.hasText = false) :
    ∃ e, ofSection (.mapping [(.str "type", .str "nsname"), (.str "names", .list [v])]) = .error e ∧
      e.kind = .invalidSection := by
  have names : NamesType (.mapping [(.str "type", .str "nsname"), (.str "names", .list [v])]) .names :=
    ⟨rfl, rfl, Variant.ofName?_eq_some_iff.mp (@Variant.ofName?_name .names)⟩
  have items : NamesOf (.mapping [(.str "type", .str "nsname"), (.str "names", .list [v])]) [v] :=
    .list (v := .list [v]) rfl rfl
  have refused : ofTexts [v] = .error (.text .tooManyDigits) := by
    rw [ofTexts, mapM_cons_of_error (Value.text?_of_not_hasText hv)]
  rw [ofSection_of_namesType names, ofVariant, sectionNames_of_namesOf items, refused]
  exact ⟨_, rfl, rfl⟩

end Textless

/-- An integer without a text. As a type it names no variant, but it is not refused as an invalid section; in a match
it is a scalar, and refused the same way; and among names, where its digits would spell an identity, it is refused as
an invalid section. -/
theorem section_grammar_textless :
    ofSection (.mapping [(.str "type", Value.textless)]) = .error (.text .tooManyDigits) ∧
      (Failure.filter (.text .tooManyDigits)).kind ≠ .invalidSection ∧
      Flat [(.str "a", Value.textless)] ∧
      ofSection (matching .labels [(.str "a", Value.textless)]) = .error (.text .tooManyDigits) ∧
      Identity.WellSpelled Value.textless.text ∧
      ∃ e, ofSection (.mapping [(.str "type", .str "nsname"), (.str "names", .list [Value.textless])]) = .error e ∧
        e.kind = .invalidSection := by
  have unwritten : Value.textless.hasText = false := Value.hasText_textless
  have flat : Flat [(.str "a", Value.textless)] := List.forall_mem_singleton.mpr ⟨rfl, rfl⟩
  have spelled : Identity.WellSpelled Value.textless.text := @wellSpelled_digits (Nat.pow 10 Decimal.mostDigits)
  refine ⟨ofSection_typed unwritten, by decide, flat, ?_, spelled, ofSection_named unwritten⟩
  rw [ofSection_matching, ofVariant, sectionTarget_matching, targetOf_of_flat flat Value.hasTextEntries_textless]
  rfl

end Grammar

end Filter

end ObjectWatch
