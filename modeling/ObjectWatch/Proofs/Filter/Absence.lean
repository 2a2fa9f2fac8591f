import ObjectWatch.Proofs.Filter.Writing

/-! Keys of a section that are left out, and keys that are given as null. The reader of the match takes null for
    absence; the reader of the names asks for a list, and the type is read by its text, which null has too. So a
    null makes no difference but in these two places, where a section that describes a filter without the key is
    refused with it. -/

namespace ObjectWatch

namespace Value

/-- The entries of a value with one more, in the place of the one at that key if there is one. -/
def withEntry (v : Value) (key : String) (w : Value) : Value :=
  .mapping (Table.put (.str key) w (v.entries?.getD []))

section Entries
variable {v w : Value} {key key' : String} {t : List (Value × Value)}

theorem get?_put_str :
    Table.get? (str key') (Table.put (str key) w t) = if key' = key then some w else Table.get? (str key') t := by
  induction t with
  | nil =>
    rw [Table.put, Table.get?_cons, str_beq_str]
    exact if_congr beq_iff_eq rfl rfl
  | cons e rest ih =>
    rw [Table.put]
    split
    · rename_i hkey
      rw [Table.get?_cons, Table.get?_cons, str_beq.mp hkey, str_beq_str]
      by_cases hsame : key' = key <;> simp [hsame]
    · rename_i hkey
      rw [Table.get?_cons, Table.get?_cons, ih]
      -- The entry in front has another key than the one that is put in.
      by_cases hsame : key' = key
      · rw [if_pos hsame, if_pos hsame, if_neg (hsame ▸ hkey)]
      · rw [if_neg hsame, if_neg hsame]

@[simp] theorem isMapping_withEntry : (v.withEntry key w).isMapping = true := rfl

theorem read_withEntry :
    Value.entry? (v.withEntry key w) key' = if key' = key then some w else v.entry? key' := by
  have read : Value.entry? (v.withEntry key w) key' =
    Table.get? (str key') (Table.put (str key) w (v.entries?.getD [])) := rfl
  rw [read, get?_put_str, entry?]
  cases v.entries? <;> rfl

/-- What is read of a mapping at a key is its entry there. -/
theorem get_of_isMapping (hv : v.isMapping = true) : v.get key = (v.entry? key).getD .null := by
  obtain ⟨entries, hentries⟩ := Option.isSome_iff_exists.mp hv
  simp only [get, entry?, hentries, Option.bind_some]

theorem read_withEntry_self : Value.entry? (v.withEntry key w) key = some w := by
  rw [read_withEntry, if_pos rfl]

theorem read_withEntry_of_ne (h : key' ≠ key) : Value.entry? (v.withEntry key w) key' = v.entry? key' := by
  rw [read_withEntry, if_neg h]

end Entries

end Value

namespace Filter

/-- The keys that a section may leave out. -/
def optionalKeys : List String := ["type", "match", "names"]

/-- Two readings of a section come to the same: equal filters, or refusals of one kind. -/
def SameOutcome : Except SectionError Filter → Except SectionError Filter → Prop
  | .ok f, .ok g => f.equals g = true
  | .error e, .error e' => e.kind = e'.kind
  | _, _ => False

/-- The places where a section is read otherwise with a null than without the key. -/
def TellsNull (sec : Value) (key : String) : Prop :=
  key = "type" ∨ key = "names" ∧ NamesType sec .names

section Absence
variable {sec other : Value} {key : String} {f : Filter}

theorem SameOutcome.refl (sec : Value) : SameOutcome (ofSection sec) (ofSection sec) := by
  cases h : ofSection sec with
  | error e => exact rfl
  | ok f => exact equals_refl equalOn_isText (Writable.of_section h).texts.toOver

/-- A mapping that names no type that there is is refused for it. -/
theorem ofSection_of_no_type (hsec : sec.isMapping = true) (htype : (typeOf sec).hasText = true)
    (h : ∀ variant, ¬ NamesType sec variant) : ofSection sec = .error (.unsupported (sec.get "type").text) := by
  have unnamed : Variant.ofName? (typeText sec) = none :=
    Option.eq_none_iff_forall_ne_some.mpr fun variant hname =>
      h variant ⟨hsec, htype, Variant.ofName?_eq_some_iff.mp hname⟩
  have given : sec.truthy = true := by
    refine Bool.of_not_eq_false fun hfalsy => h .null ⟨hsec, htype, ?_⟩
    rw [typeText, typeOf_of_not_truthy hfalsy hsec]
    exact Variant.ofName?_eq_some_iff.mp Variant.ofName?_name
  rw [ofSection_of_truthy given hsec htype, unnamed]

/-- Two mappings of one type, of which a variant that the type may name makes the same, are read alike. -/
theorem ofSection_congr (hsec : sec.isMapping = true) (hother : other.isMapping = true)
    (htype : other.entry? "type" = sec.entry? "type")
    (h : ∀ variant, NamesType sec variant → ofVariant other variant = ofVariant sec variant) :
    ofSection other = ofSection sec := by
  have type : typeOf other = typeOf sec := by rw [typeOf, typeOf, htype]
  have text : typeText other = typeText sec := by rw [typeText, typeText, type]
  have names (variant : Variant) : NamesType other variant ↔ NamesType sec variant :=
    ⟨fun hn => ⟨hsec, type ▸ hn.written, text ▸ hn.name⟩,
      fun hn => ⟨hother, type.symm ▸ hn.written, text.symm ▸ hn.name⟩⟩
  by_cases hvariant : ∃ variant, NamesType sec variant
  · obtain ⟨variant, hvariant⟩ := hvariant
    rw [ofSection_of_namesType hvariant, ofSection_of_namesType ((names variant).mpr hvariant), h variant hvariant]
  · rw [not_exists] at hvariant
    have hvariant' (variant : Variant) : ¬ NamesType other variant := mt (names variant).mp (hvariant variant)
    cases hwritten : (typeOf sec).hasText with
    | false => rw [ofSection_of_no_text hsec hwritten, ofSection_of_no_text hother (type.symm ▸ hwritten)]
    | true =>
      have hget : other.get "type" = sec.get "type" := by
        rw [Value.get_of_isMapping hother, Value.get_of_isMapping hsec, htype]
      rw [ofSection_of_no_type hsec hwritten hvariant, ofSection_of_no_type hother (type.symm ▸ hwritten) hvariant',
        hget]

/-! ### Nulls -/

theorem ofVariant_null_match (habsent : sec.entry? "match" = none) {variant : Variant} :
    ofVariant (sec.withEntry "match" .null) variant = ofVariant sec variant := by
  have target : sectionTarget (sec.withEntry "match" .null) = sectionTarget sec := by
    rw [sectionTarget, sectionTarget, Value.read_withEntry_self, habsent]
    rfl
  have names : sectionNames (sec.withEntry "match" .null) = sectionNames sec := by
    rw [sectionNames, sectionNames, Value.read_withEntry_of_ne (by decide)]
  cases variant with
  | null => rfl
  | all => rfl
  | labels => rw [ofVariant, ofVariant, target]
  | serviceFor => rw [ofVariant, ofVariant, target]
  | names => exact names

/-- A null in the place of the match makes no difference. -/
theorem ofSection_null_match (hsec : sec.isMapping = true) (habsent : sec.entry? "match" = none) :
    ofSection (sec.withEntry "match" .null) = ofSection sec :=
  ofSection_congr hsec Value.isMapping_withEntry (Value.read_withEntry_of_ne (by decide)) fun _ _ =>
    ofVariant_null_match habsent

/-- A null in the place of the names makes no difference to a section that lists none. -/
theorem ofSection_null_names (hsec : sec.isMapping = true) (hnames : ¬ NamesType sec .names) :
    ofSection (sec.withEntry "names" .null) = ofSection sec := by
  refine ofSection_congr hsec Value.isMapping_withEntry (Value.read_withEntry_of_ne (by decide)) fun variant hv => ?_
  refine ofVariant_congr fun key hkey => Value.read_withEntry_of_ne ?_
  rintro rfl
  cases variant <;> first | exact hnames hv | exact absurd hkey (by decide)

/-- Where the names are listed they are a list or absent, and null is neither. -/
theorem ofSection_names_refused (h : NamesType sec .names) (habsent : sec.entry? "names" = none) :
    ofSection sec = .ok (names []) ∧ ofSection (sec.withEntry "names" .null) = .error .namesNotList := by
  have type : NamesType (sec.withEntry "names" .null) .names := by
    have kept : typeOf (sec.withEntry "names" .null) = typeOf sec := by
      rw [typeOf, typeOf, Value.read_withEntry_of_ne (by decide)]
    refine ⟨rfl, kept ▸ h.written, ?_⟩
    rw [typeText, kept]
    exact h.name
  rw [ofSection_of_namesType h, ofSection_of_namesType type]
  refine ⟨sectionNames_eq_ok_iff.mpr ⟨[], [], .absent habsent, ⟨List.forall_mem_nil _, .nil⟩, rfl⟩, ?_⟩
  rw [ofVariant, sectionNames, Value.read_withEntry_self]
  rfl

/-- A section without a type passes everything, and null is the text of no type. -/
theorem ofSection_type_refused (hsec : sec.isMapping = true) (habsent : sec.entry? "type" = none) :
    ofSection sec = .ok null ∧ ofSection (sec.withEntry "type" .null) = .error (.unsupported "None") := by
  have untyped : NamesType sec .null := by
    have type : typeOf sec = .str Variant.null.name := by
      rw [typeOf, habsent]
      rfl
    refine ⟨hsec, type ▸ rfl, ?_⟩
    rw [typeText, type]
    exact Variant.ofName?_eq_some_iff.mp Variant.ofName?_name
  have type : typeOf (sec.withEntry "type" .null) = .null := by
    rw [typeOf, Value.read_withEntry_self]
    rfl
  have written : (typeOf (sec.withEntry "type" .null)).hasText = true := by
    rw [type]
    rfl
  have text : typeText (sec.withEntry "type" .null) = "None" := by
    rw [typeText, type]
    rfl
  have none (variant : Variant) : ¬ NamesType (sec.withEntry "type" .null) variant := by
    intro hvariant
    have hname := hvariant.name
    rw [text] at hname
    cases variant <;> exact absurd hname (by decide)
  rw [ofSection_of_namesType untyped, ofSection_of_no_type rfl written none, Value.get_of_isMapping rfl,
    Value.read_withEntry_self]
  exact ⟨rfl, rfl⟩

/-- A null in the place of an optional key is told from its absence, and then refused, or it makes no difference. -/
theorem ofSection_null_cases (hsec : sec.isMapping = true) (hkey : key ∈ optionalKeys)
    (habsent : sec.entry? key = none) :
    TellsNull sec key ∧ (∃ f, ofSection sec = .ok f) ∧
        (∃ e, ofSection (sec.withEntry key .null) = .error e ∧ e.kind = .invalidSection) ∨
      ¬ TellsNull sec key ∧ ofSection (sec.withEntry key .null) = ofSection sec := by
  simp only [optionalKeys, List.mem_cons, List.not_mem_nil, or_false] at hkey
  rcases hkey with rfl | rfl | rfl
  · obtain ⟨hok, herror⟩ := ofSection_type_refused hsec habsent
    exact .inl ⟨.inl rfl, ⟨_, hok⟩, _, herror, rfl⟩
  · refine .inr ⟨?_, ofSection_null_match hsec habsent⟩
    rintro (h | ⟨h, -⟩) <;> exact absurd h (by decide)
  · by_cases hnames : NamesType sec .names
    · obtain ⟨hok, herror⟩ := ofSection_names_refused hnames habsent
      exact .inl ⟨.inr ⟨rfl, hnames⟩, ⟨_, hok⟩, _, herror, rfl⟩
    · refine .inr ⟨?_, ofSection_null_names hsec hnames⟩
      rintro (h | ⟨-, h⟩)
      · exact absurd h (by decide)
      · exact hnames h

/-- A key that a section leaves out and the same key given as null come to the same exactly if the key is not that of
the type, nor that of the names in a section that lists names. In these two cases the section describes a filter
without the key and is refused as an invalid one with it. -/
theorem null_counts_as_absent_iff (hsec : sec.isMapping = true) (hkey : key ∈ optionalKeys)
    (habsent : sec.entry? key = none) :
    (SameOutcome (ofSection (sec.withEntry key .null)) (ofSection sec) ↔ ¬ TellsNull sec key) ∧
    (TellsNull sec key → (∃ f, ofSection sec = .ok f) ∧
      ∃ e, ofSection (sec.withEntry key .null) = .error e ∧ e.kind = .invalidSection) := by
  rcases ofSection_null_cases hsec hkey habsent with ⟨htells, ⟨f, hf⟩, e, he, hkind⟩ | ⟨htells, hsame⟩
  · refine ⟨iff_of_false ?_ (not_not_intro htells), fun _ => ⟨⟨f, hf⟩, e, he, hkind⟩⟩
    rw [hf, he]
    exact id
  · exact ⟨iff_of_true (hsame ▸ .refl sec) htells, fun h => absurd h htells⟩

/-- Names that are null make no difference to a labels section, but they do to one that lists names. -/
theorem null_counts_as_absent_iff_names :
    let labelled : Value := .mapping [(.str "type", .str "Labels"), (.str "match", .mapping [(.str "app", .int 1)])]
    let listing : Value := .mapping [(.str "type", .str "NSName")]
    SameOutcome (ofSection (labelled.withEntry "names" .null)) (ofSection labelled) ∧
      ¬ SameOutcome (ofSection (listing.withEntry "names" .null)) (ofSection listing) := by
  intro labelled listing
  have named : "names" ∈ optionalKeys := by decide
  have type : NamesType listing .names := ⟨rfl, rfl, by decide⟩
  have other : ¬ NamesType labelled .names := fun h =>
    absurd (h.unique ⟨rfl, rfl, by decide⟩ : Variant.names = .labels) nofun
  constructor
  · refine (null_counts_as_absent_iff rfl named rfl).1.mpr ?_
    rintro (h | ⟨-, h⟩)
    · exact absurd h (by decide)
    · exact other h
  · exact fun h => (null_counts_as_absent_iff rfl named rfl).1.mp h (.inr ⟨rfl, type⟩)

/-- Names that are null are refused, and so is a type that is null; without them either section describes a filter. -/
theorem null_refused_where_absence_is_not :
    let listing : Value := .mapping [(.str "type", .str "nsname")]
    let empty : Value := .mapping []
    ¬ SameOutcome (ofSection (listing.withEntry "names" .null)) (ofSection listing) ∧
      ¬ SameOutcome (ofSection (empty.withEntry "type" .null)) (ofSection empty) := by
  intro listing empty
  obtain ⟨listed, listedNull⟩ := @ofSection_names_refused listing ⟨rfl, rfl, by decide⟩ rfl
  obtain ⟨untyped, untypedNull⟩ := @ofSection_type_refused empty rfl rfl
  rw [listed, listedNull, untyped, untypedNull]
  exact ⟨id, id⟩

end Absence

end Filter

end ObjectWatch
