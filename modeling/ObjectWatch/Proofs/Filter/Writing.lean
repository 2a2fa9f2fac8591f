import ObjectWatch.Proofs.Filter.Content
import ObjectWatch.Proofs.Filter.Grammar

/-! Filters written as sections and read again. What a section describes is in text form already: a target maps
    texts to texts, which are their own text and label, and an identity has a text that spells it. So the section
    that is written for it describes the filter itself; where the identities stand in another order, or more than
    once, an equal one. -/

namespace ObjectWatch

namespace Textual
variable {t : List (Value × Value)}

theorem flat (ht : Textual t) : Filter.Flat t := by
  intro p hp
  obtain ⟨k, v, rfl⟩ := ht.texts p hp
  exact ⟨rfl, rfl⟩

/-- A target of texts is fit for a match. -/
theorem fits (ht : Textual t) : Filter.Flat t ∧ Value.hasTextEntries t = true :=
  ⟨ht.flat, Value.entriesHaveTexts_of_textual ht⟩

end Textual

namespace Filter

/-- A filter that can be written as a section: its target, if it has one, maps texts to texts, and its identities are
spelled by their texts. -/
structure Writable (f : Filter) : Prop where
  texts : f.HasTexts
  spelled : ∀ ids, f = names ids → ∀ id ∈ ids, Identity.SpelledBy id.text id

/-- No identity of a filter has a `/` in its namespace or in its name. -/
def SlashFree (f : Filter) : Prop :=
  ∀ ids, f = names ids → ∀ id ∈ ids, '/' ∉ id.ns.toList ∧ '/' ∉ id.name.toList

/-- The sections that may be written for a filter. Its identities may stand there in any order, and each as often
as one likes. -/
inductive WrittenAs : Filter → Value → Prop where
  | plain {f : Filter} : WrittenAs f f.toSection
  | names {ids listed : List Identity} (h : ∀ id, id ∈ listed ↔ id ∈ ids) :
    WrittenAs (names ids) (names listed).toSection

section Writing
variable {sec out : Value} {f g : Filter} {target : List (Value × Value)} {ids listed : List Identity}

theorem Writable.of_section (h : ofSection sec = .ok f) : f.Writable := by
  obtain ⟨-, rfl⟩ | ⟨variant, -, hdescribes⟩ := describes_of_ofSection h
  · exact ⟨nofun, nofun⟩
  · cases hdescribes with
    | null => exact ⟨nofun, nofun⟩
    | all => exact ⟨nofun, nofun⟩
    | labels hm hrenders =>
      refine ⟨?_, nofun⟩
      rintro _ ⟨⟩
      exact hrenders.textual
    | serviceFor hm hrenders =>
      refine ⟨?_, nofun⟩
      rintro _ ⟨⟩
      exact hrenders.textual
    | names hitems hids =>
      refine ⟨nofun, ?_⟩
      rintro _ ⟨⟩ id hid
      obtain ⟨item, hspelled⟩ := exists_forall₂_iff.mp ⟨_, hids.flip⟩ id hid
      exact Identity.SpelledBy.self hspelled

theorem Writable.of_made (hf : Made f) (hslash : f.SlashFree) : f.Writable where
  texts := hf.hasTexts
  spelled := by
    rintro ids rfl id hid
    obtain ⟨hns, hname⟩ := hslash ids rfl id hid
    exact Identity.spelledBy_text (hf.named id hid) hns hname

/-! ### Reading what was written -/

theorem namesType_toSection : NamesType f.toSection f.variant := by
  have name (variant : Variant) : Variant.canonical variant.name = variant.name :=
    Variant.ofName?_eq_some_iff.mp Variant.ofName?_name
  cases f <;> exact ⟨rfl, rfl, name _⟩

theorem ofVariant_toSection (hf : f.Writable) : ofVariant f.toSection f.variant = .ok f := by
  cases f with
  | null => rfl
  | all => rfl
  | labels t =>
    have ht := hf.texts t rfl
    exact map_sectionTarget_eq_ok_iff.mpr ⟨t, .mapping rfl rfl, ht.fits, congrArg labels (Value.labelTable_of_textual ht)⟩
  | serviceFor t =>
    have ht := hf.texts t rfl
    exact map_sectionTarget_eq_ok_iff.mpr ⟨t, .mapping rfl rfl, ht.fits, congrArg serviceFor (Value.labelTable_of_textual ht)⟩
  | names ids =>
    have hitems : NamesOf (names ids).toSection (ids.map fun id => .str id.text) := .list (v := .list _) rfl rfl
    refine sectionNames_eq_ok_iff.mpr ⟨_, ids, hitems, ⟨?_, ?_⟩, rfl⟩
    · rw [List.forall_mem_map]
      exact fun _ _ => rfl
    · rw [List.forall₂_map_left_iff, List.forall₂_same]
      exact hf.spelled ids rfl

/-- The section that is written for a filter describes this filter. -/
theorem ofSection_toSection (hf : f.Writable) : ofSection f.toSection = .ok f := by
  rw [ofSection_of_namesType namesType_toSection, ofVariant_toSection hf]

theorem WrittenAs.read (h : WrittenAs f out) (hf : f.Writable) : ∃ g, ofSection out = .ok g ∧ g.equals f = true := by
  cases h with
  | plain => exact ⟨f, ofSection_toSection hf, equals_refl equalOn_isText hf.texts.toOver⟩
  | names hsame =>
    have listed : (Filter.names _).Writable := ⟨nofun, by
      rintro _ ⟨⟩ id hid
      exact hf.spelled _ rfl id ((hsame id).mp hid)⟩
    exact ⟨_, ofSection_toSection listed, names_equals_iff.mpr hsame⟩

/-- A filter that a section describes, or that is made of texts and of identities without a `/`, is written as a
section that describes it; and every section that may be written for it describes an equal filter. -/
theorem written_filters_read_back (hf : (∃ sec, ofSection sec = .ok f) ∨ Made f ∧ f.SlashFree) :
    ofSection f.toSection = .ok f ∧
      ∀ out, WrittenAs f out → ∃ g, ofSection out = .ok g ∧ g.equals f = true := by
  have writable : f.Writable := by
    rcases hf with ⟨sec, hsec⟩ | ⟨hmade, hslash⟩
    · exact .of_section hsec
    · exact .of_made hmade hslash
  exact ⟨ofSection_toSection writable, fun out hout => hout.read writable⟩

/-- An identity with a slash in front of it and a number are among the names, which are then written in another
order, one of them twice. -/
theorem written_filters_read_back_reordered :
    let sec : Value := .mapping [(.str "type", .str "NSName"), (.str "names", .list [.str "/a", .str "ns/b", .int 1])]
    let f : Filter := .names [⟨"", "a"⟩, ⟨"ns", "b"⟩, ⟨"", "1"⟩]
    let out : Value :=
      .mapping [(.str "type", .str "nsname"), (.str "names", .list [.str "1", .str "ns/b", .str "a", .str "1"])]
    ofSection sec = .ok f ∧ ∃ g, ofSection out = .ok g ∧ g.equals f = true := by
  intro sec f out
  have type : NamesType sec .names := ⟨rfl, rfl, by decide⟩
  have items : NamesOf sec [.str "/a", .str "ns/b", .int 1] := .list (v := .list _) rfl rfl
  have spelled : Identity.parse? "/a" = some ⟨"", "a"⟩ ∧ Identity.parse? "ns/b" = some ⟨"ns", "b"⟩ ∧
      Identity.parse? (Value.int 1).text = some ⟨"", "1"⟩ := by
    decide +kernel
  simp only [Identity.parse?_eq_some_iff] at spelled
  have described : ofSection sec = .ok f := by
    rw [ofSection_of_namesType type]
    exact sectionNames_eq_ok_iff.mpr
      ⟨_, _, items, ⟨by decide, .cons spelled.1 (.cons spelled.2.1 (.cons spelled.2.2 .nil))⟩, rfl⟩
  have written : WrittenAs f out := @WrittenAs.names _ [⟨"", "1"⟩, ⟨"ns", "b"⟩, ⟨"", "a"⟩, ⟨"", "1"⟩] (by grind)
  exact ⟨described, (written_filters_read_back (.inl ⟨sec, described⟩)).2 out written⟩

end Writing

end Filter

end ObjectWatch
