import ObjectWatch.Proofs.Manifest.Reading

/-! What equal objects have in common. Equality compares the decoded values, and what is read off an object
    are texts: `1` and `true` are equal, and as labels they are `1` and `true`. So equal typed objects look the
    same, while equal manifests may hold a value in a disguise, and differ in nothing else that is read. -/

namespace ObjectWatch.Value

/-- A plain value that has distinct texts for keys, if it is a mapping. -/
inductive Keyed : Value → Prop where
  | mapping {entries : List (Value × Value)} (keys : (Table.keys entries).Nodup)
    (texts : ∀ k ∈ Table.keys entries, ∃ s, k = str s) : Keyed (mapping entries)
  | other {v : Value} (plain : Plain v) (hv : v.isMapping = false) : Keyed v

/-- A typed object, or a manifest with distinct texts for keys wherever something is read. -/
inductive Legible : Value → Prop where
  | typed {v : Value} (h : v.isTyped = true) : Legible v
  | manifest {v : Value} (h : v.isMapping = true) (top : Keyed v) (metadata : Keyed (v.get "metadata"))
    (labels : Keyed ((v.get "metadata").get "labels")) (spec : Keyed (v.get "spec"))
    (selector : Keyed ((v.get "spec").get "selector")) : Legible v

/-- Two values have equal labels, and equal selectors or none. -/
structure SameLook (v w : Value) : Prop where
  labels : (mapping v.labels == mapping w.labels) = true
  selector : Option.Rel (fun s t => (mapping s == mapping t) = true) v.selector? w.selector?

/-- Under some key two mappings hold equal values with different texts. -/
def Disguised (v w : Value) : Prop :=
  ∃ key a b, v.entry? key = some a ∧ w.entry? key = some b ∧ (a == b) = true ∧ a.label ≠ b.label

/-- Two manifests that hold a label or a part of the selector in different disguises. -/
structure DisguisedParts (v w : Value) : Prop where
  left : v.isMapping = true
  right : w.isMapping = true
  part : Disguised ((v.get "metadata").get "labels") ((w.get "metadata").get "labels") ∨
    Disguised ((v.get "spec").get "selector") ((w.get "spec").get "selector")

variable {v w : Value}

section Mappings
variable {key : String} {entries es fs : List (Value × Value)}

theorem mapping_beq_mapping : (mapping es == mapping fs) = true ↔ es.length = fs.length ∧
    ∀ e ∈ es, ∃ b, Table.get? e.1 fs = some b ∧ (e.2 == b) = true := by
  have step : (mapping es == mapping fs) = (es.length == fs.length && sameEntries fs es) := rfl
  rw [step, Bool.and_eq_true, beq_iff_eq, sameEntries_iff]

/-- Only a mapping is equal to a mapping. -/
theorem isMapping_of_beq (h : (mapping es == w) = true) : ∃ fs, w = mapping fs := by
  cases w <;> simp [BEq.beq, same, sameAtom, number?] at h ⊢

theorem isMapping_of_beq' (h : (v == mapping fs) = true) : ∃ es, v = mapping es := by
  cases v <;> simp [BEq.beq, same, sameAtom, number?] at h ⊢

theorem get?_str_eq_some_iff (h : (Table.keys entries).Nodup) :
    Table.get? (str key) entries = some v ↔ (str key, v) ∈ entries :=
  Table.get?_eq_some_iff_of_keys h fun _ _ => str_beq.trans eq_comm

/-- Equal mappings, the first one with distinct texts for keys, have the same keys. -/
theorem mem_keys_iff_of_beq (hes : (Table.keys es).Nodup) (htexts : ∀ k ∈ Table.keys es, ∃ s, k = str s)
    (h : (mapping es == mapping fs) = true) {k : Value} : k ∈ Table.keys es ↔ k ∈ Table.keys fs := by
  obtain ⟨hlength, hfound⟩ := mapping_beq_mapping.mp h
  have hsub : Table.keys es ⊆ Table.keys fs := by
    intro k hk
    obtain ⟨s, rfl⟩ := htexts k hk
    obtain ⟨a, ha⟩ := Table.mem_keys.mp hk
    obtain ⟨b, hb, -⟩ := hfound _ ha
    exact Table.mem_keys_of_mem (mem_of_get?_str hb)
  refine ((hes.subperm hsub).perm_of_length_le ?_).mem_iff
  simp [Table.keys, hlength]

/-- Equal mappings, the first one with distinct texts for keys, hold equal values under a text, or none. -/
theorem get?_rel_of_beq (key : String) (hes : (Table.keys es).Nodup) (htexts : ∀ k ∈ Table.keys es, ∃ s, k = str s)
    (h : (mapping es == mapping fs) = true) :
    Option.Rel (fun a b => (a == b) = true) (Table.get? (str key) es) (Table.get? (str key) fs) := by
  cases ha : Table.get? (str key) es with
  | some a =>
    obtain ⟨b, hb, hab⟩ := (mapping_beq_mapping.mp h).2 _ (mem_of_get?_str ha)
    rw [hb]
    exact .some hab
  | none =>
    cases hb : Table.get? (str key) fs with
    | none => exact .none
    | some b =>
      have hmem := (mem_keys_iff_of_beq hes htexts h).mpr (Table.mem_keys_of_mem (mem_of_get?_str hb))
      obtain ⟨a, ha'⟩ := Table.mem_keys.mp hmem
      rw [(get?_str_eq_some_iff hes).mpr ha'] at ha
      cases ha

end Mappings

/-! ### What is read off equal values -/

section Parts
variable {key : String} {entries : List (Value × Value)}

/-- Under every text equal values hold equal values. -/
theorem Keyed.get_beq (hv : Keyed v) (hw : Keyed w) (h : (v == w) = true) : (v.get key == w.get key) = true := by
  cases hv with
  | @mapping es hes htexts =>
    obtain ⟨fs, rfl⟩ := isMapping_of_beq h
    have hrel := get?_rel_of_beq key hes htexts h
    rw [get_of_entries rfl, get_of_entries rfl]
    generalize Table.get? (str key) es = a, Table.get? (str key) fs = b at hrel ⊢
    cases hrel with
    | none => rfl
    | some hab => exact hab
  | other hplain hmapping =>
    cases hw with
    | mapping =>
      obtain ⟨es, rfl⟩ := isMapping_of_beq' h
      cases hmapping
    | other hplain' hmapping' =>
      rw [hplain.get_eq_null hmapping, hplain'.get_eq_null hmapping']
      rfl

/-- The labels of a mapping with distinct texts for keys are its entries, with the label texts of the values. -/
theorem mem_labelTable (hkeys : (Table.keys entries).Nodup) (htexts : ∀ k ∈ Table.keys entries, ∃ s, k = str s)
    {pair : Value × Value} : pair ∈ (mapping entries).labelTable ↔
      ∃ key a, Table.get? (str key) entries = some a ∧ pair = (str key, str a.label) := by
  have hpairs : (Table.keys (entries.map fun e => (e.1.text, e.2.label))).Nodup := by
    rw [Table.keys, List.map_map]
    refine List.Nodup.of_map str ?_
    rw [List.map_map]
    have hsame : entries.map (str ∘ Prod.fst ∘ fun e => (e.1.text, e.2.label)) = Table.keys entries := by
      refine List.map_congr_left fun e he => ?_
      obtain ⟨s, hs⟩ := htexts e.1 (Table.mem_keys_of_mem he)
      simp [hs, text]
    rw [hsame]
    exact hkeys
  rw [labelTable_eq]
  simp only [entries?, Option.getD_some, Table.ofPairs_of_nodup hpairs, List.mem_map]
  constructor
  · rintro ⟨_, ⟨e, he, rfl⟩, rfl⟩
    obtain ⟨s, hs⟩ := htexts e.1 (Table.mem_keys_of_mem he)
    refine ⟨s, e.2, (get?_str_eq_some_iff hkeys).mpr (hs ▸ he), ?_⟩
    rw [texts, hs]
    rfl
  · rintro ⟨key, a, ha, rfl⟩
    exact ⟨_, ⟨_, mem_of_get?_str ha, rfl⟩, rfl⟩

theorem labelTable_of_not_mapping (h : v.isMapping = false) : v.labelTable = [] := by
  rw [labelTable, Option.isNone_iff_eq_none.mp (Option.isSome_eq_false_iff.mp h)]
  rfl

/-- Equal mappings give equal labels, unless a value is in disguise. -/
theorem Keyed.labelTable_beq (hv : Keyed v) (hw : Keyed w) (h : (v == w) = true) (hplain : ¬ Disguised v w) :
    (Value.mapping v.labelTable == Value.mapping w.labelTable) = true := by
  cases hv with
  | @mapping es hes htexts =>
    obtain ⟨fs, rfl⟩ := isMapping_of_beq h
    cases hw with
    | other _ hmapping => cases hmapping
    | mapping hfs htexts' =>
      refine (Filter.serviceFor_equals_iff labelTable_textual labelTable_textual).mpr fun pair => ?_
      rw [mem_labelTable hes htexts, mem_labelTable hfs htexts']
      refine exists_congr fun key => ?_
      have hlabel : ∀ a b, Table.get? (str key) es = some a → Table.get? (str key) fs = some b →
          (a == b) = true → a.label = b.label := fun a b ha hb hab =>
        not_not.mp fun hne => hplain ⟨key, a, b, ha, hb, hab, hne⟩
      have hrel := get?_rel_of_beq key hes htexts h
      generalize Table.get? (str key) es = x, Table.get? (str key) fs = y at hrel hlabel ⊢
      cases hrel with
      | none => simp
      | some hab => simp [hlabel _ _ rfl rfl hab]
  | other _ hmapping =>
    cases hw with
    | mapping =>
      obtain ⟨es, rfl⟩ := isMapping_of_beq' h
      cases hmapping
    | other _ hmapping' =>
      rw [labelTable_of_not_mapping hmapping, labelTable_of_not_mapping hmapping']
      rfl

/-- Equal values are of the kind of services together. -/
theorem isService_congr (h : (v.get "kind" == w.get "kind") = true) : v.isService = w.isService := by
  rw [Bool.eq_iff_iff, isService, isService, beq_str, beq_str]
  constructor
  · intro hv
    rw [hv] at h
    exact str_beq.mp h
  · intro hw
    rw [hw] at h
    exact beq_str.mp h

end Parts

/-! ### Equal objects -/

theorem get_kind_beq_of_typed (hv : v.isTyped = true) (h : (v == w) = true) :
    (v.get "kind" == w.get "kind") = true := by
  cases v with
  | object =>
    cases w with
    | object => exact (Bool.and_eq_true_iff.mp h).2
    | _ => cases h
  | service =>
    cases w with
    | service => exact (Bool.and_eq_true_iff.mp (Bool.and_eq_true_iff.mp h).1).2
    | _ => cases h
  | _ => cases hv

/-- Equal typed objects look the same. -/
theorem sameLook_of_typed (hv : v.isTyped = true) (h : (v == w) = true) : SameLook v w := by
  have hservice := isService_congr (get_kind_beq_of_typed hv h)
  cases v with
  | object =>
    cases w with
    | object =>
      have hlabels := (Bool.and_eq_true_iff.mp (Bool.and_eq_true_iff.mp h).1).2
      refine ⟨hlabels, ?_⟩
      rw [selector?, selector?, hservice]
      split
      · exact .some rfl
      · exact .none
      · rintro _ _ _ _ _ ⟨⟩
      · rintro _ _ _ _ _ ⟨⟩
    | _ => cases h
  | service =>
    cases w with
    | service =>
      obtain ⟨hparts, hselector⟩ := Bool.and_eq_true_iff.mp h
      have hlabels := (Bool.and_eq_true_iff.mp (Bool.and_eq_true_iff.mp hparts).1).2
      exact ⟨hlabels, .some hselector⟩
    | _ => cases h
  | _ => cases hv

/-- Equal manifests look the same, unless a label or a part of the selector is in disguise. -/
theorem sameLook_of_manifest (hm : v.isMapping = true) (hm' : w.isMapping = true) (hv : Legible v) (hw : Legible w)
    (h : (v == w) = true) (hplain : ¬ DisguisedParts v w) : SameLook v w := by
  have hv' := not_typed_of_isMapping hm
  have hw' := not_typed_of_isMapping hm'
  obtain ⟨hplabels, hpselector⟩ := not_or.mp fun part => hplain ⟨hm, hm', part⟩
  cases hv with
  | typed hv => cases hv.symm.trans hv'
  | manifest _ top metadata labels spec selector =>
    cases hw with
    | typed hw => cases hw.symm.trans hw'
    | manifest _ top' metadata' labels' spec' selector' =>
      have hservice : v.isService = w.isService := isService_congr (top.get_beq top' h)
      have hlabels := labels.labelTable_beq labels' (metadata.get_beq metadata' (top.get_beq top' h)) hplabels
      have hselector := selector.labelTable_beq selector' (spec.get_beq spec' (top.get_beq top' h)) hpselector
      refine ⟨?_, ?_⟩
      · rw [labels_of_not_typed hv', labels_of_not_typed hw']
        exact hlabels
      · rw [selector?_of_not_typed hv', selector?_of_not_typed hw', hservice]
        split
        · exact .some hselector
        · exact .none

/-- Equal objects look the same, unless they are manifests with a part in disguise. -/
theorem sameLook_or_disguised (hv : Legible v) (hw : Legible w) (h : (v == w) = true) :
    SameLook v w ∨ DisguisedParts v w := by
  by_cases hplain : DisguisedParts v w
  · exact .inr hplain
  · refine .inl ?_
    cases hv with
    | typed hv => exact sameLook_of_typed hv h
    | manifest hm top metadata labels spec selector =>
      -- Only a mapping is equal to a mapping.
      obtain ⟨es, rfl⟩ : ∃ es, v = mapping es := by
        cases top with
        | mapping => exact ⟨_, rfl⟩
        | other _ hmapping => cases hm.symm.trans hmapping
      obtain ⟨fs, rfl⟩ := isMapping_of_beq h
      exact sameLook_of_manifest rfl rfl (.manifest hm top metadata labels spec selector) hw h hplain

end ObjectWatch.Value
