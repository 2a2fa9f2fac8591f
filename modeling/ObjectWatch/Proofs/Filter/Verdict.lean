import ObjectWatch.Proofs.Manifest

/-! What comes of asking a filter about a value. It fails only where a part that the filter has to read has no text;
    where it does not fail, it is the answer that the filter gives of all values. The objects that manifests are
    turned into consist of texts, so a filter can be asked about each of them. -/

namespace ObjectWatch

/-- When a filter passes a value, and when it fails for want of a text. -/
structure Filter.Decides (f : Filter) (v : Value) (passes fails : Prop) : Prop where
  passes : f.verdict v = .ok true ↔ passes
  fails : f.verdict v = .error .tooManyDigits ↔ fails

namespace Value

/-- Nothing that is read of a value is without a text: what the program reads is what is there. -/
structure Readable (v : Value) : Prop where
  identity : v.readIdentity = .ok v.identity?
  labels : v.readLabels = .ok v.labels
  selector : v.readSelector = .ok v.selector?

section Verdicts
variable {v m o : Value} {f : Filter} {b : Bool} {t : List (Value × Value)} {id? : Option Identity}
  {selector? : Option (List (Value × Value))} {name ns : String}

theorem labels_of_readLabels (h : v.readLabels = .ok t) : v.labels = t := by
  cases v <;> first | exact Except.ok.inj h | exact (labelTable?_eq_ok_iff.mp h).2

theorem selector?_of_readSelector (h : v.readSelector = .ok selector?) : v.selector? = selector? := by
  have untyped (h : (if v.isService then (((v.get "spec").get "selector").labelTable?).map some else .ok none) =
      .ok selector?) : (if v.isService then some ((v.get "spec").get "selector").labelTable else none) = selector? := by
    split at h
    · rename_i hservice
      obtain ⟨t, ht, rfl⟩ := map_eq_ok_iff.mp h
      rw [if_pos hservice, (labelTable?_eq_ok_iff.mp ht).2]
    · rename_i hservice
      rw [if_neg hservice]
      exact Except.ok.inj h
  cases v <;> first | exact untyped h | exact Except.ok.inj h

theorem identity?_of_readIdentity (h : v.readIdentity = .ok id?) : v.identity? = id? := by
  unfold readIdentity at h
  unfold identity?
  dsimp only at h ⊢
  split at h
  · rename_i hname
    simp only [bind_eq_ok_iff, text?_eq_ok_iff, text_orElse] at h
    obtain ⟨ns, ⟨-, rfl⟩, name, ⟨-, rfl⟩, hid⟩ := h
    rw [if_pos hname]
    exact Except.ok.inj hid
  · rename_i hname
    rw [if_neg hname]
    exact Except.ok.inj h

/-- What a filter says of a value is whether it passes it, if it says anything. -/
theorem accept_of_verdict (h : f.verdict v = .ok b) : f.accept v = b := by
  cases f with
  | null => exact Except.ok.inj h
  | all => exact Except.ok.inj h
  | labels target =>
    rw [Filter.verdict] at h
    rw [Filter.accept]
    cases hempty : target.isEmpty with
    | true =>
      rw [hempty] at h
      exact Except.ok.inj h
    | false =>
      rw [hempty, if_neg Bool.false_ne_true] at h
      obtain ⟨t, ht, rfl⟩ := map_eq_ok_iff.mp h
      rw [labels_of_readLabels ht, Bool.false_or]
  | serviceFor target =>
    obtain ⟨selector?, hselector, rfl⟩ := map_eq_ok_iff.mp h
    rw [Filter.accept, selector?_of_readSelector hselector]
  | names ids =>
    obtain ⟨id?, hid, rfl⟩ := map_eq_ok_iff.mp h
    rw [Filter.accept, identity?_of_readIdentity hid]

/-- A filter that can read all that there is to read gives its answer. -/
theorem Readable.verdict (h : v.Readable) : f.verdict v = .ok (f.accept v) := by
  cases f with
  | null => rfl
  | all => rfl
  | labels target =>
    rw [Filter.verdict, Filter.accept, h.labels]
    cases target.isEmpty <;> rfl
  | serviceFor target =>
    rw [Filter.verdict, Filter.accept, h.selector]
    rfl
  | names ids =>
    rw [Filter.verdict, Filter.accept, h.identity]
    rfl

theorem readIdentity_of_texts (hname : ((v.get "metadata").get "name").hasText = true)
    (hns : (((v.get "metadata").get "namespace").orElse (str "")).hasText = true) :
    v.readIdentity = .ok v.identity? := by
  have read : ∃ id?, v.readIdentity = .ok id? := by
    unfold readIdentity
    dsimp only
    split
    · rw [text?_of_hasText hns, text?_of_hasText hname]
      exact ⟨_, rfl⟩
    · exact ⟨_, rfl⟩
  obtain ⟨id?, hid⟩ := read
  rw [hid, identity?_of_readIdentity hid]

theorem OfTexts.readable (hv : OfTexts v) : v.Readable := by
  cases hv with
  | object =>
    refine ⟨readIdentity_of_texts rfl hasText_orElse_str, rfl, ?_⟩
    simp only [readSelector, selector?]
    split <;> rfl
  | service => exact ⟨readIdentity_of_texts rfl hasText_orElse_str, rfl, rfl⟩

/-- The objects that manifests are turned into consist of texts. -/
theorem readable_of_ofManifest (h : ofManifest m = .ok o) : o.Readable :=
  (typed_of_ofManifest h).ofTexts.readable

end Verdicts

end Value

end ObjectWatch
