import ObjectWatch.Proofs.Manifest.Reading

/-! The normal form of manifests. All parts of an object that a manifest is turned into are texts and tables of
    texts, which are their own text form. So the manifest that is written from these parts is turned into that
    very object, however the first one was put. -/

namespace ObjectWatch.Value

/-- The metadata of a typed object, as a manifest has them. -/
def metadataOf (name ns : Value) (labels : List (Value × Value)) : Value :=
  mapping [(str "name", name), (str "namespace", ns), (str "labels", mapping labels)]

/-- The manifest that is written from the parts of a typed object. Only a service has a specification. -/
def toManifest : Value → Value
  | object name ns labels kind => mapping [(str "kind", kind), (str "metadata", metadataOf name ns labels)]
  | service name ns labels kind selector =>
    mapping [(str "kind", kind), (str "metadata", metadataOf name ns labels),
      (str "spec", mapping [(str "selector", mapping selector)])]
  | v => v

/-- An object of the class of services, whatever its kind says. -/
def isServiceObject : Value → Bool
  | service .. => true
  | _ => false

/-- A typed object that has texts for its parts and tables of texts for its labels and its selector, a name that
is not empty, and the class that its kind asks for. -/
structure Normal (o : Value) : Prop where
  typed : o.isTyped = true
  name : ∃ s, (o.get "metadata").get "name" = str s ∧ s ≠ ""
  ns : ∃ s, (o.get "metadata").get "namespace" = str s
  kind : ∃ s, o.get "kind" = str s
  labels : Textual o.labels
  selector : ∀ selector, o.selector? = some selector → Textual selector
  service : o.isServiceObject = true ↔ o.get "kind" = str serviceKind

section Normal
variable {m o : Value}

/-! ### What a written manifest says -/

theorem text_orElse_str {s : String} : ((str s).orElse (str "")).text = s := by
  by_cases hs : s = "" <;> simp [orElse, truthy, text, hs]

theorem givenName_toManifest (ho : Typed o) : str o.toManifest.givenName = (o.get "metadata").get "name" := by
  cases ho <;> rfl

theorem givenNamespace_toManifest (ho : Typed o) :
    str o.toManifest.givenNamespace = (o.get "metadata").get "namespace" := by
  cases ho <;> exact congrArg str text_orElse_str

theorem givenKind_toManifest (ho : Typed o) : str o.toManifest.givenKind = o.get "kind" := by
  cases ho <;> exact congrArg str text_orElse_str

theorem givenLabels_toManifest (ho : Typed o) :
    ((o.toManifest.get "metadata").get "labels").labelTable = o.labels := by
  cases ho with
  | object hlabels _ => exact labelTable_of_textual hlabels
  | service hlabels _ => exact labelTable_of_textual hlabels

theorem isNamed_toManifest (ho : Typed o) (hname : ((o.get "metadata").get "name").truthy = true) :
    o.toManifest.isNamed = true := by
  cases ho <;> exact hname

/-- All parts of a typed object are texts or tables of texts, so all that is written of one has a text. -/
theorem partsHaveTexts_toManifest (ho : Typed o) : o.toManifest.partsHaveTexts = true := by
  have hkind := givenKind_toManifest ho
  rw [partsHaveTexts]
  simp only [Bool.and_eq_true, Bool.or_eq_true, bne_iff_ne]
  cases ho with
  | object hlabels hother =>
    refine ⟨⟨⟨⟨rfl, hasText_orElse_str⟩, entriesHaveTexts_of_textual hlabels⟩, hasText_orElse_str⟩, .inl (.inl ?_)⟩
    exact fun hservice => hother ((str.inj hkind).symm.trans hservice)
  | service hlabels hselector =>
    exact ⟨⟨⟨⟨rfl, hasText_orElse_str⟩, entriesHaveTexts_of_textual hlabels⟩, hasText_orElse_str⟩,
      .inr (entriesHaveTexts_of_textual hselector)⟩

/-- The manifest that is written from an object with a name is turned into that object. -/
theorem ofManifest_toManifest (ho : Typed o) (hname : ((o.get "metadata").get "name").truthy = true) :
    ofManifest o.toManifest = .ok o := by
  have hkind := givenKind_toManifest ho
  refine ofManifest_eq_ok_iff.mpr ⟨isNamed_toManifest ho hname, partsHaveTexts_toManifest ho, ?_⟩
  rw [typedForm, givenName_toManifest ho, givenNamespace_toManifest ho, givenLabels_toManifest ho]
  cases ho with
  | object _ hother =>
    rw [if_neg fun hservice => hother ((str.inj hkind).symm.trans hservice), hkind]
    rfl
  | service _ hselector =>
    rw [if_pos (str.inj hkind)]
    exact congrArg (fun t => service _ _ _ _ t) (labelTable_of_textual hselector)

/-! ### The object that a manifest is turned into -/

theorem name_of_ofManifest (hm : Plain m) (h : ofManifest m = .ok o) :
    ∃ s, (o.get "metadata").get "name" = str s ∧ s ≠ "" := by
  obtain ⟨-, -, hname, ho⟩ := ofManifest_cases h
  refine ⟨m.givenName, ?_, hm.get.get.text_ne_empty hname⟩
  rcases ho with ⟨-, rfl⟩ | ⟨-, rfl⟩ <;> rfl

theorem normal_of_ofManifest (hm : Plain m) (h : ofManifest m = .ok o) : Normal o := by
  have hname := name_of_ofManifest hm h
  cases typed_of_ofManifest h with
  | object hlabels hother =>
    refine ⟨rfl, hname, ⟨_, rfl⟩, ⟨_, rfl⟩, hlabels, fun selector hselector => ?_, ?_⟩
    · rw [selector?_object hother] at hselector
      cases hselector
    · exact iff_of_false nofun fun hkind => hother (str.inj hkind)
  | service hlabels hselector =>
    refine ⟨rfl, hname, ⟨_, rfl⟩, ⟨_, rfl⟩, hlabels, fun selector h => ?_, iff_of_true rfl rfl⟩
    cases h
    exact hselector

/-- A plain manifest that is turned into an object gives it a normal form: the manifest that is written from the
object is turned into the same object, which equals itself. -/
theorem manifest_normal_form (hm : Plain m) (h : ofManifest m = .ok o) :
    ofManifest o.toManifest = .ok o ∧ o.equal o = true ∧ Normal o := by
  have normal : Normal o := normal_of_ofManifest hm h
  have hname : ((o.get "metadata").get "name").truthy = true := by
    obtain ⟨s, hs, hne⟩ := normal.name
    simpa [hs, truthy] using hne
  have ho : Typed o := typed_of_ofManifest h
  exact ⟨ofManifest_toManifest ho hname, ho.ofTexts.equal_refl, normal⟩

/-- A service that is called by a truth value in the namespace zero, has a list for labels, and whose selector has
two keys with one text. -/
theorem manifest_normal_form_collapsed :
    let m : Value := .mapping [(.str "spec", .mapping [(.str "selector",
        .mapping [(.int 1, .bool true), (.str "app", .null), (.str "1", .list [])])]),
      (.str "kind", .str "Service"),
      (.str "metadata", .mapping [(.str "labels", .list [.str "x"]), (.str "namespace", .int 0),
        (.str "name", .bool true)])]
    let o : Value := .service (.str "True") (.str "") [] (.str "Service")
      [(.str "1", .str "[]"), (.str "app", .str "")]
    Plain m ∧ ofManifest m = .ok o ∧ ofManifest o.toManifest = .ok o ∧ o.equal o = true ∧ Normal o := by
  intro m o
  have hselector : Plain (.mapping [(.int 1, .bool true), (.str "app", .null), (.str "1", .list [])]) :=
    .mapping_cons (.bool true) (.mapping_cons .null (.mapping_cons .list_nil .mapping_nil))
  have hmetadata : Plain (.mapping [(.str "labels", .list [.str "x"]), (.str "namespace", .int 0),
      (.str "name", .bool true)]) :=
    .mapping_cons (.list_cons (.str "x") .list_nil) (.mapping_cons (.int 0) (.mapping_cons (.bool true) .mapping_nil))
  have hm : Plain m :=
    .mapping_cons (.mapping_cons hselector .mapping_nil)
      (.mapping_cons (.str "Service") (.mapping_cons hmetadata .mapping_nil))
  have h : ofManifest m = .ok o := by rfl
  exact ⟨hm, h, manifest_normal_form hm h⟩

end Normal

end ObjectWatch.Value
