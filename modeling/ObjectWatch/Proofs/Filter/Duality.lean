import ObjectWatch.Proofs.Filter.Content
import ObjectWatch.Proofs.Manifest.Reading

/-! The two filters with targets ask for one inclusion, each from its own side: a service filter has the larger map
    for its target and finds the smaller one as a selector, a labels filter has the smaller one and finds the larger
    one as labels. They differ only where the smaller map is empty. -/

namespace ObjectWatch

namespace Value

/-- A service of this selector: a typed one, an object that has the kind only and selects nothing, a manifest or an
object with attributes that has the selector in text form, or what such a manifest is turned into. -/
inductive ServiceOf (s : List (Value × Value)) : Value → Prop where
  | service {name ns kind : Value} {labels selector : List (Value × Value)} (h : selector.Perm s) :
    ServiceOf s (service name ns labels kind selector)
  | object {name ns : Value} {labels : List (Value × Value)} (h : s = []) :
    ServiceOf s (object name ns labels (str serviceKind))
  | untyped {v : Value} (hv : v.isTyped = false) (hkind : v.get "kind" = str serviceKind)
    (h : ((v.get "spec").get "selector").labelTable.Perm s) : ServiceOf s v
  | converted {m o : Value} (ho : ofManifest m = .ok o) (hkind : m.get "kind" = str serviceKind)
    (hspec : (m.get "spec").isMapping = true) (h : ((m.get "spec").get "selector").labelTable.Perm s) : ServiceOf s o

/-- An object of these labels: a typed one, a manifest or an object with attributes that has them in text form, or
what such a manifest is turned into. -/
inductive LabelledBy (t : List (Value × Value)) : Value → Prop where
  | object {name ns kind : Value} {labels : List (Value × Value)} (h : labels.Perm t) :
    LabelledBy t (object name ns labels kind)
  | service {name ns kind : Value} {labels selector : List (Value × Value)} (h : labels.Perm t) :
    LabelledBy t (service name ns labels kind selector)
  | untyped {v : Value} (hv : v.isTyped = false) (h : ((v.get "metadata").get "labels").labelTable.Perm t) :
    LabelledBy t v
  | converted {m o : Value} (ho : ofManifest m = .ok o)
    (h : ((m.get "metadata").get "labels").labelTable.Perm t) : LabelledBy t o

section Shapes
variable {v : Value} {s t : List (Value × Value)}

theorem typed_cases (h : v.isTyped = true) : (∃ name ns labels kind, v = object name ns labels kind) ∨
    ∃ name ns labels kind selector, v = service name ns labels kind selector := by
  cases v <;> simp_all [isTyped]

theorem ServiceOf.shown (h : v.ServiceOf s) : ∃ selector, v.selector? = some selector ∧ selector.Perm s := by
  cases h with
  | service h => exact ⟨_, rfl, h⟩
  | object h => exact ⟨[], rfl, h ▸ .nil⟩
  | untyped hv hkind h =>
    refine ⟨_, ?_, h⟩
    rw [selector?_of_not_typed hv, isService, hkind]
    rfl
  | converted ho hkind hspec h => exact ⟨_, selector?_of_ofManifest ho hkind hspec, h⟩

theorem serviceOf_of_selector? {selector : List (Value × Value)} (hselector : v.selector? = some selector)
    (h : selector.Perm s) : v.ServiceOf s := by
  cases hv : v.isTyped with
  | false =>
    rw [selector?_of_not_typed hv] at hselector
    split at hselector
    · rename_i hservice
      cases hselector
      exact .untyped hv (beq_str.mp hservice) h
    · cases hselector
  | true =>
    rcases typed_cases hv with ⟨name, ns, labels, kind, rfl⟩ | ⟨name, ns, labels, kind, shown, rfl⟩
    · have step : (object name ns labels kind).selector? = if kind == str serviceKind then some [] else none := rfl
      rw [step] at hselector
      split at hselector
      · rename_i hkind
        cases hselector
        rw [beq_str.mp hkind]
        exact .object h.nil_eq.symm
      · cases hselector
    · cases hselector
      exact .service h

/-- The services of a selector are the values that show it. -/
theorem serviceOf_iff : v.ServiceOf s ↔ ∃ selector, v.selector? = some selector ∧ selector.Perm s :=
  ⟨ServiceOf.shown, fun ⟨_, hselector, h⟩ => serviceOf_of_selector? hselector h⟩

/-- The objects of some labels are the values that show them. -/
theorem labelledBy_iff : v.LabelledBy t ↔ v.labels.Perm t := by
  constructor
  · intro h
    cases h with
    | object h => exact h
    | service h => exact h
    | untyped hv h => exact labels_of_not_typed hv ▸ h
    | converted ho h => exact labels_of_ofManifest ho ▸ h
  · intro h
    cases hv : v.isTyped with
    | false => exact .untyped hv (labels_of_not_typed hv ▸ h)
    | true =>
      rcases typed_cases hv with ⟨name, ns, labels, kind, rfl⟩ | ⟨name, ns, labels, kind, selector, rfl⟩
      · exact .object h
      · exact .service h

end Shapes

end Value

namespace Filter

section Duality
variable {s t : List (Value × Value)} {v w : Value}

theorem serviceFor_accept_iff_of_serviceOf (hs : Textual s) (ht : Textual t) (hv : v.ServiceOf s) :
    (serviceFor t).accept v = true ↔ s ≠ [] ∧ t ≠ [] ∧ s ⊆ t := by
  obtain ⟨selector, hselector, hperm⟩ := Value.serviceOf_iff.mp hv
  have hempty : selector = [] ↔ s = [] := by
    rw [← List.length_eq_zero_iff, hperm.length_eq, List.length_eq_zero_iff]
  rw [serviceFor_accept_iff_subset (hs.of_perm hperm.symm) hselector ht, ne_eq, hempty, hperm.subset_congr_left]

theorem labels_accept_iff_of_labelledBy (hs : Textual s) (ht : Textual t) (hw : w.LabelledBy t) :
    (labels s).accept w = true ↔ s ⊆ t := by
  have hperm := Value.labelledBy_iff.mp hw
  rw [labels_accept_iff_subset (ht.of_perm hperm.symm) rfl hs, hperm.subset_congr_right]

/-- No target passes a service without a selector. -/
theorem serviceFor_accept_of_no_selector (hv : v.ServiceOf []) : (serviceFor t).accept v = false := by
  obtain ⟨selector, hselector, hperm⟩ := Value.serviceOf_iff.mp hv
  cases hperm.eq_nil
  rw [accept, hselector]
  rfl

/-- Let two maps of texts be the selector of a service and the labels of an object. Where the first one is not empty,
the filter for services of the second one passes the service exactly if the filter for labels of the first one passes
the object. Where it is empty, no filter for services passes the service, and the filter for labels passes any
object. -/
theorem target_filters_dual (hs : Textual s) (ht : Textual t) (hv : v.ServiceOf s) (hw : w.LabelledBy t) :
    (s ≠ [] → (serviceFor t).accept v = (labels s).accept w) ∧
    (s = [] → (∀ target, (serviceFor target).accept v = false) ∧ ∀ u, (labels s).accept u = true) := by
  refine ⟨fun hne => ?_, ?_⟩
  · rw [Bool.eq_iff_iff, serviceFor_accept_iff_of_serviceOf hs ht hv, labels_accept_iff_of_labelledBy hs ht hw]
    -- What a map that is not empty is within is not empty either.
    have htarget (hsub : s ⊆ t) : t ≠ [] := by
      rintro rfl
      exact hne (List.subset_nil.mp hsub)
    exact ⟨fun h => h.2.2, fun hsub => ⟨hne, htarget hsub, hsub⟩⟩
  · rintro rfl
    exact ⟨fun _ => serviceFor_accept_of_no_selector hv, fun _ => rfl⟩

/-- A manifest whose selector has a number in it and what it is turned into, a manifest with these labels in another
order, and an object that has the kind of services only. -/
theorem target_filters_dual_forms :
    let s : List (Value × Value) := [(.str "app", .str "web"), (.str "n", .str "1")]
    let t : List (Value × Value) := [(.str "n", .str "1"), (.str "app", .str "web")]
    let m : Value := .mapping [(.str "kind", .str "Service"), (.str "metadata", .mapping [(.str "name", .str "a")]),
      (.str "spec", .mapping [(.str "selector", .mapping [(.str "n", .int 1), (.str "app", .str "web")])])]
    let o : Value := .service (.str "a") (.str "") [] (.str "Service") [(.str "n", .str "1"), (.str "app", .str "web")]
    let w : Value := .mapping [(.str "metadata", .mapping [(.str "name", .str "b"),
      (.str "labels", .mapping [(.str "app", .str "web"), (.str "n", .int 1)])])]
    let bare : Value := .object (.str "c") (.str "") [] (.str "Service")
    Textual s ∧ Textual t ∧ m.ServiceOf s ∧ o.ServiceOf s ∧ w.LabelledBy t ∧ bare.ServiceOf [] ∧
      (serviceFor t).accept m = (labels s).accept w ∧ (serviceFor t).accept o = (labels s).accept w ∧
      (serviceFor t).accept bare = false ∧ (labels []).accept w = true := by
  intro s t m o w bare
  have hs : Textual s := ⟨by simp [s], by simp [s]⟩
  have ht : Textual t := ⟨by simp [t], by simp [t]⟩
  have hm : m.ServiceOf s := .untyped rfl rfl (.swap _ _ _)
  have ho : o.ServiceOf s := .converted (m := m) rfl rfl rfl (.swap _ _ _)
  have hw : w.LabelledBy t := .untyped rfl (.swap _ _ _)
  have hbare : bare.ServiceOf [] := .object rfl
  obtain ⟨nothing, everything⟩ := (target_filters_dual Value.textual_nil ht hbare hw).2 rfl
  exact ⟨hs, ht, hm, ho, hw, hbare, (target_filters_dual hs ht hm hw).1 nofun, (target_filters_dual hs ht ho hw).1 nofun,
    nothing t, everything w⟩

end Duality

end Filter

end ObjectWatch
