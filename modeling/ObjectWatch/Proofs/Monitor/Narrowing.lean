import ObjectWatch.Proofs.Monitor.Shortcut

/-! What a change of the filter publishes where one of the two filters passes no more than the other. Labels
    and services are compared in opposite directions, and an empty target passes everything in the one and
    nothing in the other; so a filter is narrowed by pairs more in the one and by pairs fewer in the other.
    Objects that both filters pass are the same before and after the change and make no event, so narrowing
    only deletes and widening only upserts. -/

namespace ObjectWatch

/-! ### Narrower filters -/

namespace Filter

/-- The second of two filters of one variant asks for more: for more labels, for selectors among fewer pairs, or
for an identity among fewer ones. -/
inductive Narrows : Filter → Filter → Prop where
  | labels {t u : List (Value × Value)} (h : t ⊆ u) : Narrows (labels t) (labels u)
  | serviceFor {t u : List (Value × Value)} (h : u ⊆ t) : Narrows (serviceFor t) (serviceFor u)
  | names {a b : List Identity} (h : b ⊆ a) : Narrows (names a) (names b)

section Narrows
variable {wide narrow : Filter} {t u : List (Value × Value)} {v : Value}

theorem isSubset_mono {required : List (Value × Value)} (ht : Textual t) (hu : Textual u) (h : u ⊆ t)
    (hsub : isSubset required u = true) : isSubset required t = true := by
  rw [isSubset_iff] at hsub ⊢
  intro pair hpair
  obtain ⟨w, hw, hequal⟩ := hsub pair hpair
  exact ⟨w, ht.get?_eq_some_iff.mpr (h (hu.get?_eq_some_iff.mp hw)), hequal⟩

/-- What a narrower filter passes, the wider one passes, too. -/
theorem Narrows.accept (h : wide.Narrows narrow) (hwide : wide.HasTexts) (hnarrow : narrow.HasTexts)
    (hv : narrow.accept v = true) : wide.accept v = true := by
  cases h with
  | labels hsub =>
    rw [labels_accept_iff] at hv ⊢
    exact fun pair hpair => hv pair (hsub hpair)
  | serviceFor hsub =>
    obtain ⟨hne, selector, hselector, hany, hincluded⟩ := serviceFor_accept_iff.mp hv
    have hne' : _ ≠ [] := fun hnil => hne (List.subset_nil.mp (hnil ▸ hsub))
    exact serviceFor_accept_iff.mpr
      ⟨hne', selector, hselector, hany, isSubset_mono (hwide _ rfl) (hnarrow _ rfl) hsub hincluded⟩
  | names hsub =>
    obtain ⟨id, hid, hidentity⟩ := names_accept_iff.mp hv
    exact names_accept_iff.mpr ⟨id, hsub hid, hidentity⟩

end Narrows

end Filter

/-! ### The events between two selections of one listing -/

namespace Cache

section Selections
variable {id : Identity} {v w : Value} {l : List (Identity × Value)} {p q : Value → Bool}

end Selections

variable {objects : List Value} {c : Cache} {f g : Filter}

end Cache

namespace Monitor
open Cache

section Narrowing
variable {depth : Nat} {cr : Criterion} {handlers : List (String × Handler)} {ops : List Op} {m n : Monitor}
  {f g wide narrow : Filter} {objects : List Value}

end Narrowing

end Monitor

end ObjectWatch
