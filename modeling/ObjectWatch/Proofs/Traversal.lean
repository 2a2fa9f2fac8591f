import Mathlib.Data.List.Forall2

/-! Going through a list with a function that may fail. It returns exactly if every element does, and fails as the
    first element that fails. -/

namespace ObjectWatch

section Traversal
variable {α β ε : Type} {f : α → Except ε β} {l : List α} {a : α} {b : β} {bs : List β} {e : ε}

theorem map_eq_ok_iff {γ : Type} {x : Except ε β} {g : β → γ} {c : γ} : x.map g = .ok c ↔ ∃ b, x = .ok b ∧ g b = c := by
  cases x <;> simp [Except.map]

theorem bind_eq_ok_iff {γ : Type} {x : Except ε β} {g : β → Except ε γ} {c : γ} :
    (x >>= g) = .ok c ↔ ∃ b, x = .ok b ∧ g b = .ok c := by
  cases x <;> simp [bind, Except.bind]

theorem bind_eq_error_iff {γ : Type} {x : Except ε β} {g : β → Except ε γ} :
    (x >>= g) = .error e ↔ x = .error e ∨ ∃ b, x = .ok b ∧ g b = .error e := by
  cases x <;> simp [bind, Except.bind]

theorem map_eq_error_iff {γ : Type} {x : Except ε β} {g : β → γ} : x.map g = .error e ↔ x = .error e := by
  cases x <;> simp [Except.map]

theorem mapError_eq_ok_iff {ε' : Type} {x : Except ε β} {g : ε → ε'} : x.mapError g = .ok b ↔ x = .ok b := by
  cases x <;> simp [Except.mapError]

theorem mapError_eq_error_iff {ε' : Type} {x : Except ε β} {g : ε → ε'} {e' : ε'} :
    x.mapError g = .error e' ↔ ∃ e, x = .error e ∧ g e = e' := by
  cases x <;> simp [Except.mapError]

theorem mapM_cons_of_ok (ha : f a = .ok b) : (a :: l).mapM f = (l.mapM f).map (b :: ·) := by
  rw [List.mapM_cons, ha]
  cases l.mapM f <;> rfl

theorem mapM_cons_of_error (ha : f a = .error e) : (a :: l).mapM f = .error e := by
  rw [List.mapM_cons, ha]
  rfl

/-- Going through a list returns if every element does, with the results in the same order. -/
theorem mapM_eq_ok_iff : l.mapM f = .ok bs ↔ List.Forall₂ (fun a b => f a = .ok b) l bs := by
  induction l generalizing bs with
  | nil =>
    rw [List.forall₂_nil_left_iff]
    exact ⟨fun h => (Except.ok.inj h).symm, fun h => congrArg Except.ok h.symm⟩
  | cons a l ih =>
    rw [List.forall₂_cons_left_iff]
    cases ha : f a with
    | error e =>
      rw [mapM_cons_of_error ha]
      refine iff_of_false nofun ?_
      rintro ⟨b, bs', h, -, -⟩
      cases h
    | ok b =>
      rw [mapM_cons_of_ok ha, map_eq_ok_iff]
      constructor
      · rintro ⟨bs', hrest, rfl⟩
        exact ⟨b, bs', rfl, ih.mp hrest, rfl⟩
      · rintro ⟨_, bs', h, hrest, rfl⟩
        cases h
        exact ⟨bs', ih.mpr hrest, rfl⟩

/-- What going through a list returns is what its elements return. -/
theorem mem_of_mapM_eq_ok (h : l.mapM f = .ok bs) : b ∈ bs ↔ ∃ a ∈ l, f a = .ok b := by
  rw [mapM_eq_ok_iff] at h
  induction h with
  | nil => simp
  | cons hab _ ih => simp [ih, hab, eq_comm]

/-- Going through a list fails as its first element that fails. -/
theorem mapM_eq_error : l.mapM f = .error e ↔
    ∃ before x after, l = before ++ x :: after ∧ (∀ b ∈ before, ∃ y, f b = .ok y) ∧ f x = .error e := by
  induction l with
  | nil =>
    refine iff_of_false nofun ?_
    rintro ⟨before, x, after, h, -⟩
    cases before <;> cases h
  | cons a l ih =>
    simp only [List.cons_eq_append_iff]
    cases ha : f a with
    | error e' =>
      rw [mapM_cons_of_error ha]
      constructor
      · intro h
        cases h
        exact ⟨[], a, l, .inl ⟨rfl, rfl⟩, nofun, ha⟩
      · rintro ⟨before, x, after, ⟨rfl, h⟩ | ⟨before, rfl, -⟩, hbefore, hx⟩
        · cases h
          exact congrArg Except.error (Except.error.inj (ha.symm.trans hx))
        · obtain ⟨y, hy⟩ := hbefore a List.mem_cons_self
          cases ha.symm.trans hy
    | ok y =>
      rw [mapM_cons_of_ok ha, map_eq_error_iff, ih]
      constructor
      · rintro ⟨before, x, after, rfl, hbefore, hx⟩
        exact ⟨a :: before, x, after, .inr ⟨before, rfl, rfl⟩, List.forall_mem_cons.mpr ⟨⟨y, ha⟩, hbefore⟩, hx⟩
      · rintro ⟨before, x, after, ⟨rfl, h⟩ | ⟨before, rfl, rfl⟩, hbefore, hx⟩
        · cases h
          cases ha.symm.trans hx
        · exact ⟨before, x, after, rfl, (List.forall_mem_cons.mp hbefore).2, hx⟩

end Traversal

/-- Elements that are related each to some other make a list that is related to some other one. -/
theorem exists_forall₂_iff {α β : Type} {R : α → β → Prop} {l : List α} :
    (∃ bs, List.Forall₂ R l bs) ↔ ∀ a ∈ l, ∃ b, R a b := by
  induction l with
  | nil => exact iff_of_true ⟨[], .nil⟩ nofun
  | cons a l ih =>
    rw [List.forall_mem_cons, ← ih]
    constructor
    · rintro ⟨bs, h⟩
      cases h with
      | cons hab hrest => exact ⟨⟨_, hab⟩, ⟨_, hrest⟩⟩
    · rintro ⟨⟨b, hab⟩, ⟨bs, hrest⟩⟩
      exact ⟨b :: bs, .cons hab hrest⟩

end ObjectWatch
