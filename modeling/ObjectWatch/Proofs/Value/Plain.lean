import ObjectWatch.Resource

/-! Plain data, as documents hold it, and its texts. The text of a plain value that is no text itself has a
    character that the kind of services lacks: a bracket, a digit, a sign, a point. So no such value is taken
    for that kind, and none that counts as given has an empty text. -/

namespace ObjectWatch

/-! ### Numbers, days and moments -/

theorem Binary64.exists_mem_decimalText (digits : Nat) (exponent : Int) :
    ∃ c ∈ (Binary64.decimalText digits exponent).toList, c ∈ ['.', '+', '-'] := by
  unfold Binary64.decimalText
  simp only
  split
  · -- Positional notation has a point, the other one a sign of the exponent.
    split <;> rw [String.toList_ofList] <;> split <;> exact ⟨'.', by simp, by simp⟩
  · rw [String.toList_ofList]
    exact ⟨_, List.mem_append_right _ (List.mem_cons_of_mem _ List.mem_cons_self), by split <;> simp⟩

theorem Binary64.exists_mem_text (x : Binary64) : ∃ c ∈ x.text.toList, c ∈ ['.', '+', '-', 'n'] := by
  cases x with
  | finite negative units =>
    rw [text]
    split
    · exact ⟨'-', by rw [String.toList_append]; exact List.mem_append_left _ (by decide), by decide⟩
    · split
      · exact ⟨'.', by decide, by decide⟩
      · obtain ⟨c, hc, hsign⟩ := exists_mem_decimalText (shortest units).1 (shortest units).2
        exact ⟨c, hc, List.mem_append_left ['n'] hsign⟩
  | infinite negative => cases negative <;> exact ⟨'n', by decide, by decide⟩
  | nan payload => exact ⟨'n', by rw [text]; decide, by decide⟩

theorem exists_mem_toString_int (i : Int) : ∃ c ∈ (toString i).toList, c = '-' ∨ c.isDigit = true := by
  have digit (n : Nat) : ∃ c ∈ n.repr.toList, c.isDigit = true := by
    obtain ⟨c, hc⟩ := List.exists_mem_of_ne_nil _ (Nat.toDigits_ne_nil (n := n) (b := 10))
    refine ⟨c, ?_, Nat.isDigit_of_mem_toDigits (by decide) (by decide) hc⟩
    rwa [Nat.repr, String.toList_ofList]
  cases i with
  | ofNat n =>
    obtain ⟨c, hc, hdigit⟩ := digit n
    exact ⟨c, hc, .inr hdigit⟩
  | negSucc n =>
    refine ⟨'-', ?_, .inl rfl⟩
    have step : toString (Int.negSucc n) = "-" ++ n.succ.repr := rfl
    rw [step, String.toList_append]
    exact List.mem_append_left _ (by decide)

theorem Day.mem_text (d : Day) : '-' ∈ d.text.toList := by
  simp [Day.text, String.toList_append]

theorem Moment.mem_text (t : Moment) : '-' ∈ t.text.toList := by
  simp [Moment.text, String.toList_append, t.date.mem_text]

namespace Value

/-! ### Plain data -/

/-- What a document can hold: scalars, and lists, tuples and mappings of these, which may contain themselves, and
sets. The keys and the members may be anything. -/
inductive Plain : Value → Prop where
  | null : Plain null
  | bool (b : Bool) : Plain (bool b)
  | int (i : Int) : Plain (int i)
  | float (x : Binary64) : Plain (float x)
  | str (s : String) : Plain (str s)
  | octets (os : List UInt8) : Plain (octets os)
  | day (d : Day) : Plain (day d)
  | moment (t : Moment) : Plain (moment t)
  | list {items : List Value} (h : ∀ v ∈ items, Plain v) : Plain (list items)
  | tuple {items : List Value} (h : ∀ v ∈ items, Plain v) : Plain (tuple items)
  | mapping {entries : List (Value × Value)} (h : ∀ e ∈ entries, Plain e.2) : Plain (mapping entries)
  | set (members : List Value) : Plain (set members)
  | knotList {label : Nat} {items : List Value} (h : ∀ v ∈ items, Plain v) : Plain (knot label (list items))
  | knotMapping {label : Nat} {entries : List (Value × Value)} (h : ∀ e ∈ entries, Plain e.2) :
    Plain (knot label (mapping entries))
  | enclosing (label : Nat) : Plain (enclosing label)

namespace Plain
variable {k v : Value} {items : List Value} {entries : List (Value × Value)}

theorem list_nil : Plain (Value.list []) :=
  .list fun _ h => absurd h List.not_mem_nil

theorem list_cons (hv : Plain v) (h : Plain (Value.list items)) : Plain (Value.list (v :: items)) := by
  cases h with
  | list h => exact .list (List.forall_mem_cons.mpr ⟨hv, h⟩)

theorem mapping_nil : Plain (Value.mapping []) :=
  .mapping fun _ h => absurd h List.not_mem_nil

theorem mapping_cons (hv : Plain v) (h : Plain (Value.mapping entries)) : Plain (Value.mapping ((k, v) :: entries)) := by
  cases h with
  | mapping h => exact .mapping (List.forall_mem_cons.mpr ⟨hv, h⟩)

end Plain

section Unfolding
variable {label : Nat} {whole v : Value} {key : String}

theorem mem_unfoldItems {items : List Value} :
    v ∈ unfoldItems label whole items ↔ ∃ w ∈ items, v = unfoldIn label whole w := by
  induction items with
  | nil => simp [unfoldItems]
  | cons w rest ih => simp [unfoldItems, ih]

theorem mem_unfoldEntries {entries : List (Value × Value)} {e : Value × Value} :
    e ∈ unfoldEntries label whole entries ↔
      ∃ f ∈ entries, e = (unfoldIn label whole f.1, unfoldIn label whole f.2) := by
  induction entries with
  | nil => simp [unfoldEntries]
  | cons f rest ih => simp [unfoldEntries, ih]

theorem Plain.unfoldIn (hw : Plain whole) (hv : Plain v) : Plain (unfoldIn label whole v) := by
  induction hv with
  | null => exact .null
  | bool b => exact .bool b
  | int i => exact .int i
  | float x => exact .float x
  | str s => exact .str s
  | octets os => exact .octets os
  | day d => exact .day d
  | moment t => exact .moment t
  | list _ ih =>
    refine .list fun v hv => ?_
    obtain ⟨w, hmem, rfl⟩ := mem_unfoldItems.mp hv
    exact ih w hmem
  | tuple _ ih =>
    refine .tuple fun v hv => ?_
    obtain ⟨w, hmem, rfl⟩ := mem_unfoldItems.mp hv
    exact ih w hmem
  | set members => exact .set members
  | mapping _ ih =>
    refine .mapping fun e he => ?_
    obtain ⟨f, hmem, rfl⟩ := mem_unfoldEntries.mp he
    exact ih f hmem
  | knotList h ih =>
    rw [Value.unfoldIn]
    split
    · exact .knotList h
    · refine .knotList fun v hv => ?_
      obtain ⟨w, hmem, rfl⟩ := mem_unfoldItems.mp hv
      exact ih w hmem
  | knotMapping h ih =>
    rw [Value.unfoldIn]
    split
    · exact .knotMapping h
    · refine .knotMapping fun e he => ?_
      obtain ⟨f, hmem, rfl⟩ := mem_unfoldEntries.mp he
      exact ih f hmem
  | enclosing l =>
    rw [Value.unfoldIn]
    split
    · exact hw
    · exact .enclosing l

/-- The values of a plain mapping are plain, also seen from inside themselves. -/
theorem Plain.of_mem_entries (h : Plain v) {entries : List (Value × Value)} (hv : v.entries? = some entries)
    {e : Value × Value} (he : e ∈ entries) : Plain e.2 := by
  cases h with
  | mapping h =>
    cases hv
    exact h e he
  | knotMapping h =>
    cases hv
    obtain ⟨f, hmem, rfl⟩ := mem_unfoldEntries.mp he
    exact .unfoldIn (.knotMapping h) (h f hmem)
  | _ => cases hv

/-- A plain value has entries at most, and no attributes. -/
theorem Plain.attribute?_eq_none (h : Plain v) : v.attribute? key = none := by
  cases h <;> rfl

theorem Plain.get (h : Plain v) : Plain (v.get key) := by
  unfold Value.get
  cases hv : v.entries? with
  | none =>
    simp only [h.attribute?_eq_none]
    exact .null
  | some entries =>
    simp only [Table.get?]
    cases hfind : entries.find? fun e => Value.str key == e.1 with
    | none => exact .null
    | some e => exact h.of_mem_entries hv (List.mem_of_find?_eq_some hfind)

/-- Of a plain value that is no mapping nothing can be read. -/
theorem Plain.get_eq_null (h : Plain v) (hm : v.isMapping = false) : v.get key = .null := by
  rw [Value.get, Option.isSome_eq_false_iff.mp hm |> Option.isNone_iff_eq_none.mp]
  simp only [h.attribute?_eq_none, Option.getD_none]

end Unfolding

/-! ### Texts -/

section Texts
variable {v : Value}

theorem Plain.exists_mem_text (h : Plain v) (hv : ∀ s, v ≠ .str s) : ∃ c ∈ v.text.toList, c ∉ serviceKind.toList := by
  have start (s t : String) (c : Char) (hc : c ∈ s.toList) : c ∈ (s ++ t).toList := by
    rw [String.toList_append]
    exact List.mem_append_left _ hc
  cases h with
  | null => exact ⟨'N', by decide, by decide⟩
  | bool b =>
    cases b
    · exact ⟨'F', by decide, by decide⟩
    · exact ⟨'T', by decide, by decide⟩
  | int i =>
    obtain ⟨c, hc, hdigit⟩ := exists_mem_toString_int i
    refine ⟨c, hc, fun hmem => ?_⟩
    rcases hdigit with rfl | hdigit
    · exact absurd hmem (by decide)
    · have hletters : ∀ c ∈ serviceKind.toList, c.isDigit = false := by simp [serviceKind]
      rw [hletters c hmem] at hdigit
      cases hdigit
  | float x =>
    obtain ⟨c, hc, hsign⟩ := x.exists_mem_text
    have hletters : ∀ c ∈ ['.', '+', '-', 'n'], c ∉ serviceKind.toList := by simp [serviceKind]
    exact ⟨c, hc, hletters c hsign⟩
  | str s => exact absurd rfl (hv s)
  | octets os =>
    refine ⟨'b', ?_, by decide⟩
    have shown : (Value.octets os).text = Text.quotedOctets os := rfl
    rw [shown, Text.quotedOctets, String.toList_ofList]
    exact List.mem_cons_self
  | day d => exact ⟨'-', d.mem_text, by decide⟩
  | moment t => exact ⟨'-', t.mem_text, by decide⟩
  | list h => exact ⟨'[', start _ _ _ (start "[" _ _ (by decide)), by decide⟩
  | @tuple items h =>
    refine ⟨'(', ?_, by decide⟩
    rcases items with _ | ⟨v, _ | ⟨w, rest⟩⟩ <;> exact start _ _ _ (start "(" _ _ (by decide))
  | mapping h => exact ⟨'\x7b', start _ _ _ (start "\x7b" _ _ (by decide)), by decide⟩
  | set members =>
    cases members with
    | nil => exact ⟨'(', by decide, by decide⟩
    | cons v rest => exact ⟨'\x7b', start _ _ _ (start "\x7b" _ _ (by decide)), by decide⟩
  | knotList h => exact ⟨'[', start _ _ _ (start "[" _ _ (by decide)), by decide⟩
  | knotMapping h => exact ⟨'\x7b', start _ _ _ (start "\x7b" _ _ (by decide)), by decide⟩
  | enclosing l =>
    have shown : (Value.enclosing l).text = "[...]" := rfl
    exact ⟨'[', by rw [shown]; decide, by decide⟩

theorem Plain.text_ne_empty (h : Plain v) (hv : v.truthy = true) : v.text ≠ "" := by
  intro hempty
  by_cases hs : ∃ s, v = .str s
  · obtain ⟨s, rfl⟩ := hs
    have : s = "" := hempty
    rw [this] at hv
    cases hv
  · obtain ⟨c, hc, -⟩ := h.exists_mem_text (not_exists.mp hs)
    rw [hempty] at hc
    cases hc

theorem Plain.text_eq_serviceKind_iff (h : Plain v) : v.text = serviceKind ↔ v = .str serviceKind := by
  refine ⟨fun htext => ?_, fun hv => hv ▸ rfl⟩
  by_cases hs : ∃ s, v = .str s
  · obtain ⟨s, rfl⟩ := hs
    exact congrArg Value.str htext
  · obtain ⟨c, hc, hforeign⟩ := h.exists_mem_text (not_exists.mp hs)
    exact absurd (htext ▸ hc) hforeign

end Texts

end Value

end ObjectWatch
