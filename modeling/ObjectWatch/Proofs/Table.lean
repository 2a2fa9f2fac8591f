import Mathlib.Data.List.Nodup
import ObjectWatch.Table

/-! Tables as finite maps with an order. Where the keys are distinct and equality tells them apart, what a
    table holds under a key is its only entry there; putting and erasing touch no other key. -/

namespace ObjectWatch.Table

/-- The last element with a property is an element and has it. -/
theorem of_findRev? {α : Type} {p : α → Bool} {l : List α} {a : α} (h : l.findRev? p = some a) : a ∈ l ∧ p a = true := by
  rw [List.findRev?_eq_find?_reverse] at h
  exact ⟨List.mem_reverse.mp (List.mem_of_find?_eq_some h), List.find?_some h⟩

section Keys
variable {α β : Type} {k : α} {v : β} {t : List (α × β)}

@[simp] theorem keys_nil : keys ([] : List (α × β)) = [] := rfl

@[simp] theorem keys_cons {entry : α × β} : keys (entry :: t) = entry.1 :: keys t := rfl

theorem mem_keys : k ∈ keys t ↔ ∃ v, (k, v) ∈ t := by
  simp [keys]

theorem mem_keys_of_mem (h : (k, v) ∈ t) : k ∈ keys t :=
  mem_keys.mpr ⟨v, h⟩

theorem nodup_keys_filter (ht : (keys t).Nodup) (p : α × β → Bool) : (keys (t.filter p)).Nodup :=
  ht.sublist (List.filter_sublist.map _)

end Keys

section Get
variable {α β : Type} [BEq α] {k : α} {t : List (α × β)}

@[simp] theorem get?_nil : get? k ([] : List (α × β)) = none := rfl

theorem get?_cons {entry : α × β} : get? k (entry :: t) = if k == entry.1 then some entry.2 else get? k t := by
  cases h : k == entry.1 <;> simp [get?, h]

/-- A table with distinct keys, none of which a key equals without being it, holds under that key what its
entry there says. -/
theorem get?_eq_some_iff_of_keys {v : β} (ht : (keys t).Nodup) (hk : ∀ k' ∈ keys t, (k == k') = true ↔ k = k') :
    get? k t = some v ↔ (k, v) ∈ t := by
  induction t with
  | nil => simp
  | cons entry rest ih =>
    obtain ⟨hnot, hrest⟩ := List.nodup_cons.mp ht
    have ih := ih hrest fun k' hk' => hk k' (List.mem_cons_of_mem _ hk')
    have hentry := hk entry.1 List.mem_cons_self
    rw [get?_cons, List.mem_cons]
    by_cases h : k = entry.1
    · have hlacks : (k, v) ∉ rest := fun hmem => hnot (mem_keys_of_mem (h ▸ hmem))
      rw [if_pos (hentry.mpr h), or_iff_left hlacks, Option.some.injEq, Prod.ext_iff, eq_comm]
      exact (and_iff_right h).symm
    · rw [if_neg fun hkey => h (hentry.mp hkey), ih, or_iff_right fun heq => h (congrArg Prod.fst heq)]

end Get

variable {α β : Type} [BEq α] [LawfulBEq α] {k k' : α} {v : β} {t u : List (α × β)}

theorem has_iff : has k t = true ↔ k ∈ keys t := by
  simp only [has, List.any_eq_true, beq_iff_eq, keys, List.mem_map]
  exact exists_congr fun entry => and_congr_right fun _ => eq_comm

theorem get?_eq_none_iff : get? k t = none ↔ k ∉ keys t := by
  induction t with
  | nil => simp
  | cons entry rest ih =>
    rw [get?_cons, keys_cons, List.mem_cons, not_or]
    by_cases hk : k = entry.1
    · simp [hk]
    · simp [hk, ih]

theorem mem_of_get? (h : get? k t = some v) : (k, v) ∈ t := by
  induction t with
  | nil => cases h
  | cons entry rest ih =>
    rw [get?_cons] at h
    by_cases hk : k = entry.1
    · simp only [hk, beq_self_eq_true, if_true, Option.some.injEq] at h
      rw [hk, ← h]
      exact List.mem_cons_self
    · simp only [beq_iff_eq, hk, if_false] at h
      exact List.mem_cons_of_mem _ (ih h)

theorem mem_keys_iff_get? : k ∈ keys t ↔ ∃ v, get? k t = some v := by
  rw [← not_iff_not, ← get?_eq_none_iff, Option.eq_none_iff_forall_ne_some, not_exists]

theorem mem_keys_iff_of_rel {γ : Type} {R : β → γ → Prop} {s : List (α × γ)}
    (h : Option.Rel R (get? k t) (get? k s)) : k ∈ keys t ↔ k ∈ keys s := by
  rw [mem_keys_iff_get?, mem_keys_iff_get?]
  generalize get? k t = o, get? k s = o' at h ⊢
  cases h <;> simp

/-- A table with distinct keys holds under a key what its entry there says. -/
theorem get?_eq_some_iff (ht : (keys t).Nodup) : get? k t = some v ↔ (k, v) ∈ t :=
  get?_eq_some_iff_of_keys ht fun _ _ => beq_iff_eq

theorem get?_filter (ht : (keys t).Nodup) {p : α × β → Bool} :
    get? k (t.filter p) = (get? k t).filter fun v => p (k, v) := by
  refine Option.ext fun v => ?_
  rw [get?_eq_some_iff (nodup_keys_filter ht p), List.mem_filter, Option.filter_eq_some_iff, get?_eq_some_iff ht]

/-! ### Putting and erasing -/

theorem get?_put : get? k (put k' v t) = if k == k' then some v else get? k t := by
  induction t with
  | nil => rw [put, get?_cons]
  | cons entry rest ih =>
    by_cases hk' : k' = entry.1
    · by_cases hk : k = entry.1 <;> simp [put, hk', get?_cons, hk]
    · by_cases hk : k = entry.1
      · simp [put, hk', get?_cons, hk, Ne.symm hk']
      · simp [put, hk', get?_cons, hk, ih]

theorem get?_erase : get? k (erase k' t) = if k == k' then none else get? k t := by
  induction t with
  | nil => simp [erase]
  | cons entry rest ih =>
    by_cases hk' : k' = entry.1
    · have step : erase k' (entry :: rest) = erase k' rest := by simp [erase, hk']
      rw [step, ih, get?_cons, ← hk']
      cases k == k' <;> rfl
    · have step : erase k' (entry :: rest) = entry :: erase k' rest := by simp [erase, hk']
      rw [step, get?_cons, get?_cons, ih]
      by_cases hk : k = entry.1
      · simp [hk, Ne.symm hk']
      · simp [hk]

theorem erase_of_not_mem (h : k ∉ keys t) : erase k t = t := by
  refine List.filter_eq_self.mpr fun entry hentry => ?_
  have hne : k ≠ entry.1 := fun heq => h (heq ▸ mem_keys_of_mem hentry)
  simp [hne]

theorem keys_put : keys (put k v t) = if has k t then keys t else keys t ++ [k] := by
  induction t with
  | nil => rfl
  | cons entry rest ih =>
    by_cases hk : k = entry.1
    · simp [put, has, hk]
    · have hhas : has k (entry :: rest) = has k rest := by simp [has, hk]
      rw [hhas, put, if_neg (by simpa using hk), keys_cons, ih]
      split <;> rfl

theorem nodup_keys_put (ht : (keys t).Nodup) : (keys (put k v t)).Nodup := by
  rw [keys_put]
  split
  · exact ht
  · rename_i hk
    refine List.nodup_append.mpr ⟨ht, List.nodup_singleton k, ?_⟩
    rintro a ha b hb rfl
    exact hk (has_iff.mpr (List.mem_singleton.mp hb ▸ ha))

theorem nodup_keys_putAll {pairs : List (α × β)} (ht : (keys t).Nodup) : (keys (putAll t pairs)).Nodup := by
  induction pairs generalizing t with
  | nil => exact ht
  | cons pair rest ih => exact ih (nodup_keys_put ht)

/-- Of the pairs put in, the last one under a key gives its value. -/
theorem get?_putAll {pairs : List (α × β)} :
    get? k (putAll t pairs) = ((pairs.findRev? fun pair => k == pair.1).map (·.2)).or (get? k t) := by
  induction pairs generalizing t with
  | nil => rfl
  | cons pair rest ih =>
    have step : putAll t (pair :: rest) = putAll (put pair.1 pair.2 t) rest := rfl
    rw [step, ih, get?_put, List.findRev?]
    cases rest.findRev? fun pair => k == pair.1 with
    | some last => rfl
    | none => cases k == pair.1 <;> simp

theorem nodup_keys_ofPairs {pairs : List (α × β)} : (keys (ofPairs pairs)).Nodup :=
  nodup_keys_putAll List.nodup_nil

theorem put_of_not_mem (h : k ∉ keys t) : put k v t = t ++ [(k, v)] := by
  induction t with
  | nil => rfl
  | cons entry rest ih =>
    rw [keys_cons, List.mem_cons, not_or] at h
    rw [put, if_neg (by simpa using h.1), ih h.2, List.cons_append]

/-- Pairs with distinct keys make a table as they are. -/
theorem ofPairs_of_nodup {pairs : List (α × β)} (h : (keys pairs).Nodup) : ofPairs pairs = pairs := by
  have putAll_eq (t : List (α × β)) (ht : (keys (t ++ pairs)).Nodup) : putAll t pairs = t ++ pairs := by
    induction pairs generalizing t with
    | nil => exact (List.append_nil t).symm
    | cons pair rest ih =>
      have hnot : pair.1 ∉ keys t := by
        rw [keys, List.map_append, List.nodup_append] at ht
        exact fun hmem => ht.2.2 _ hmem _ List.mem_cons_self rfl
      have step : putAll t (pair :: rest) = putAll (put pair.1 pair.2 t) rest := rfl
      rw [List.append_cons] at ht ⊢
      rw [step, put_of_not_mem hnot]
      exact ih (List.nodup_cons.mp h).2 _ ht
  exact putAll_eq [] h

theorem get?_ofPairs {pairs : List (α × β)} :
    get? k (ofPairs pairs) = (pairs.findRev? fun pair => k == pair.1).map (·.2) := by
  rw [ofPairs, get?_putAll, get?_nil, Option.or_none]

end ObjectWatch.Table
