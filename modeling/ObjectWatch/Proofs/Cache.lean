import ObjectWatch.Cache
import ObjectWatch.Proofs.Identity
import ObjectWatch.Proofs.Table

/-! What a listing becomes in the cache, and the events between two tables. The index of a listing has the
    identities of its objects in the order in which they first occur, each with its last object; between
    two tables there is at most one event for an identity, and an upsert or a delete exactly where the
    tables say so. -/

namespace ObjectWatch

namespace Cache
variable {id : Identity} {v : Value} {objects : List Value} {old new t : List (Identity × Value)}

/-! ### The index of a listing -/

/-- Putting pairs into a table adds the keys that it lacks, in the order in which they first occur. -/
theorem keys_putAll {pairs : List (Identity × Value)} : Table.keys (Table.putAll t pairs) =
    Table.keys t ++ (Identity.distinct (Table.keys pairs)).filter (· ∉ Table.keys t) := by
  induction pairs generalizing t with
  | nil => exact (List.append_nil _).symm
  | cons pair rest ih =>
    have step : Table.putAll t (pair :: rest) = Table.putAll (Table.put pair.1 pair.2 t) rest := rfl
    rw [step, ih, Table.keys_put, Table.keys_cons, Identity.distinct]
    by_cases hmem : pair.1 ∈ Table.keys t
    · rw [if_pos (Table.has_iff.mpr hmem), List.filter_cons_of_neg (by simpa using hmem), List.filter_filter]
      congr 1
      apply List.filter_congr
      intro n _
      by_cases hn : n = pair.1 <;> simp [hn, hmem]
    · rw [if_neg (fun h => hmem (Table.has_iff.mp h)), List.filter_cons_of_pos (by simpa using hmem),
        List.append_assoc, List.singleton_append, List.filter_filter]
      congr 2
      apply List.filter_congr
      intro n _
      by_cases hn : n = pair.1 <;> simp [hn, hmem]

/-- The identities of a listing, in the order in which they first occur. -/
theorem keys_index : Table.keys (index objects) = Identity.distinct (objects.filterMap Value.identity?) := by
  have hkeys : Table.keys (objects.filterMap fun v => v.identity?.map fun id => (id, v)) =
      objects.filterMap Value.identity? := by
    rw [Table.keys, List.map_filterMap]
    congr 1
    funext v
    cases v.identity? <;> rfl
  rw [index, Table.ofPairs, keys_putAll, hkeys]
  simp

theorem nodup_keys_index : (Table.keys (index objects)).Nodup :=
  Table.nodup_keys_ofPairs

/-- Under an identity there is the last object that has it. -/
theorem get?_index : Table.get? id (index objects) = objects.findRev? fun v => v.identity? == some id := by
  rw [index, Table.get?_ofPairs]
  induction objects with
  | nil => rfl
  | cons v rest ih =>
    rw [List.findRev?, ← ih]
    cases hv : v.identity? with
    | none =>
      rw [List.filterMap_cons_none (by rw [hv]; rfl)]
      cases (rest.filterMap fun v => v.identity?.map fun id => (id, v)).findRev? fun pair => id == pair.1 <;> rfl
    | some n =>
      rw [List.filterMap_cons_some (b := (n, v)) (by rw [hv]; rfl), List.findRev?]
      cases (rest.filterMap fun v => v.identity?.map fun id => (id, v)).findRev? fun pair => id == pair.1 with
      | some last => rfl
      | none =>
        by_cases hn : id = n
        · simp [hn]
        · simp [hn, Ne.symm hn]

theorem mem_of_mem_index (h : (id, v) ∈ index objects) : v ∈ objects := by
  rw [← Table.get?_eq_some_iff nodup_keys_index, get?_index] at h
  exact (Table.of_findRev? h).1

/-! ### The events between two tables -/

theorem map_id_filterMap_sublist {α : Type} {key : α → Identity} {f : α → Option Event}
    (hf : ∀ a e, f a = some e → e.id = key a) {l : List α} :
    ((l.filterMap f).map Event.id).Sublist (l.map key) := by
  induction l with
  | nil => exact List.Sublist.refl _
  | cons a rest ih =>
    cases ha : f a with
    | none =>
      rw [List.filterMap_cons_none ha]
      exact ih.trans (List.sublist_cons_self _ _)
    | some e =>
      rw [List.filterMap_cons_some ha, List.map_cons, List.map_cons, hf a e ha]
      exact ih.cons_cons _

theorem upsert_mem_changes : Event.upsert id v ∈ changes old new ↔
    (id, v) ∈ new ∧ ∀ w, Table.get? id old = some w → w.equal v = false := by
  have hdelete : Event.upsert id v ∉ deletes old new := by simp [deletes]
  rw [changes, List.mem_append, or_iff_left hdelete, upserts, List.mem_filterMap]
  constructor
  · rintro ⟨⟨n, u⟩, hmem, h⟩
    split at h
    · rename_i before hbefore
      split at h
      · cases h
      · rename_i hne
        cases h
        refine ⟨hmem, fun w hw => ?_⟩
        rw [hbefore] at hw
        cases hw
        exact Bool.eq_false_iff.mpr hne
    · rename_i hnone
      cases h
      refine ⟨hmem, fun w hw => ?_⟩
      rw [hnone] at hw
      cases hw
  · rintro ⟨hmem, h⟩
    refine ⟨(id, v), hmem, ?_⟩
    split
    · rename_i before hbefore
      rw [h before hbefore]
      rfl
    · rfl

theorem delete_mem_changes : Event.delete id v ∈ changes old new ↔
    Table.get? id old = some v ∧ id ∉ Table.keys new := by
  have hupsert : Event.delete id v ∉ upserts old new := by
    rw [upserts, List.mem_filterMap]
    rintro ⟨entry, -, h⟩
    split at h
    · split at h <;> cases h
    · cases h
  rw [changes, List.mem_append, or_iff_right hupsert, deletes]
  simp only [List.mem_filterMap, Identity.mem_sorted, Option.map_eq_some_iff, Event.delete.injEq, Table.mem_keys,
    List.mem_filter, Bool.not_eq_true', ← Bool.not_eq_true, Table.has_iff]
  constructor
  · rintro ⟨n, ⟨w, -, hn⟩, u, hu, rfl, rfl⟩
    exact ⟨hu, hn⟩
  · rintro ⟨hget, hn⟩
    exact ⟨id, ⟨v, Table.mem_of_get? hget, hn⟩, v, hget, rfl, rfl⟩

/-- Reconciling gives the events that lead to what is tracked then. -/
theorem reconcile_events {c c' : Cache} {events : List Event} (h : c.reconcile = .ok (c', events)) :
    events = changes c.tracked c'.tracked := by
  unfold reconcile at h
  cases hs : c.criterion.select c.listing with
  | error cause =>
    rw [hs] at h
    cases h
  | ok tracked =>
    rw [hs] at h
    cases h
    rfl

/-- Under an identity for which there is no event two tables have equal objects, or neither has one. -/
theorem rel_of_no_change (h : ∀ e ∈ changes old new, e.id ≠ id) :
    Option.Rel (fun v w => v.equal w = true) (Table.get? id old) (Table.get? id new) := by
  cases hw : Table.get? id new with
  | none =>
    cases hv : Table.get? id old with
    | none => exact .none
    | some v => exact absurd rfl (h (.delete id v) (delete_mem_changes.mpr ⟨hv, Table.get?_eq_none_iff.mp hw⟩))
  | some w =>
    obtain ⟨v, hv, hvw⟩ : ∃ v, Table.get? id old = some v ∧ v.equal w = true := by
      by_contra hnone
      refine h (.upsert id w) (upsert_mem_changes.mpr ⟨Table.mem_of_get? hw, fun v hv => ?_⟩) rfl
      exact Bool.eq_false_iff.mpr fun hvw => hnone ⟨v, hv, hvw⟩
    rw [hv]
    exact .some hvw

theorem mem_keys_iff_of_no_change (h : ∀ e ∈ changes old new, e.id ≠ id) :
    id ∈ Table.keys old ↔ id ∈ Table.keys new :=
  Table.mem_keys_iff_of_rel (rel_of_no_change h)

/-! ### The order of the events -/

theorem isUpsert_of_mem_upserts {e : Event} (he : e ∈ upserts old new) : e.isUpsert = true := by
  obtain ⟨entry, -, hentry⟩ := List.mem_filterMap.mp he
  split at hentry
  · split at hentry <;> cases hentry
    rfl
  · cases hentry
    rfl

theorem isUpsert_of_mem_deletes {e : Event} (he : e ∈ deletes old new) : e.isUpsert = false := by
  obtain ⟨n, -, hn⟩ := List.mem_filterMap.mp he
  obtain ⟨v, -, rfl⟩ := Option.map_eq_some_iff.mp hn
  rfl

theorem filter_isUpsert_changes : (changes old new).filter (·.isUpsert) = upserts old new := by
  have hupserts : (upserts old new).filter (·.isUpsert) = upserts old new :=
    List.filter_eq_self.mpr fun e he => isUpsert_of_mem_upserts he
  have hdeletes : (deletes old new).filter (·.isUpsert) = [] :=
    List.filter_eq_nil_iff.mpr fun e he => by simp [isUpsert_of_mem_deletes he]
  rw [changes, List.filter_append, hupserts, hdeletes, List.append_nil]

theorem filter_not_isUpsert_changes : (changes old new).filter (!·.isUpsert) = deletes old new := by
  have hupserts : (upserts old new).filter (!·.isUpsert) = [] :=
    List.filter_eq_nil_iff.mpr fun e he => by simp [isUpsert_of_mem_upserts he]
  have hdeletes : (deletes old new).filter (!·.isUpsert) = deletes old new :=
    List.filter_eq_self.mpr fun e he => by simp [isUpsert_of_mem_deletes he]
  rw [changes, List.filter_append, hupserts, hdeletes, List.nil_append]

theorem map_id_upserts_sublist : ((upserts old new).map Event.id).Sublist (Table.keys new) := by
  refine map_id_filterMap_sublist fun entry e h => ?_
  split at h
  · split at h <;> cases h
    rfl
  · cases h
    rfl

/-- The identities of which the second table has none, sorted. -/
theorem map_id_deletes_sublist : ((deletes old new).map Event.id).Sublist
    (Identity.sorted (Table.keys (old.filter fun entry => !Table.has entry.1 new))) := by
  rw [← List.map_id (Identity.sorted _)]
  refine map_id_filterMap_sublist fun n e h => ?_
  obtain ⟨v, -, rfl⟩ := Option.map_eq_some_iff.mp h
  rfl

theorem pairwise_map_id_deletes (hold : (Table.keys old).Nodup) :
    ((deletes old new).map Event.id).Pairwise fun a b => a.before b = true :=
  (Identity.pairwise_sorted (Table.nodup_keys_filter hold _)).sublist map_id_deletes_sublist

/-- Between two tables there is at most one event for an identity. -/
theorem nodup_changes (hold : (Table.keys old).Nodup) (hnew : (Table.keys new).Nodup) :
    ((changes old new).map Event.id).Nodup := by
  have hdeletes : ((deletes old new).map Event.id).Nodup :=
    (Identity.nodup_sorted.mpr (Table.nodup_keys_filter hold _)).sublist map_id_deletes_sublist
  rw [changes, List.map_append, List.nodup_append]
  refine ⟨hnew.sublist map_id_upserts_sublist, hdeletes, ?_⟩
  -- An upsert is for an identity that the new table has, a delete for one that it lacks.
  rintro n hn m hm rfl
  obtain ⟨w, hw⟩ := Table.mem_keys.mp (Identity.mem_sorted.mp (map_id_deletes_sublist.subset hm))
  have hlacks := (List.mem_filter.mp hw).2
  simp [Table.has_iff.mpr (map_id_upserts_sublist.subset hn)] at hlacks

theorem filter_id_eq {e : Event} {events : List Event} (h : (events.map Event.id).Nodup) (he : e ∈ events) :
    events.filter (fun e' => e'.id == e.id) = [e] := by
  induction events with
  | nil => cases he
  | cons e' rest ih =>
    obtain ⟨hnot, hrest⟩ := List.nodup_cons.mp h
    rcases List.mem_cons.mp he with rfl | he
    · have hother : rest.filter (fun e' => e'.id == e.id) = [] := List.filter_eq_nil_iff.mpr fun e' he' hid =>
        hnot (beq_iff_eq.mp hid ▸ List.mem_map_of_mem he')
      simp [hother]
    · have hne : e'.id ≠ e.id := fun hid => hnot (hid ▸ List.mem_map_of_mem he)
      simp [hne, ih hrest he]

/-- For an identity that both tables have there is one upsert if the objects differ, and else no event. -/
theorem filter_changes {w : Value} (hold : (Table.keys old).Nodup) (hnew : (Table.keys new).Nodup)
    (hv : Table.get? id old = some v) (hw : Table.get? id new = some w) :
    (changes old new).filter (fun e => e.id == id) = if v.equal w then [] else [.upsert id w] := by
  cases hvw : v.equal w with
  | false =>
    have hmem : Event.upsert id w ∈ changes old new := by
      refine upsert_mem_changes.mpr ⟨Table.mem_of_get? hw, fun u hu => ?_⟩
      rw [hv] at hu
      cases hu
      exact hvw
    exact filter_id_eq (nodup_changes hold hnew) hmem
  | true =>
    refine List.filter_eq_nil_iff.mpr fun e he hid => ?_
    cases beq_iff_eq.mp hid
    cases e with
    | upsert n u =>
      obtain ⟨hmem, hne⟩ := upsert_mem_changes.mp he
      cases ((Table.get?_eq_some_iff hnew).mpr hmem).symm.trans hw
      exact Bool.eq_false_iff.mp (hne v hv) hvw
    | delete n u => exact (delete_mem_changes.mp he).2 (Table.mem_keys_of_mem (Table.mem_of_get? hw))

/-- There is no event between two tables exactly if they have the same identities with equal objects. -/
theorem changes_eq_nil_iff (hnew : (Table.keys new).Nodup) :
    changes old new = [] ↔ ∀ id, Option.Rel (fun v w => v.equal w = true) (Table.get? id old) (Table.get? id new) := by
  constructor
  · intro h id
    exact rel_of_no_change fun e he => absurd (h ▸ he) List.not_mem_nil
  · intro h
    refine List.eq_nil_iff_forall_not_mem.mpr fun e he => ?_
    cases e with
    | upsert id v =>
      obtain ⟨hmem, hne⟩ := upsert_mem_changes.mp he
      have hid := h id
      rw [(Table.get?_eq_some_iff hnew).mpr hmem] at hid
      generalize hv : Table.get? id old = o at hid
      cases hid with
      | @some w _ heq => exact Bool.eq_false_iff.mp (hne w hv) heq
    | delete id v =>
      obtain ⟨hget, hlacks⟩ := delete_mem_changes.mp he
      have hid := h id
      rw [hget, Table.get?_eq_none_iff.mpr hlacks] at hid
      cases hid

/-- From a table to itself there is no event, if each of its objects is equal to itself. -/
theorem changes_self (ht : (Table.keys t).Nodup) (hself : ∀ entry ∈ t, entry.2.equal entry.2 = true) :
    changes t t = [] := by
  refine (changes_eq_nil_iff ht).mpr fun id => ?_
  cases hv : Table.get? id t with
  | none => exact .none
  | some v => exact .some (hself _ (Table.mem_of_get? hv))

end Cache

end ObjectWatch
