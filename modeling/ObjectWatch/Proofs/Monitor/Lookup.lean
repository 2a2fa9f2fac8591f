import ObjectWatch.Proofs.Monitor.Exact

/-! The list of tracked objects and the lookup of one describe one map. A table keeps its objects under their own
    identities, each identity once, however listings, filters and reconciliations follow one another; so the
    list has every tracked object once, in the order of the identities, and the lookup finds in it the only
    object that has the identity asked for. -/

namespace ObjectWatch

/-- Two objects with identities, that of the first before that of the second: in namespaces by code point, or in one
namespace with names by code point. -/
def Value.Precedes (v w : Value) : Prop :=
  ∃ a b, v.identity? = some a ∧ w.identity? = some b ∧ (a.ns < b.ns ∨ a.ns = b.ns ∧ a.name < b.name)

namespace Cache

/-- Each object of a table stands under its own identity, and no identity stands twice. -/
structure Keyed (t : List (Identity × Value)) : Prop where
  nodup : (Table.keys t).Nodup
  identity : ∀ id v, (id, v) ∈ t → v.identity? = some id

/-- A cache that comes from a fresh one by any changes of its parts: a listing is taken in, a criterion is put in
place, and then some part of the listing is tracked. An operation makes two of these changes one after the other;
other operations may come in between and behind, and none need come. -/
inductive Reachable : Cache → Prop where
  | fresh (cr : Criterion) : Reachable (fresh cr)
  | listing {c : Cache} (objects : List Value) (h : Reachable c) : Reachable { c with listing := index objects }
  | criterion {c : Cache} (cr : Criterion) (h : Reachable c) : Reachable { c with criterion := cr }
  | tracked {c : Cache} (passes : Identity × Value → Bool) (h : Reachable c) :
    Reachable { c with tracked := c.listing.filter passes }

/-- List and lookup describe one map: what is tracked under an identity has it; the list increases strictly by the
identities, has each tracked object exactly once, and has an object with an identity exactly where the lookup finds
one, which it is. -/
structure OneMap (c : Cache) : Prop where
  keyed : ∀ id v, Table.get? id c.tracked = some v → v.identity? = some id
  increasing : c.toList.Pairwise Value.Precedes
  nodup : c.toList.Nodup
  tracked : c.toList.Perm (c.tracked.map (·.2))
  get : ∀ id v, c.get? id = some v ↔ v ∈ c.toList ∧ v.identity? = some id

section Keyed
variable {c : Cache} {t : List (Identity × Value)} {objects : List Value} {id : Identity} {v : Value}

/-! ### Tables keyed by identities -/

theorem keyed_nil : Keyed [] :=
  ⟨List.nodup_nil, fun _ _ => nofun⟩

theorem keyed_index : Keyed (index objects) := by
  refine ⟨nodup_keys_index, fun id v hv => ?_⟩
  rw [← Table.get?_eq_some_iff nodup_keys_index, get?_index] at hv
  exact beq_iff_eq.mp (Table.of_findRev? hv).2

theorem Keyed.filter (h : Keyed t) (passes : Identity × Value → Bool) : Keyed (t.filter passes) :=
  ⟨Table.nodup_keys_filter h.nodup passes, fun id v hv => h.identity id v (List.mem_filter.mp hv).1⟩

theorem Keyed.get? (h : Keyed t) (hv : Table.get? id t = some v) : v.identity? = some id :=
  h.identity id v (Table.mem_of_get? hv)

/-- Both tables of a cache are keyed at the start, and every change keeps them so. -/
theorem Reachable.keyed (h : Reachable c) : Keyed c.listing ∧ Keyed c.tracked := by
  -- The listing may have gone on without what is tracked, so neither table follows from the other.
  induction h with
  | fresh cr => exact ⟨keyed_nil, keyed_nil⟩
  | listing objects _ ih => exact ⟨keyed_index, ih.2⟩
  | criterion cr _ ih => exact ih
  | tracked passes _ ih => exact ⟨ih.1, ih.1.filter passes⟩

/-! ### The list of a keyed table -/

/-- What a table holds under its keys, in their order, are its values. -/
theorem filterMap_get?_keys (h : (Table.keys t).Nodup) :
    (Table.keys t).filterMap (fun id => Table.get? id t) = t.map (·.2) := by
  have hentries : ∀ entry ∈ t, Table.get? entry.1 t = some entry.2 :=
    fun _ hentry => (Table.get?_eq_some_iff h).mpr hentry
  rw [Table.keys, List.filterMap_map, ← List.filterMap_eq_map]
  exact List.filterMap_congr hentries

theorem toList_perm (h : Keyed c.tracked) : c.toList.Perm (c.tracked.map (·.2)) := by
  rw [← filterMap_get?_keys h.nodup]
  exact Identity.sorted_perm.filterMap _

theorem mem_toList (h : Keyed c.tracked) : v ∈ c.toList ↔ ∃ id, (id, v) ∈ c.tracked := by
  rw [(toList_perm h).mem_iff, List.mem_map]
  exact ⟨fun ⟨entry, hentry, hv⟩ => ⟨entry.1, hv ▸ hentry⟩, fun ⟨id, hv⟩ => ⟨(id, v), hv, rfl⟩⟩

theorem pairwise_toList (h : Keyed c.tracked) : c.toList.Pairwise Value.Precedes := by
  refine List.pairwise_filterMap.mpr ((Identity.pairwise_sorted h.nodup).imp ?_)
  intro a b hbefore v hv w hw
  exact ⟨a, b, h.get? hv, h.get? hw, Identity.before_iff.mp hbefore⟩

theorem not_precedes_self : ¬ v.Precedes v := by
  rintro ⟨a, b, ha, hb, hbefore⟩
  cases ha.symm.trans hb
  exact Identity.before_irrefl (Identity.before_iff.mpr hbefore)

theorem nodup_toList (h : Keyed c.tracked) : c.toList.Nodup := by
  refine (pairwise_toList h).imp ?_
  rintro v _ hprecedes rfl
  exact not_precedes_self hprecedes

theorem get?_iff_mem_toList (h : Keyed c.tracked) : c.get? id = some v ↔ v ∈ c.toList ∧ v.identity? = some id := by
  rw [Cache.get?, Table.get?_eq_some_iff h.nodup, mem_toList h]
  constructor
  · intro hv
    exact ⟨⟨id, hv⟩, h.identity id v hv⟩
  · rintro ⟨⟨n, hv⟩, hid⟩
    -- The object stands under its own identity, which is the one asked for.
    cases (h.identity n v hv).symm.trans hid
    exact hv

theorem Reachable.oneMap (h : Reachable c) : OneMap c where
  keyed := fun _ _ => h.keyed.2.get?
  increasing := pairwise_toList h.keyed.2
  nodup := nodup_toList h.keyed.2
  tracked := toList_perm h.keyed.2
  get := fun _ _ => get?_iff_mem_toList h.keyed.2

theorem Reachable.of_exact (h : Exact objects c) : Reachable c := by
  obtain ⟨hlisting, htracked, -⟩ := h
  obtain ⟨cr, listing, tracked⟩ := c
  dsimp only at hlisting htracked
  subst hlisting htracked
  exact (((Reachable.fresh cr).criterion cr).listing objects).tracked fun entry => cr.accepts entry.2

end Keyed

end Cache

namespace Monitor
open Cache

/-- List and lookup describe one map in every cache that is reached by any changes, and so in every cache that is seen
in a run: after each operation, returned or failed, and whenever a handler is called or answered. -/
theorem list_and_get_one_map : (∀ c, Reachable c → OneMap c) ∧
    ∀ depth cr handlers ops c, Seen depth (fresh cr handlers) ops c → Reachable c := by
  refine ⟨fun c h => h.oneMap, fun depth cr handlers ops c h => ?_⟩
  have exact' : Exact (lastListed ops) c := seen_exact h
  exact .of_exact exact'

/-- Two of the objects have one identity. The handler that gets the first upsert puts in a filter for that identity
and fails; before it does, it is shown the delete that comes of it. -/
theorem list_and_get_one_map_nested :
    let a : Value := .object (.str "a") (.str "y") [] (.str "")
    let b : Value := .object (.str "b") (.str "x") [] (.str "")
    let b' : Value := .object (.str "b") (.str "x") [] (.str "Pod")
    let h : Handler := ⟨fun _ _ event =>
      if event.isUpsert then .refilter (.filter (.names [⟨"x", "b"⟩])) fun _ => .fail (.handler "stop") else .done⟩
    let ops : List Op := [.register "h" h] ++ [.update (.sync [a, b, b'] none)]
    ∃ c, Seen 1 (fresh (.filter .null) []) ops c ∧ Table.keys c.tracked = [⟨"x", "b"⟩] ∧ OneMap c := by
  intro a b b' h ops
  have shown : (((fresh (.filter .null) []).run 1 ops).journal.drop
      ((fresh (.filter .null) []).run 1 [.register "h" h]).journal.length).any
      (fun e => e.cache?.any fun c => Table.keys c.tracked == [⟨"x", "b"⟩]) = true := by
    decide +kernel
  obtain ⟨e, he, hc⟩ := List.any_eq_true.mp shown
  obtain ⟨c, hc, hkeys⟩ := (Option.any_eq_true _ _).mp hc
  have seen : Seen 1 (fresh (.filter .null) []) ops c := .within he hc
  obtain ⟨onemap, reached⟩ := list_and_get_one_map
  exact ⟨c, seen, beq_iff_eq.mp hkeys, onemap c (reached _ _ _ _ _ seen)⟩

end Monitor

end ObjectWatch
