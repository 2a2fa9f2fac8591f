import Mathlib.Data.List.Forall2
import ObjectWatch.Proofs.Manifest
import ObjectWatch.Proofs.Monitor.Delta

/-! A listing counts as a set of objects under their identities. The order of its objects, superseded ones and
    ones without an identity make no difference to what is tracked and deleted, and an object may stand in for
    an equal one; the order of the upserts is all that tells two such listings apart. -/

namespace ObjectWatch

/-- The last object with an identity. -/
def lastNamed (id : Identity) (objects : List Value) : Option Value :=
  objects.findRev? fun v => v.identity? == some id

/-- Two listings have equal objects under every identity. -/
def ListedAlike (objects objects' : List Value) : Prop :=
  ∀ id, Option.Rel (fun v w => v.equal w = true) (lastNamed id objects) (lastNamed id objects')

/-- Under every identity a listing has a typed object of texts, if any. -/
def ListsTexts (objects : List Value) : Prop :=
  ∀ id v, lastNamed id objects = some v → v.OfTexts

/-- Two tables have the same identities, and equal objects under them. -/
def TablesAlike (t u : List (Identity × Value)) : Prop :=
  ∀ id, Option.Rel (fun v w => v.equal w = true) (Table.get? id t) (Table.get? id u)

section Listings
variable {objects objects' : List Value} {id : Identity} {v : Value}

theorem mem_of_lastNamed (h : lastNamed id objects = some v) : v ∈ objects :=
  (Table.of_findRev? h).1

theorem identity?_of_lastNamed (h : lastNamed id objects = some v) : v.identity? = some id :=
  beq_iff_eq.mp (Table.of_findRev? h).2

theorem lastNamed_eq_none (h : id ∉ objects.filterMap Value.identity?) : lastNamed id objects = none := by
  rw [lastNamed, List.findRev?_eq_find?_reverse, List.find?_eq_none]
  intro v hv hid
  exact h (List.mem_filterMap.mpr ⟨v, List.mem_reverse.mp hv, beq_iff_eq.mp hid⟩)

theorem listsTexts_of_typed (h : ∀ v ∈ objects, v.Typed) : ListsTexts objects :=
  fun _ v hv => (h v (mem_of_lastNamed hv)).ofTexts

/-- Objects without an identity may be anything. -/
theorem listsTexts_of_named (h : ∀ v ∈ objects, v.identity?.isSome = true → v.OfTexts) : ListsTexts objects := by
  intro id v hv
  refine h v (mem_of_lastNamed hv) ?_
  rw [identity?_of_lastNamed hv]
  rfl

theorem ListedAlike.symm (h : ListedAlike objects objects') (htexts : ListsTexts objects)
    (htexts' : ListsTexts objects') : ListedAlike objects' objects := by
  intro id
  have hid := h id
  generalize hv : lastNamed id objects = o, hw : lastNamed id objects' = o' at hid ⊢
  cases hid with
  | none => exact .none
  | some hequal => exact .some ((htexts id _ hv).equal_symm (htexts' id _ hw) hequal)

end Listings

namespace TablesAlike
variable {t u old new new' : List (Identity × Value)} {id : Identity}

theorem mem_keys_iff (h : TablesAlike t u) : id ∈ Table.keys t ↔ id ∈ Table.keys u :=
  Table.mem_keys_iff_of_rel (h id)

theorem keys_perm (h : TablesAlike t u) (ht : (Table.keys t).Nodup) (hu : (Table.keys u).Nodup) :
    (Table.keys t).Perm (Table.keys u) :=
  (List.perm_ext_iff_of_nodup ht hu).mpr fun _ => h.mem_keys_iff

/-- What goes is found by the identities alone. -/
theorem deletes_eq (h : TablesAlike new new') : Cache.deletes old new = Cache.deletes old new' := by
  have hhas (n : Identity) : Table.has n new = Table.has n new' := by
    rw [Bool.eq_iff_iff, Table.has_iff, Table.has_iff]
    exact h.mem_keys_iff
  simp only [Cache.deletes, hhas]

/-- An identity has an upsert to both of two alike tables, or to neither. -/
theorem upsert_iff (h : TablesAlike new new') (hnew : (Table.keys new).Nodup) (hnew' : (Table.keys new').Nodup)
    (hold : ∀ v, Table.get? id old = some v → v.OfTexts) (htexts : ∀ v, Table.get? id new = some v → v.OfTexts)
    (htexts' : ∀ v, Table.get? id new' = some v → v.OfTexts) :
    (∃ v, .upsert id v ∈ Cache.changes old new) ↔ ∃ v, .upsert id v ∈ Cache.changes old new' := by
  have hid := h id
  simp only [Cache.upsert_mem_changes, ← Table.get?_eq_some_iff hnew, ← Table.get?_eq_some_iff hnew']
  generalize Table.get? id new = o, Table.get? id new' = o' at hid htexts htexts' ⊢
  cases hid with
  | none => simp
  | @some v v' hequal =>
    have hv := htexts v rfl
    have hv' := htexts' v' rfl
    simp only [Option.some.injEq, exists_eq_left']
    refine forall₂_congr fun w hw => ?_
    have hw := hold w hw
    rw [← Bool.not_eq_true, ← Bool.not_eq_true, not_iff_not]
    constructor
    · intro hwv
      exact hw.equal_trans hv hv' hwv hequal
    · intro hwv'
      exact hw.equal_trans hv' hv hwv' (hv.equal_symm hv' hequal)

end TablesAlike

namespace Cache
variable {objects objects' : List Value} {c c' : Cache} {id : Identity} {v w : Value}

theorem Exact.get?_tracked (h : Exact objects c) :
    Table.get? id c.tracked = (lastNamed id objects).filter c.criterion.accepts := by
  rw [h.tracked, h.listing, Table.get?_filter nodup_keys_index, get?_index]
  rfl

theorem Exact.ofTexts_tracked (h : Exact objects c) (htexts : ListsTexts objects)
    (hv : Table.get? id c.tracked = some v) : v.OfTexts := by
  rw [h.get?_tracked, Option.filter_eq_some_iff] at hv
  exact htexts id v hv.1

theorem accepts_eq_of_equal {cr : Criterion} (hv : v.OfTexts) (hw : w.OfTexts) (h : v.equal w = true) :
    cr.accepts v = cr.accepts w := by
  cases cr with
  | filter f => exact hv.accept_eq hw h f
  | unconditional => rfl
  | foreign u => rfl

/-- Exact caches of listings that say the same track the same. -/
theorem Exact.tracked_alike (h : Exact objects c) (h' : Exact objects' c') (hcriterion : c'.criterion = c.criterion)
    (htexts : ListsTexts objects) (htexts' : ListsTexts objects') (halike : ListedAlike objects objects') :
    TablesAlike c.tracked c'.tracked := by
  intro id
  have hid := halike id
  rw [h.get?_tracked, h'.get?_tracked, hcriterion]
  generalize hv : lastNamed id objects = o, hw : lastNamed id objects' = o' at hid ⊢
  cases hid with
  | none => exact .none
  | @some v w hequal =>
    have haccepts : c.criterion.accepts v = c.criterion.accepts w :=
      accepts_eq_of_equal (htexts id v hv) (htexts' id w hw) hequal
    rw [Option.filter_some, Option.filter_some, haccepts]
    split
    · exact .some hequal
    · exact .none

/-- Between exact caches of listings that say the same there is no event. -/
theorem Exact.changes_eq_nil (h : Exact objects c) (h' : Exact objects' c') (hcriterion : c'.criterion = c.criterion)
    (htexts : ListsTexts objects) (htexts' : ListsTexts objects') (halike : ListedAlike objects objects') :
    changes c.tracked c'.tracked = [] :=
  (changes_eq_nil_iff h'.nodup_keys).mpr (h.tracked_alike h' hcriterion htexts htexts' halike)

theorem toList_alike (hc : (Table.keys c.tracked).Nodup) (hc' : (Table.keys c'.tracked).Nodup)
    (h : TablesAlike c.tracked c'.tracked) :
    List.Forall₂ (fun v w => v.equal w = true) c.toList c'.toList := by
  have hsorted : Identity.sorted (Table.keys c.tracked) = Identity.sorted (Table.keys c'.tracked) :=
    Identity.sorted_eq_of_perm hc (h.keys_perm hc hc')
  unfold toList
  rw [hsorted]
  refine List.rel_filterMap (R := (· = ·)) ?_ (List.forall₂_refl _)
  rintro n _ rfl
  exact h n

end Cache

namespace Monitor
open Cache
variable {change : Criterion → Operation Bool} {depth : Nat} {m n n' : Monitor} {cr : Criterion}
  {handlers : List (String × Handler)} {ops : List Op} {before objects objects' : List Value}

theorem sync_criterion (hn : (Update.sync objects none).perform holds depth m = n)
    (hcalm : CalmIn m.handlers n.journal) : n.cache.criterion = m.cache.criterion := by
  subst hn
  rw [(perform_calm (u := .sync objects none) hcalm List.prefix_rfl).cache]
  exact reconciled_criterion (c := { m.cache with listing := index objects })

/-- A listing that says the same as the one before publishes nothing. -/
theorem sync_silent (hm : Exact before m.cache) (htexts : ListsTexts before) (htexts' : ListsTexts objects)
    (halike : ListedAlike before objects) : (syncVia change objects none m).2.published = m.published := by
  have skipped : Noted m (logSkipped objects m) := .logSkipped
  unfold syncVia
  simp only [skipped.cache]
  rcases @reconcile_cases change ((logSkipped objects m).withCache { m.cache with listing := index objects }) with
    ⟨cause, -, -, hreconcile⟩ | ⟨n, tracked, hok, hreconcile⟩
  · rw [hreconcile]
    exact skipped.published
  · have hevents : ((logSkipped objects m).withCache { m.cache with listing := index objects }).cache.reconciled.2 = [] :=
      (reconcile_events hok).trans (hm.changes_eq_nil hm.sync reconciled_criterion htexts htexts' halike)
    rw [hreconcile, hevents]
    exact tracked.published.trans skipped.published

/-- After any run, two listings with equal last objects under every identity, typed objects of texts, lead to
the same tracked objects, which are listed in the same order. They upsert the same identities and delete the
same objects in the same order, and either publishes nothing behind the other. -/
theorem listing_counts_as_set (hm : (fresh cr handlers).run depth ops = m)
    (hn : (Update.sync objects none).perform holds depth m = n)
    (hn' : (Update.sync objects' none).perform holds depth m = n')
    (hcalm : CalmIn m.handlers n.journal) (hcalm' : CalmIn m.handlers n'.journal)
    (hlisted : ListsTexts (lastListed ops)) (htexts : ListsTexts objects) (htexts' : ListsTexts objects')
    (halike : ListedAlike objects objects') :
    (Table.keys n.cache.tracked).Perm (Table.keys n'.cache.tracked) ∧ TablesAlike n.cache.tracked n'.cache.tracked ∧
    List.Forall₂ (fun v w => v.equal w = true) n.cache.toList n'.cache.toList ∧
    (∃ events events', n.published = m.published ++ announced m.handlers events ∧
      n'.published = m.published ++ announced m.handlers events' ∧
      (∀ id, (∃ v, .upsert id v ∈ events) ↔ ∃ v, .upsert id v ∈ events') ∧
      events.filter (!·.isUpsert) = events'.filter (!·.isUpsert)) ∧
    ((Update.sync objects' none).perform holds depth n).published = n.published ∧
    ((Update.sync objects none).perform holds depth n').published = n'.published := by
  subst hm
  have start : Exact (lastListed ops) ((fresh cr handlers).run depth ops).cache := run_exact
  have after : Exact objects n.cache := hn ▸ (update_exact (u := .sync objects none) start).cache
  have after' : Exact objects' n'.cache := hn' ▸ (update_exact (u := .sync objects' none) start).cache
  have hcriterion : n'.cache.criterion = n.cache.criterion :=
    (sync_criterion hn' hcalm').trans (sync_criterion hn hcalm).symm
  have alike : TablesAlike n.cache.tracked n'.cache.tracked :=
    after.tracked_alike after' hcriterion htexts htexts' halike
  refine ⟨?_, alike, ?_, ⟨_, _, published_changes hn start (.sync objects) hcalm,
    published_changes hn' start (.sync objects') hcalm', ?_, ?_⟩, ?_, ?_⟩
  · exact alike.keys_perm after.nodup_keys after'.nodup_keys
  · exact toList_alike after.nodup_keys after'.nodup_keys alike
  · intro id
    exact alike.upsert_iff after.nodup_keys after'.nodup_keys (fun v => start.ofTexts_tracked hlisted)
      (fun v => after.ofTexts_tracked htexts) fun v => after'.ofTexts_tracked htexts'
  · rw [filter_not_isUpsert_changes, filter_not_isUpsert_changes]
    exact alike.deletes_eq
  · exact sync_silent after htexts htexts' halike
  · exact sync_silent after' htexts' htexts (halike.symm htexts htexts')

/-- The second listing has the labels of `b` in another order, an old `a` that the new one supersedes, and two
objects without an identity. The listing before both had an `a` and a `c`. -/
theorem listing_counts_as_set_reordered :
    let a : Value := .object (.str "a") (.str "") [] (.str "Pod")
    let old : Value := .object (.str "a") (.str "") [] (.str "Node")
    let b : Value := .service (.str "b") (.str "") [(.str "x", .str "1"), (.str "y", .str "2")] (.str "Service") []
    let b' : Value := .service (.str "b") (.str "") [(.str "y", .str "2"), (.str "x", .str "1")] (.str "Service") []
    let c : Value := .object (.str "c") (.str "") [] (.str "Pod")
    let unnamed : Value := .object (.str "") (.str "") [] (.str "Pod")
    let m := (fresh (.filter .null) [("map", Handler.silent)]).run 1 [.update (.sync [old, c] none)]
    let n := (Update.sync [a, b] none).perform holds 1 m
    let n' := (Update.sync [unnamed, b', old, .null, a] none).perform holds 1 m
    ListedAlike [a, b] [unnamed, b', old, .null, a] ∧
      TablesAlike n.cache.tracked n'.cache.tracked ∧
      List.Forall₂ (fun v w => v.equal w = true) n.cache.toList n'.cache.toList ∧
      ((Update.sync [unnamed, b', old, .null, a] none).perform holds 1 n).published = n.published := by
  intro a old b b' c unnamed m n n'
  have grown : Grown (fun _ => True) (fresh (.filter .null) [("map", Handler.silent)]) m :=
    perform_grows (u := .sync [old, c] none)
  have calm (journal : List Entry) : CalmIn m.handlers journal := by
    rw [grown.handlers]
    exact calmIn_silent
  have object {name kind : String} : Value.OfTexts (.object (.str name) (.str "") [] (.str kind)) :=
    .object Value.textual_nil
  have hb : b.OfTexts := .service ⟨by simp, by simp⟩ Value.textual_nil
  have hb' : b'.OfTexts := .service ⟨by simp, by simp⟩ Value.textual_nil
  have before : ListsTexts (lastListed [.update (.sync [old, c] none)]) := listsTexts_of_named <| by
    rintro v (_ | ⟨_, _ | ⟨_, ⟨⟩⟩⟩) _
    · exact object
    · exact object
  have first : ListsTexts [a, b] := listsTexts_of_named <| by
    rintro v (_ | ⟨_, _ | ⟨_, ⟨⟩⟩⟩) _
    · exact object
    · exact hb
  have second : ListsTexts [unnamed, b', old, .null, a] := listsTexts_of_named <| by
    rintro v (_ | ⟨_, _ | ⟨_, _ | ⟨_, _ | ⟨_, _ | ⟨_, ⟨⟩⟩⟩⟩⟩⟩) hv
    · exact object
    · exact hb'
    · exact object
    · cases hv
    · exact object
  have alike : ListedAlike [a, b] [unnamed, b', old, .null, a] := by
    intro id
    by_cases ha : id = ⟨"", "a"⟩
    · rw [ha]
      exact .some object.equal_refl
    by_cases hid : id = ⟨"", "b"⟩
    · rw [hid]
      exact .some (by decide +kernel : b.equal b' = true)
    · have names : [a, b].filterMap Value.identity? = [⟨"", "a"⟩, ⟨"", "b"⟩] := by decide +kernel
      have names' : [unnamed, b', old, .null, a].filterMap Value.identity? = [⟨"", "b"⟩, ⟨"", "a"⟩, ⟨"", "a"⟩] := by
        decide +kernel
      rw [lastNamed_eq_none (by simp [names, ha, hid]), lastNamed_eq_none (by simp [names', ha, hid])]
      exact .none
  have reached : (Update.sync [a, b] none).perform holds 1 m = n := rfl
  have reached' : (Update.sync [unnamed, b', old, .null, a] none).perform holds 1 m = n' := rfl
  obtain ⟨-, tables, lists, -, silent, -⟩ :=
    listing_counts_as_set (m := m) rfl reached reached' (calm _) (calm _) before first second alike
  exact ⟨alike, tables, lists, silent⟩

end Monitor

end ObjectWatch
