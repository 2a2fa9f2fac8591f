import ObjectWatch.Proofs.Monitor.Replay

/-! Handlers that fail. What is tracked changes before the first event is delivered, so an update that a
    failing handler cuts off has changed the cache all the same, and the next one finds only what changed
    since. A map fed by the events stays wrong about an identity until the object changes once more. -/

namespace ObjectWatch

/-- A reaction that does not change the filter. It may fail. -/
def Reaction.Direct : Reaction → Prop
  | done | fail _ => True
  | note _ next => next.Direct
  | refilter _ _ => False

namespace Monitor

/-- No update fails. -/
def Returns (equal : Filter → Criterion → Bool) (depth : Nat) : List Update → Monitor → Prop
  | [], _ => True
  | u :: us, m => u.result equal depth m = .ok () ∧ Returns equal depth us (u.perform equal depth m)

/-- A map that a handler keeps by the events that it gets is right about an identity. -/
def RightAbout (name : String) (id : Identity) (m : Monitor) : Prop :=
  id ∈ Table.keys (replay [] (m.received name)) ↔ id ∈ Table.keys m.cache.tracked

/-- From `m` to `n` the cache turns into another one, and the deliveries of the events are made up to some
point, all of them if the operation returned. -/
structure Cut (m n : Monitor) (r : Cache × List Event) (returned : Prop) : Prop where
  cache : n.cache = r.1
  handlers : n.handlers = m.handlers
  published : ∃ made lost, announced m.handlers r.2 = made ++ lost ∧ n.published = m.published ++ made ∧
    (returned → lost = [])

section Direct
variable {change : Criterion → Operation Bool} {equal : Filter → Criterion → Bool} {depth : Nat} {m n : Monitor}
  {handlers : List (String × Handler)} {journal : List Entry}

theorem run_direct {r : Reaction} (hr : r.Direct) : Noted m (r.run change m).2 := by
  induction r generalizing m with
  | done => exact .refl m
  | fail cause => exact .refl m
  | note record next ih => exact Noted.record.trans (ih hr)
  | refilter c next ih => exact hr.elim

theorem deliver_direct (hchange : ∀ c m, True → Kept (fun _ => True) m (change c m).2)
    {ds : List (String × Handler × Event)} (hds : ∀ d ∈ ds, (d.1, d.2.1) ∈ handlers)
    (hdirect : ReactedIn Reaction.Direct handlers journal) (hgrown : (deliver change ds m).2.journal <+: journal) :
    ∃ made lost, ds.map (fun d => (d.1, d.2.2)) = made ++ lost ∧ Delivered m (deliver change ds m).2 made ∧
      ((deliver change ds m).1 = .ok () → lost = []) := by
  induction ds generalizing m with
  | nil => exact ⟨[], [], rfl, ⟨rfl, rfl, (List.append_nil _).symm⟩, fun _ => rfl⟩
  | cons d rest ih =>
    have hreaction : (d.2.1.react m.cache m.journal d.2.2).Direct :=
      ReactedIn.first hdirect hchange (hds d List.mem_cons_self) hgrown
    have hnoted : Noted (m.write (.delivery ⟨d.1, d.2.2, m.cache⟩)) ((d.2.1.react m.cache m.journal d.2.2).run change
        (m.write (.delivery ⟨d.1, d.2.2, m.cache⟩))).2 := run_direct hreaction
    rw [deliver] at hgrown ⊢
    cases hrun : (d.2.1.react m.cache m.journal d.2.2).run change (m.write (.delivery ⟨d.1, d.2.2, m.cache⟩)) with
    | mk result n =>
      rw [hrun] at hnoted
      simp only [hrun] at hgrown ⊢
      cases result with
      | error cause =>
        refine ⟨[(d.1, d.2.2)], rest.map fun d => (d.1, d.2.2), rfl, ⟨hnoted.cache, hnoted.handlers, ?_⟩, ?_⟩
        · rw [hnoted.published, published_write_delivery]
        · intro hok
          cases hok
      | ok =>
        obtain ⟨made, lost, hsplit, hmade, hall⟩ := ih (fun d hd => hds d (List.mem_cons_of_mem _ hd)) hgrown
        refine ⟨(d.1, d.2.2) :: made, lost, congrArg _ hsplit, ⟨?_, ?_, ?_⟩, hall⟩
        · exact hmade.cache.trans hnoted.cache
        · exact hmade.handlers.trans hnoted.handlers
        · rw [hmade.published, hnoted.published, published_write_delivery, List.append_assoc]
          rfl

theorem Cut.refl {returned : Prop} : Cut m m (m.cache, []) returned :=
  ⟨rfl, rfl, [], [], rfl, (List.append_nil _).symm, fun _ => rfl⟩

theorem Cut.after {o : Monitor} {r : Cache × List Event} {returned returned' : Prop} (hq : Quiet m n)
    (h : Cut n o r returned) (hreturned : returned' → returned) : Cut m o r returned' := by
  obtain ⟨made, lost, hsplit, hpublished, hall⟩ := h.published
  refine ⟨h.cache, h.handlers.trans hq.handlers, made, lost, hq.handlers ▸ hsplit, ?_, fun h => hall (hreturned h)⟩
  rw [hpublished, hq.published]

theorem reconcile_direct (hchange : ∀ c m, True → Kept (fun _ => True) m (change c m).2)
    (hdirect : ReactedIn Reaction.Direct m.handlers journal) (hgrown : (reconcile change m).2.journal <+: journal) :
    Cut m (reconcile change m).2 m.cache.reconciled ((reconcile change m).1 = .ok ()) := by
  rcases @reconcile_cases change m with ⟨cause, -, hcache, hreconcile⟩ | ⟨n, tracked, -, hreconcile⟩
  · rw [hcache, hreconcile]
    exact .refl
  · rw [hreconcile] at hgrown ⊢
    obtain ⟨made, lost, hsplit, hmade, hall⟩ := deliver_direct hchange (fun d hd => (mem_plan.mp hd).1) hdirect hgrown
    rw [plan_published] at hsplit
    refine ⟨hmade.cache.trans tracked.cache, hmade.handlers.trans tracked.handlers, made, lost, hsplit, ?_, hall⟩
    exact hmade.published.trans (congrArg (· ++ made) tracked.published)

theorem perform_direct {u : Update} (hdirect : ReactedIn Reaction.Direct m.handlers journal)
    (hgrown : (u.perform equal depth m).journal <+: journal) :
    Cut m (u.perform equal depth m) (u.apply equal m.cache) (u.result equal depth m = .ok ()) := by
  rcases @perform_cases equal depth u m with ⟨hnoted, happly⟩ | ⟨n, c, hnoted, -, happly, hperform, hresult⟩
  · rw [happly, ← hnoted.cache]
    exact .after (.of_noted hnoted) .refl id
  · rw [hperform] at hgrown ⊢
    rw [happly]
    have cut := reconcile_direct refilterAt_grows (m := n.withCache c) (hnoted.handlers ▸ hdirect) hgrown
    exact .after ((Quiet.of_noted hnoted).trans .withCache) cut hresult.symm.trans

/-- A handler gets the events in their order up to some point, and all of them without a failure. -/
theorem Cut.received {r : Cache × List Event} {returned : Prop} {name : String}
    (hnames : (Table.keys m.handlers).Nodup) (hname : name ∈ Table.keys m.handlers) (h : Cut m n r returned) :
    ∃ got, got <+: r.2 ∧ n.received name = m.received name ++ got ∧ (returned → got = r.2) := by
  obtain ⟨made, lost, hsplit, hpublished, hall⟩ := h.published
  have hevents : (announced m.handlers r.2).filterMap (fun p => if p.1 = name then some p.2 else none) = r.2 :=
    received_announced hnames hname
  rw [hsplit, List.filterMap_append] at hevents
  refine ⟨_, ⟨_, hevents⟩, ?_, fun h => ?_⟩
  · rw [Monitor.received, hpublished, List.filterMap_append]
    rfl
  · rw [hall h, List.filterMap_nil, List.append_nil] at hevents
    exact hevents

end Direct

/-! ### What a map is right about -/

section Right
variable {equal : Filter → Criterion → Bool} {depth : Nat} {m : Monitor} {journal : List Entry} {name : String}
  {id : Identity} {u : Update} {us : List Update} {old new t : List (Identity × Value)}

theorem isUpsert_iff_of_mem_changes {e : Event} (he : e ∈ Cache.changes old new) :
    e.isUpsert = true ↔ e.id ∈ Table.keys new := by
  cases e with
  | upsert n v => exact iff_of_true rfl (Table.mem_keys_of_mem (Cache.upsert_mem_changes.mp he).1)
  | delete n v => exact iff_of_false nofun (Cache.delete_mem_changes.mp he).2

/-- Where there is an event for an identity, a map that takes in the events has it if the new table does. -/
theorem mem_keys_replay_changes (hid : id ∈ (Cache.changes old new).map Event.id) :
    id ∈ Table.keys (replay t (Cache.changes old new)) ↔ id ∈ Table.keys new := by
  cases hlast : (Cache.changes old new).findRev? fun e => e.id == id with
  | none =>
    obtain ⟨e, he, rfl⟩ := List.mem_map.mp hid
    rw [List.findRev?_eq_find?_reverse, List.find?_eq_none] at hlast
    exact absurd (hlast e (List.mem_reverse.mpr he)) (by simp)
  | some e =>
    obtain ⟨he, heid⟩ := Table.of_findRev? hlast
    rw [mem_keys_replay_of_last hlast, ← beq_iff_eq.mp heid]
    exact isUpsert_iff_of_mem_changes he

/-- What an update that returns makes a map right about: what it has an event for, besides what the map was
right about before. -/
theorem rightAbout_perform (hnames : (Table.keys m.handlers).Nodup) (hname : name ∈ Table.keys m.handlers)
    (hdirect : ReactedIn Reaction.Direct m.handlers journal) (hgrown : (u.perform equal depth m).journal <+: journal)
    (hreturned : u.result equal depth m = .ok ()) : (u.perform equal depth m).RightAbout name id ↔
      id ∈ (u.apply equal m.cache).2.map Event.id ∨ m.RightAbout name id := by
  have cut := perform_direct hdirect hgrown
  obtain ⟨got, -, hreceived, hall⟩ := cut.received hnames hname
  have hreplay : replay [] ((u.perform equal depth m).received name) =
      replay (replay [] (m.received name)) (u.apply equal m.cache).2 := by
    rw [hreceived, hall hreturned, replay, List.foldl_append]
    rfl
  rw [RightAbout, hreplay, cut.cache]
  rcases @Update.apply_changes equal u m.cache with hevents | ⟨hevents, htracked⟩
  · rw [hevents]
    by_cases hid : id ∈ (Cache.changes m.cache.tracked (u.apply equal m.cache).1.tracked).map Event.id
    · exact iff_of_true (mem_keys_replay_changes hid) (.inl hid)
    · -- Without an event for the identity, neither the map nor the cache changes there.
      have hcache : id ∈ Table.keys m.cache.tracked ↔ id ∈ Table.keys (u.apply equal m.cache).1.tracked :=
        Cache.mem_keys_iff_of_no_change fun e he heid => hid (heid ▸ List.mem_map_of_mem he)
      rw [or_iff_right hid, RightAbout, Table.mem_keys_iff_get?, get?_replay_of_not_mem hid, ← Table.mem_keys_iff_get?,
        hcache]
  · rw [hevents, htracked]
    exact (or_iff_right List.not_mem_nil).symm

theorem updateAll_direct (hnames : (Table.keys m.handlers).Nodup) (hname : name ∈ Table.keys m.handlers)
    (hdirect : ReactedIn Reaction.Direct m.handlers journal)
    (hgrown : (m.updateAll equal depth us).journal <+: journal) :
    (m.updateAll equal depth us).cache = (m.cache.applyAll equal us).1 ∧
      ∃ got, got.Sublist (m.cache.applyAll equal us).2 ∧
        (m.updateAll equal depth us).received name = m.received name ++ got := by
  induction us generalizing m with
  | nil => exact ⟨rfl, [], .refl _, (List.append_nil _).symm⟩
  | cons u us ih =>
    have hgrown' : (u.perform equal depth m).journal <+: journal := updateAll_grows.journal_le.trans hgrown
    have cut := perform_direct hdirect hgrown'
    obtain ⟨got, hgot, hreceived, -⟩ := cut.received hnames hname
    obtain ⟨hcache, got', hgot', hreceived'⟩ := ih (cut.handlers ▸ hnames) (cut.handlers ▸ hname)
      (cut.handlers ▸ hdirect) hgrown
    rw [cut.cache] at hcache hgot'
    refine ⟨hcache, got ++ got', hgot.sublist.append hgot', ?_⟩
    rw [← List.append_assoc, ← hreceived]
    exact hreceived'

theorem rightAbout_updateAll (hnames : (Table.keys m.handlers).Nodup) (hname : name ∈ Table.keys m.handlers)
    (hdirect : ReactedIn Reaction.Direct m.handlers journal)
    (hgrown : (m.updateAll equal depth us).journal <+: journal) (hreturned : Returns equal depth us m) :
    (m.updateAll equal depth us).RightAbout name id ↔
      id ∈ (m.cache.applyAll equal us).2.map Event.id ∨ m.RightAbout name id := by
  induction us generalizing m with
  | nil => exact (or_iff_right List.not_mem_nil).symm
  | cons u us ih =>
    have hgrown' : (u.perform equal depth m).journal <+: journal := updateAll_grows.journal_le.trans hgrown
    have cut := perform_direct hdirect hgrown'
    have rest := ih (cut.handlers ▸ hnames) (cut.handlers ▸ hname) (cut.handlers ▸ hdirect) hgrown hreturned.2
    rw [rightAbout_perform hnames hname hdirect hgrown' hreturned.1, cut.cache] at rest
    refine rest.trans ?_
    rw [Cache.applyAll, List.map_append, List.mem_append, or_left_comm, or_assoc]

end Right

section Runs
variable {depth : Nat} {cr : Criterion} {handlers : List (String × Handler)} {us later : List Update} {name : String}

/-- In a run in which handlers may fail but none changes the filter, the cache takes in every update, and a
handler gets some of the events, in their order. After updates that return, a map that the handler keeps is
right about an identity exactly if they had an event for it or the map was right about it before them. -/
theorem lost_until_changed (hnames : (Table.keys handlers).Nodup) (hname : name ∈ Table.keys handlers)
    (hdirect : ReactedIn Reaction.Direct handlers ((fresh cr handlers).updateAll holds depth (us ++ later)).journal)
    (hreturned : Returns holds depth later ((fresh cr handlers).updateAll holds depth us)) :
    ((fresh cr handlers).updateAll holds depth (us ++ later)).cache =
      ((Cache.fresh cr).applyAll holds (us ++ later)).1 ∧
    (((fresh cr handlers).updateAll holds depth (us ++ later)).received name).Sublist
      ((Cache.fresh cr).applyAll holds (us ++ later)).2 ∧
    ∀ id, ((fresh cr handlers).updateAll holds depth (us ++ later)).RightAbout name id ↔
      id ∈ (((fresh cr handlers).updateAll holds depth us).cache.applyAll holds later).2.map Event.id ∨
        ((fresh cr handlers).updateAll holds depth us).RightAbout name id := by
  obtain ⟨hcache, got, hgot, hreceived⟩ := updateAll_direct (m := fresh cr handlers) hnames hname hdirect
    List.prefix_rfl
  refine ⟨hcache, hreceived ▸ hgot, fun id => ?_⟩
  have split : (fresh cr handlers).updateAll holds depth (us ++ later) =
      ((fresh cr handlers).updateAll holds depth us).updateAll holds depth later := List.foldl_append
  rw [split] at hdirect ⊢
  have hhandlers : ((fresh cr handlers).updateAll holds depth us).handlers = handlers := updateAll_grows.handlers
  exact rightAbout_updateAll (hhandlers.symm ▸ hnames) (hhandlers.symm ▸ hname) (hhandlers.symm ▸ hdirect)
    List.prefix_rfl hreturned

section FailingOn
variable (id : Identity)

/-- Fails when it is told of an identity. -/
def failingOn : Handler :=
  ⟨fun _ _ event => if event.id == id then .fail (.handler "handler failed") else .done⟩

theorem failingOn_direct {journal : List Entry} :
    ReactedIn Reaction.Direct [("map", Handler.silent), ("bad", failingOn id)] journal := by
  refine reactedIn_of_forall fun entry hentry c before event => ?_
  rcases List.mem_cons.mp hentry with rfl | hentry
  · trivial
  · cases List.mem_singleton.mp hentry
    by_cases hid : event.id = id <;> simp [failingOn, hid, Reaction.Direct]

end FailingOn

/-- The event for `b` is lost, and `b` has changed when it is listed again. -/
theorem lost_until_changed_again :
    let a : Value := .object (.str "a") (.str "") [] (.str "Pod")
    let b : Value := .object (.str "b") (.str "") [] (.str "Pod")
    let b' : Value := .object (.str "b") (.str "") [(.str "app", .str "web")] (.str "Pod")
    let handlers := [("map", Handler.silent), ("bad", failingOn ⟨"", "a"⟩)]
    let before := (fresh (.filter .null) handlers).updateAll holds 1 [.sync [a, b] none]
    let after := (fresh (.filter .null) handlers).updateAll holds 1 ([.sync [a, b] none] ++ [.sync [a, b'] none])
    ¬ before.RightAbout "map" ⟨"", "b"⟩ ∧ after.RightAbout "map" ⟨"", "b"⟩ := by
  intro a b b' handlers before after
  have named : "map" ∈ Table.keys handlers := by decide
  have returned : Returns holds 1 [.sync [a, b'] none] before := ⟨by decide +kernel, trivial⟩
  have right := (lost_until_changed (by decide) named (failingOn_direct _) returned).2.2
  exact ⟨by unfold RightAbout; decide +kernel, (right ⟨"", "b"⟩).mpr (.inl (by decide +kernel))⟩

/-- The handler behind the map fails on the first of two events. The next listing of the same objects finds
nothing new and returns, and the map has only one of the two tracked objects. -/
theorem lost_for_good :
    let a : Value := .object (.str "a") (.str "") [] (.str "Pod")
    let b : Value := .object (.str "b") (.str "") [] (.str "Pod")
    let handlers := [("map", Handler.silent), ("bad", failingOn ⟨"", "a"⟩)]
    let before := (fresh (.filter .null) handlers).updateAll holds 1 [.sync [a, b] none]
    let after := (fresh (.filter .null) handlers).updateAll holds 1 ([.sync [a, b] none] ++ [.sync [a, b] none])
    ReactedIn Reaction.Direct handlers after.journal ∧ Returns holds 1 [.sync [a, b] none] before ∧
      Table.keys (replay [] (after.received "map")) = [⟨"", "a"⟩] ∧
      Table.keys after.cache.tracked = [⟨"", "a"⟩, ⟨"", "b"⟩] := by
  intro a b handlers before after
  exact ⟨failingOn_direct _, ⟨by decide +kernel, trivial⟩, by decide +kernel, by decide +kernel⟩

end Runs

end Monitor

end ObjectWatch
