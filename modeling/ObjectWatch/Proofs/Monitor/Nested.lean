import ObjectWatch.Proofs.Monitor.Replay

/-! Handlers that change the filter from inside their callbacks. The events of such a change come in the
    middle of other events, which were found against what was tracked before it. Each event that was found is
    delivered to every handler in the end, so under every identity the cache holds what it held when a
    handler was last told of the identity (`Told`). A map fed by the events is right about an identity exactly
    if the last event for it was still true when it arrived. -/

namespace ObjectWatch

/-! ### Handlers that do not fail -/

/-- What may come of a change of the filter in which no handler fails: what is no filter is refused. -/
def Criterion.Answers : Criterion → Except Failure Bool → Prop
  | filter _, result => ∃ b, result = .ok b
  | unconditional, result => result = .error (.access .missing)
  | foreign v, result => result = .error (.access (v.callError "equals"))

/-- A reaction that does not fail as long as no other one does. -/
def Reaction.Steady : Reaction → Prop
  | done => True
  | fail _ => False
  | note _ next => next.Steady
  | refilter c next => ∀ result, c.Answers result → (next result).Steady

/-- What came of a change of the filter that a handler asked for. -/
def Entry.result? : Entry → Option (Except Failure Bool)
  | answer a => some a.result
  | record _ | delivery _ => none

/-- No change of the filter was refused for being nested too deep. -/
def Ends (journal : List Entry) : Prop :=
  ∀ e ∈ journal, e.result? ≠ some (.error .nestedTooDeep)

instance {journal : List Entry} : Decidable (Ends journal) :=
  inferInstanceAs (Decidable (∀ e ∈ journal, e.result? ≠ some (.error .nestedTooDeep)))

/-! ### What a handler was last told -/

/-- The last delivery of an event for an identity to a handler. -/
def lastTold (name : String) (id : Identity) (journal : List Entry) : Option Delivery :=
  (journal.filterMap Entry.delivery?).findRev? fun d => d.handler == name && d.event.id == id

/-- What the cache held when a handler was last told of an identity, or else before. -/
def lastSeen (name : String) (id : Identity) (before : Cache) (journal : List Entry) : Cache :=
  ((lastTold name id journal).map (·.cache)).getD before

/-- What an event tells is so at the moment at which it is delivered. -/
def Delivery.Holds (d : Delivery) : Prop :=
  d.event.isUpsert = true ↔ d.event.id ∈ Table.keys d.cache.tracked

instance {d : Delivery} : Decidable d.Holds :=
  inferInstanceAs (Decidable (_ ↔ _))

section LastTold
variable {name : String} {id : Identity} {before : Cache} {journal new : List Entry} {e : Entry}

theorem lastTold_append : lastTold name id (journal ++ new) = (lastTold name id new).or (lastTold name id journal) := by
  simp only [lastTold, List.filterMap_append, List.findRev?_eq_find?_reverse, List.reverse_append, List.find?_append]

theorem lastTold_of_no_delivery (h : ∀ e ∈ new, e.delivery? = none) : lastTold name id new = none := by
  rw [lastTold, List.filterMap_eq_nil_iff.mpr h]
  rfl

theorem lastSeen_of_not_told (h : lastTold name id new = none) : lastSeen name id before new = before := by
  rw [lastSeen, h]
  rfl

theorem lastSeen_append : lastSeen name id before (journal ++ new) = lastSeen name id (lastSeen name id before journal) new := by
  rw [lastSeen, lastSeen, lastSeen, lastTold_append]
  cases lastTold name id new <;> rfl

theorem lastSeen_of_told (h : (lastTold name id new).isSome = true) (before' : Cache) :
    lastSeen name id before new = lastSeen name id before' new := by
  obtain ⟨d, hd⟩ := Option.isSome_iff_exists.mp h
  rw [lastSeen, lastSeen, hd]
  rfl

end LastTold

namespace Monitor

/-- From `m` to `n` the journal grows by `new`, and in the end an identity is tracked if it was so when the
handler was last told of it, or else at the start. -/
structure Told (name : String) (m n : Monitor) (new : List Entry) : Prop where
  handlers : n.handlers = m.handlers
  journal : n.journal = m.journal ++ new
  tracked : ∀ id, id ∈ Table.keys (lastSeen name id m.cache new).tracked ↔ id ∈ Table.keys n.cache.tracked

namespace Told
variable {name : String} {m n o : Monitor} {new new' : List Entry}

theorem refl (m : Monitor) : Told name m m [] :=
  ⟨rfl, (List.append_nil _).symm, fun _ => Iff.rfl⟩

theorem trans (h₁ : Told name m n new) (h₂ : Told name n o new') : Told name m o (new ++ new') := by
  refine ⟨h₂.handlers.trans h₁.handlers, by rw [h₂.journal, h₁.journal, List.append_assoc], fun id => ?_⟩
  rw [lastSeen_append, ← h₂.tracked id]
  cases h : lastTold name id new' with
  | none =>
    rw [lastSeen_of_not_told h, lastSeen_of_not_told h]
    exact h₁.tracked id
  | some d => rw [lastSeen_of_told (h ▸ rfl)]

theorem write {e : Entry} (he : e.delivery? = none) : Told name m (m.write e) [e] := by
  refine ⟨rfl, rfl, fun id => ?_⟩
  rw [lastSeen_of_not_told (lastTold_of_no_delivery fun e' he' => by rwa [List.mem_singleton.mp he'])]
  rfl

theorem delivery {handler : String} {event : Event} :
    Told name m (m.write (.delivery ⟨handler, event, m.cache⟩)) [.delivery ⟨handler, event, m.cache⟩] := by
  refine ⟨rfl, rfl, fun id => ?_⟩
  have hcache : ∀ d, lastTold name id [.delivery ⟨handler, event, m.cache⟩] = some d → d.cache = m.cache := by
    intro d hd
    cases List.mem_singleton.mp (Table.of_findRev? hd).1
    rfl
  rw [lastSeen]
  cases h : lastTold name id [.delivery ⟨handler, event, m.cache⟩] with
  | none => exact Iff.rfl
  | some d =>
    rw [Option.map_some, Option.getD_some, hcache d h]
    exact Iff.rfl

/-- Only what a cache tracks counts. -/
theorem of_withCache {c : Cache} (h : Told name (m.withCache c) n new) (hc : c.tracked = m.cache.tracked) :
    Told name m n new := by
  refine ⟨h.handlers, h.journal, fun id => ?_⟩
  rw [← h.tracked id]
  cases hd : lastTold name id new with
  | none =>
    rw [lastSeen_of_not_told hd, lastSeen_of_not_told hd, ← hc]
    rfl
  | some d => rw [lastSeen_of_told (hd ▸ rfl)]

theorem of_noted (h : Noted m n) : ∃ notes, Told name m n notes ∧ ∀ id, lastTold name id notes = none := by
  obtain ⟨notes, rfl, hrecords⟩ := h
  have hnone (id : Identity) : lastTold name id notes = none := lastTold_of_no_delivery fun e he => by
    obtain ⟨r, rfl⟩ := hrecords e he
    rfl
  refine ⟨notes, ⟨rfl, rfl, fun id => ?_⟩, hnone⟩
  rw [lastSeen_of_not_told (hnone id)]

end Told

/-! ### Operations -/

/-- A way to change the filter that tells a handler of all that it changes, in a run of that journal. -/
structure Tells (name : String) (handlers : List (String × Handler)) (journal : List Entry)
    (change : Criterion → Operation Bool) : Prop where
  grows : ∀ c m, True → Kept (fun _ => True) m (change c m).2
  told : ∀ c m, m.handlers = handlers → (change c m).2.journal <+: journal →
    (change c m).1 ≠ .error .nestedTooDeep → c.Answers (change c m).1 ∧ ∃ new, Told name m (change c m).2 new

section Operations
variable {name : String} {handlers : List (String × Handler)} {journal : List Entry} {depth : Nat}
  {change : Criterion → Operation Bool} {equal : Filter → Criterion → Bool} {m : Monitor}

variable (hends : Ends journal)
include hends

theorem run_told (hchange : Tells name handlers journal change) {r : Reaction} (hr : r.Steady)
    (hm : m.handlers = handlers) (hgrown : (r.run change m).2.journal <+: journal) :
    ∃ n new, r.run change m = (.ok (), n) ∧ Told name m n new := by
  induction r generalizing m with
  | done => exact ⟨m, [], rfl, .refl m⟩
  | fail cause => exact hr.elim
  | note record next ih =>
    have noted : Told name m (m.write (.record record)) [.record record] := .write rfl
    obtain ⟨n, new, hrun, htold⟩ := ih hr (noted.handlers.trans hm) hgrown
    exact ⟨n, _, hrun, noted.trans htold⟩
  | refilter c next ih =>
    have step : (Reaction.refilter c next).run change m = (next (change c m).1).run change
      ((change c m).2.write (.answer ⟨(change c m).1, (change c m).2.cache⟩)) := rfl
    rw [step] at hgrown ⊢
    -- The answer is in the journal, so it is not that the change was nested too deep.
    have hanswered : ((change c m).2.write (.answer ⟨(change c m).1, (change c m).2.cache⟩)).journal <+: journal :=
      (run_kept (P := fun _ => True) hchange.grows trivial).journal_le.trans hgrown
    have hanswer : Entry.answer ⟨(change c m).1, (change c m).2.cache⟩ ∈ journal :=
      hanswered.subset (List.mem_append_right _ (List.mem_singleton_self _))
    have hchanged : (change c m).2.journal <+: journal := (List.prefix_append _ _).trans hanswered
    obtain ⟨hresult, new, htold⟩ := hchange.told c m hm hchanged fun hdeep =>
      hends _ hanswer (congrArg some hdeep)
    have answered : Told name m ((change c m).2.write (.answer ⟨(change c m).1, (change c m).2.cache⟩)) _ :=
      htold.trans (.write rfl)
    obtain ⟨n, new', hrun, htold'⟩ := ih _ (hr _ hresult) (answered.handlers.trans hm) hgrown
    exact ⟨n, _, hrun, answered.trans htold'⟩

variable (hsteady : ReactedIn Reaction.Steady handlers journal)
include hsteady

/-- All deliveries are made, and the handler is told of the identity of each event that is for it. -/
theorem deliver_told (hchange : Tells name handlers journal change) {ds : List (String × Handler × Event)}
    (hds : ∀ d ∈ ds, (d.1, d.2.1) ∈ handlers) (hm : m.handlers = handlers)
    (hgrown : (deliver change ds m).2.journal <+: journal) :
    ∃ n new, deliver change ds m = (.ok (), n) ∧ Told name m n new ∧
      ∀ d ∈ ds, d.1 = name → (lastTold name d.2.2.id new).isSome = true := by
  induction ds generalizing m with
  | nil => exact ⟨m, [], rfl, .refl m, fun d hd => absurd hd List.not_mem_nil⟩
  | cons d rest ih =>
    obtain ⟨handler, h, event⟩ := d
    have called : Told name m (m.write (.delivery ⟨handler, event, m.cache⟩)) [.delivery ⟨handler, event, m.cache⟩] :=
      .delivery
    have hreaction : (h.react m.cache m.journal event).Steady :=
      ReactedIn.first hsteady hchange.grows (hds _ List.mem_cons_self) hgrown
    obtain ⟨n, new, hrun, htold⟩ := run_told hends hchange hreaction (called.handlers.trans hm)
      ((run_journal_le hchange.grows).trans hgrown)
    have step : deliver change ((handler, h, event) :: rest) m = deliver change rest n := by
      rw [deliver, hrun]
    rw [step] at hgrown ⊢
    obtain ⟨o, new', hrest, htold', hall⟩ := ih (fun d hd => hds d (List.mem_cons_of_mem _ hd))
      (htold.handlers.trans (called.handlers.trans hm)) hgrown
    refine ⟨o, _, hrest, (called.trans htold).trans htold', fun d hd hname => ?_⟩
    rw [lastTold_append, lastTold_append]
    rcases List.mem_cons.mp hd with rfl | hd
    · have hfirst : lastTold name event.id [.delivery ⟨handler, event, m.cache⟩] = some ⟨handler, event, m.cache⟩ := by
        cases hname
        simp [lastTold, Entry.delivery?]
      rw [hfirst]
      simp
    · obtain ⟨d', hd'⟩ := Option.isSome_iff_exists.mp (hall d hd hname)
      rw [hd']
      rfl

variable (hname : name ∈ Table.keys handlers)
include hname

/-- A reconciliation fails only where the cache cannot be reconciled, and tells of every identity that is
tracked only before or only after it. -/
theorem reconcile_told (hchange : Tells name handlers journal change) (hm : m.handlers = handlers)
    (hgrown : (reconcile change m).2.journal <+: journal) :
    (reconcile change m).1 = (m.cache.reconcile.mapError .access).map (fun _ => ()) ∧
      ∃ new, Told name m (reconcile change m).2 new := by
  rcases @reconcile_cases change m with ⟨cause, hfails, -, hreconcile⟩ | ⟨n, tracked, hok, hreconcile⟩
  · rw [hreconcile, hfails]
    exact ⟨rfl, [], .refl m⟩
  · rw [hreconcile] at hgrown ⊢
    rw [hok]
    obtain ⟨notes, hnotes, hsilent⟩ := @Told.of_noted name _ _ tracked
    obtain ⟨o, new, hdeliver, htold, hall⟩ := deliver_told hends hsteady hchange
      (fun d hd => hm ▸ (mem_plan.mp hd).1) (tracked.handlers.trans hm) hgrown
    rw [hdeliver]
    refine ⟨rfl, notes ++ new, htold.handlers.trans tracked.handlers, ?_, fun id => ?_⟩
    · rw [htold.journal, hnotes.journal, List.append_assoc]
      rfl
    · rw [lastSeen_append, lastSeen_of_not_told (hsilent id), ← htold.tracked id, tracked.cache]
      cases hid : lastTold name id new with
      | some d => rw [lastSeen_of_told (hid ▸ rfl)]
      | none =>
        -- Nothing was told of the identity, so there was no event for it.
        rw [lastSeen_of_not_told hid, lastSeen_of_not_told hid]
        refine Cache.mem_keys_iff_of_no_change fun e he heid => ?_
        obtain ⟨h, hmem⟩ := Table.mem_keys.mp hname
        have hevent : e ∈ m.cache.reconciled.2 := Cache.reconcile_events hok ▸ he
        have htoldid := hall (name, h, e) (mem_plan.mpr ⟨hm.symm ▸ hmem, hevent⟩) rfl
        rw [heid, hid] at htoldid
        cases htoldid

/-- Putting a filter in, where handlers change the filter in a way that tells. -/
theorem refilterAt_told (hchange : Tells name handlers journal (refilterAt equal depth)) {c : Criterion}
    (hm : m.handlers = handlers) (hgrown : (refilterAt equal (depth + 1) c m).2.journal <+: journal) :
    c.Answers (refilterAt equal (depth + 1) c m).1 ∧ ∃ new, Told name m (refilterAt equal (depth + 1) c m).2 new := by
  cases c with
  | foreign v => exact ⟨rfl, [], .refl m⟩
  | unconditional => exact ⟨rfl, [], .refl m⟩
  | filter f =>
    rw [refilterAt] at hgrown ⊢
    by_cases hequal : equal f m.cache.criterion = true
    · rw [if_pos hequal]
      exact ⟨⟨false, rfl⟩, _, .write rfl⟩
    · rw [if_neg hequal] at hgrown ⊢
      rw [install_snd] at hgrown
      obtain ⟨hresult, new, htold⟩ := reconcile_told hends hsteady hname hchange (m := (m.log .info .cache
        ("refiltering cache: " ++ m.cache.criterion.literal ++ " -> " ++ f.literal)).withCache
          { m.cache with criterion := .filter f }) hm hgrown
      rw [install_fst, install_snd, hresult]
      exact ⟨⟨true, rfl⟩, _, Told.trans (.write rfl) (htold.of_withCache rfl)⟩

theorem refilterAt_tells : Tells name handlers journal (refilterAt equal depth) := by
  induction depth with
  | zero => exact ⟨refilterAt_grows, fun c m _ _ hends => absurd rfl hends⟩
  | succ depth ih => exact ⟨refilterAt_grows, fun c m hm hgrown _ => refilterAt_told hends hsteady hname ih hm hgrown⟩

theorem perform_told {u : Update} (hm : m.handlers = handlers)
    (hgrown : (u.perform equal depth m).journal <+: journal) : ∃ new, Told name m (u.perform equal depth m) new := by
  rcases @perform_cases equal depth u m with ⟨hnoted, -⟩ | ⟨n, c, hnoted, htracked, -, hperform, -⟩
  · obtain ⟨notes, hnotes, -⟩ := @Told.of_noted name _ _ hnoted
    exact ⟨notes, hnotes⟩
  · obtain ⟨notes, hnotes, -⟩ := @Told.of_noted name _ _ hnoted
    rw [hperform] at hgrown ⊢
    obtain ⟨-, new, htold⟩ := reconcile_told hends hsteady hname (refilterAt_tells hends hsteady hname)
      (m := n.withCache c) (hnoted.handlers.trans hm) hgrown
    exact ⟨_, hnotes.trans (htold.of_withCache (htracked.trans (congrArg Cache.tracked hnoted.cache).symm))⟩

theorem updateAll_told {us : List Update} (hm : m.handlers = handlers)
    (hgrown : (m.updateAll equal depth us).journal <+: journal) : ∃ new, Told name m (m.updateAll equal depth us) new := by
  induction us generalizing m with
  | nil => exact ⟨[], .refl m⟩
  | cons u us ih =>
    obtain ⟨new, htold⟩ := perform_told hends hsteady hname (u := u) hm (updateAll_grows.journal_le.trans hgrown)
    obtain ⟨new', htold'⟩ := ih (htold.handlers.trans hm) hgrown
    exact ⟨_, htold.trans htold'⟩

end Operations

/-! ### A map fed by the events -/

theorem received_eq {name : String} {m : Monitor} : m.received name =
    ((m.journal.filterMap Entry.delivery?).filter fun d => d.handler == name).map (·.event) := by
  rw [received, published, ← List.filterMap_eq_map, ← List.filterMap_eq_filter, List.filterMap_filterMap,
    List.filterMap_filterMap, List.filterMap_filterMap]
  refine congrArg (List.filterMap · m.journal) (funext fun e => ?_)
  cases e with
  | record r => rfl
  | answer a => rfl
  | delivery d =>
    by_cases hname : d.handler = name <;> simp [Entry.published?, Entry.delivery?, Option.guard, hname]

theorem findRev?_received {name : String} {id : Identity} {m : Monitor} :
    (m.received name).findRev? (·.id == id) = (lastTold name id m.journal).map (·.event) := by
  rw [received_eq, lastTold, List.findRev?_eq_find?_reverse, List.findRev?_eq_find?_reverse, ← List.map_reverse,
    ← List.filter_reverse, List.find?_map, List.find?_filter]
  simp only [Function.comp_apply, Bool.decide_and, Bool.decide_eq_true]

section Runs
variable {name : String} {depth : Nat} {cr : Criterion} {handlers : List (String × Handler)} {us : List Update}

/-- No handler fails, and the changes of the filter from inside one another end. Then a map that a handler
keeps by the events that it gets is right about an identity exactly if the last event that the handler got for
it was still true when it came. -/
theorem replayed_iff_last_holds (hname : name ∈ Table.keys handlers)
    (hsteady : ReactedIn Reaction.Steady handlers ((fresh cr handlers).updateAll holds depth us).journal)
    (hends : Ends ((fresh cr handlers).updateAll holds depth us).journal) (id : Identity) :
    (id ∈ Table.keys (replay [] (((fresh cr handlers).updateAll holds depth us).received name)) ↔
        id ∈ Table.keys ((fresh cr handlers).updateAll holds depth us).cache.tracked) ↔
      ∀ d ∈ lastTold name id ((fresh cr handlers).updateAll holds depth us).journal, d.Holds := by
  obtain ⟨new, htold⟩ := updateAll_told (m := fresh cr handlers) hends hsteady hname rfl List.prefix_rfl
  have hjournal : ((fresh cr handlers).updateAll holds depth us).journal = new := htold.journal
  have hlast := @findRev?_received name id ((fresh cr handlers).updateAll holds depth us)
  rw [hjournal] at hlast ⊢
  rw [← htold.tracked id]
  cases hd : lastTold name id new with
  | none =>
    rw [hd] at hlast
    rw [lastSeen_of_not_told hd, Table.mem_keys_iff_get?, get?_replay, hlast]
    simp [fresh, Cache.fresh]
  | some d =>
    rw [hd] at hlast
    have hid : d.event.id = id := beq_iff_eq.mp (Bool.and_eq_true_iff.mp (Table.of_findRev? hd).2).2
    have seen : lastSeen name id (fresh cr handlers).cache new = d.cache := by rw [lastSeen, hd]; rfl
    rw [seen, mem_keys_replay_of_last hlast]
    simp only [Option.mem_some, forall_eq', Delivery.Holds, hid]

section Closing
variable (id : Identity)

/-- Passes no object any more once it is told of an identity. -/
def closing : Handler :=
  ⟨fun _ _ event => if event.id == id then .refilter (.filter .all) fun _ => .done else .done⟩

theorem closing_steady {journal : List Entry} :
    ReactedIn Reaction.Steady [("map", Handler.silent), ("gate", closing id)] journal := by
  refine reactedIn_of_forall fun entry hentry c before event => ?_
  rcases List.mem_cons.mp hentry with rfl | hentry
  · trivial
  · cases List.mem_singleton.mp hentry
    by_cases hid : event.id = id <;> simp [closing, hid, Reaction.Steady]

end Closing

/-- The change comes with the last event of a listing, so it makes none of the others untrue. -/
theorem replayed_iff_last_holds_at_last :
    let a : Value := .object (.str "a") (.str "") [] (.str "Pod")
    let b : Value := .object (.str "b") (.str "") [] (.str "Pod")
    let handlers := [("map", Handler.silent), ("gate", closing ⟨"", "b"⟩)]
    ∃ m, m = (fresh (.filter .null) handlers).updateAll holds 2 [.sync [a, b] none] ∧
      (⟨"", "a"⟩ ∈ Table.keys (replay [] (m.received "map")) ↔ ⟨"", "a"⟩ ∈ Table.keys m.cache.tracked) ∧
      (⟨"", "b"⟩ ∈ Table.keys (replay [] (m.received "map")) ↔ ⟨"", "b"⟩ ∈ Table.keys m.cache.tracked) := by
  intro a b handlers
  have named : "map" ∈ Table.keys handlers := by decide
  have ends : Ends ((fresh (.filter .null) handlers).updateAll holds 2 [.sync [a, b] none]).journal := by
    decide +kernel
  have right := replayed_iff_last_holds named (closing_steady _) ends
  exact ⟨_, rfl, (right ⟨"", "a"⟩).mpr (by decide +kernel), (right ⟨"", "b"⟩).mpr (by decide +kernel)⟩

/-- The change comes with the first event of a listing, and the second one is delivered all the same: the map
ends with an object that is not tracked. -/
theorem replayed_keys_stale :
    let a : Value := .object (.str "a") (.str "") [] (.str "Pod")
    let b : Value := .object (.str "b") (.str "") [] (.str "Pod")
    let handlers := [("map", Handler.silent), ("gate", closing ⟨"", "a"⟩)]
    let m := (fresh (.filter .null) handlers).updateAll holds 2 [.sync [a, b] none]
    ReactedIn Reaction.Steady handlers m.journal ∧ Ends m.journal ∧
      Table.keys (replay [] (m.received "map")) = [⟨"", "b"⟩] ∧ Table.keys m.cache.tracked = [] := by
  intro a b handlers m
  exact ⟨closing_steady _, by decide +kernel, by decide +kernel, by decide +kernel⟩

end Runs

end Monitor

end ObjectWatch
