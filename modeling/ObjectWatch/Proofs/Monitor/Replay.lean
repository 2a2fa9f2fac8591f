import ObjectWatch.Proofs.Monitor.Exact
import ObjectWatch.Proofs.Value.Equality

/-! A map that takes in every event follows the cache: an upsert inserts or replaces, a delete removes. The
    map may hold an object that is several listings older than the tracked one, since no event tells that an
    object was replaced by an equal one; so the two are compared up to equality of objects, which has to be
    an equivalence on what is listed. -/

namespace ObjectWatch

/-- What an event makes of a map. -/
def Event.applyTo (t : List (Identity × Value)) : Event → List (Identity × Value)
  | upsert id v => Table.put id v t
  | delete id _ => Table.erase id t

/-- What a map holds under the identity of an event when it has taken the event in. -/
def Event.value? : Event → Option Value
  | upsert _ v => some v
  | delete _ _ => none

/-- An event tells a map something new: an upsert is for an identity that is absent or has an unequal object,
a delete for one that is present, and it carries an object equal to the one there. -/
def Event.Legal (t : List (Identity × Value)) : Event → Prop
  | upsert id v => ∀ w, Table.get? id t = some w → w.equal v = false
  | delete id v => ∃ w, Table.get? id t = some w ∧ w.equal v = true

/-- What a map becomes by taking in events one after the other. -/
def replay (t : List (Identity × Value)) (events : List Event) : List (Identity × Value) :=
  events.foldl Event.applyTo t

/-- Every event is legal for the map when it arrives. -/
def LegalFrom : List (Identity × Value) → List Event → Prop
  | _, [] => True
  | t, e :: rest => e.Legal t ∧ LegalFrom (e.applyTo t) rest

/-- Two maps have the same identities, and equal objects under them. -/
def Agree (S : Value → Prop) (t u : List (Identity × Value)) : Prop :=
  ∀ id, Option.Rel (fun v w => S v ∧ v.equal w = true) (Table.get? id t) (Table.get? id u)

section Replay
variable {t u old new : List (Identity × Value)} {e : Event} {events rest : List Event} {id : Identity}
  {S : Value → Prop}

theorem get?_applyTo : Table.get? id (e.applyTo t) = if id = e.id then e.value? else Table.get? id t := by
  cases e with
  | upsert n v => by_cases h : id = n <;> simp [Event.applyTo, Table.get?_put, Event.id, Event.value?, h]
  | delete n v => by_cases h : id = n <;> simp [Event.applyTo, Table.get?_erase, Event.id, Event.value?, h]

theorem Event.Legal.congr (h : Table.get? e.id t = Table.get? e.id u) (hl : e.Legal t) : e.Legal u := by
  cases e with
  | upsert n v => exact fun w hw => hl w (h.trans hw)
  | delete n v =>
    obtain ⟨w, hw, heq⟩ := hl
    exact ⟨w, h.symm.trans hw, heq⟩

theorem legalFrom_append : LegalFrom t (events ++ rest) ↔ LegalFrom t events ∧ LegalFrom (replay t events) rest := by
  induction events generalizing t with
  | nil => exact (true_and _).symm.to_iff
  | cons e events ih =>
    rw [List.cons_append, LegalFrom, LegalFrom, ih, and_assoc]
    rfl

/-- Events for different identities do not meet: each finds what was there before all of them. -/
theorem legalFrom_of_nodup (hd : (events.map Event.id).Nodup) (h : ∀ e ∈ events, e.Legal t) :
    LegalFrom t events := by
  induction events generalizing t with
  | nil => trivial
  | cons e events ih =>
    obtain ⟨hnot, hrest⟩ := List.nodup_cons.mp hd
    refine ⟨h e List.mem_cons_self, ih hrest fun e' he' => ?_⟩
    refine (h e' (List.mem_cons_of_mem _ he')).congr ?_
    have hne : e'.id ≠ e.id := fun heq => hnot (heq ▸ List.mem_map_of_mem he')
    rw [get?_applyTo, if_neg hne]

theorem get?_replay_of_not_mem (h : id ∉ events.map Event.id) : Table.get? id (replay t events) = Table.get? id t := by
  induction events generalizing t with
  | nil => rfl
  | cons e events ih =>
    rw [List.map_cons, List.mem_cons, not_or] at h
    refine (ih h.2).trans ?_
    rw [get?_applyTo, if_neg h.1]

theorem get?_replay_of_mem (hd : (events.map Event.id).Nodup) (he : e ∈ events) :
    Table.get? e.id (replay t events) = e.value? := by
  induction events generalizing t with
  | nil => cases he
  | cons e' events ih =>
    obtain ⟨hnot, hrest⟩ := List.nodup_cons.mp hd
    rcases List.mem_cons.mp he with rfl | he
    · refine (get?_replay_of_not_mem hnot).trans ?_
      rw [get?_applyTo, if_pos rfl]
    · exact ih hrest he

/-- The last event for an identity decides what a map holds under it. -/
theorem get?_replay : Table.get? id (replay t events) =
    ((events.findRev? fun e => e.id == id).map Event.value?).getD (Table.get? id t) := by
  induction events generalizing t with
  | nil => rfl
  | cons e events ih =>
    refine ih.trans ?_
    rw [List.findRev?]
    cases events.findRev? fun e => e.id == id with
    | some last => rfl
    | none =>
      rw [Option.map_none, Option.getD_none, get?_applyTo]
      by_cases h : id = e.id
      · simp [h]
      · simp [h, Ne.symm h]

theorem mem_keys_replay_of_last (h : events.findRev? (fun e => e.id == id) = some e) :
    id ∈ Table.keys (replay t events) ↔ e.isUpsert = true := by
  rw [Table.mem_keys_iff_get?, get?_replay, h, Option.map_some, Option.getD_some]
  cases e <;> simp [Event.value?, Event.isUpsert]

namespace Agree
variable {v w : Value}

theorem some_left (h : Agree S t u) (hv : Table.get? id t = some v) :
    ∃ w, Table.get? id u = some w ∧ S v ∧ v.equal w = true := by
  have hid := h id
  rw [hv] at hid
  cases hw : Table.get? id u with
  | none => rw [hw] at hid; cases hid
  | some w =>
    rw [hw] at hid
    cases hid with
    | some heq => exact ⟨w, rfl, heq⟩

theorem some_right (h : Agree S t u) (hw : Table.get? id u = some w) :
    ∃ v, Table.get? id t = some v ∧ S v ∧ v.equal w = true := by
  cases hv : Table.get? id t with
  | none =>
    have hid := h id
    rw [hv, hw] at hid
    cases hid
  | some v =>
    obtain ⟨w', hw', heq⟩ := h.some_left hv
    rw [hw] at hw'
    cases hw'
    exact ⟨v, rfl, heq⟩

theorem mem_keys_iff (h : Agree S t u) : id ∈ Table.keys t ↔ id ∈ Table.keys u :=
  Table.mem_keys_iff_of_rel (h id)

end Agree

section Changes
variable (hS : EqualOn S) (hold : ∀ entry ∈ old, S entry.2) (hnew : ∀ entry ∈ new, S entry.2) (h : Agree S t old)
include hS hold hnew h

/-- Where a map agrees with the old table, the events that lead to the new one are legal. -/
theorem legal_of_mem_changes (he : e ∈ Cache.changes old new) : e.Legal t := by
  cases e with
  | upsert id v =>
    obtain ⟨hmem, hne⟩ := Cache.upsert_mem_changes.mp he
    intro x hx
    obtain ⟨w, hw, hx', hxw⟩ := h.some_left hx
    have hw' := hold _ (Table.mem_of_get? hw)
    refine Bool.eq_false_iff.mpr fun hxv => Bool.eq_false_iff.mp (hne w hw) ?_
    exact hS.trans w x v hw' hx' (hnew _ hmem) (hS.symm x w hx' hw' hxw) hxv
  | delete id v =>
    obtain ⟨x, hx, -, hxv⟩ := h.some_right (Cache.delete_mem_changes.mp he).1
    exact ⟨x, hx, hxv⟩

/-- A map that agrees with the old table agrees with the new one when it has taken in the events. -/
theorem agree_replay_changes (hdold : (Table.keys old).Nodup) (hdnew : (Table.keys new).Nodup) :
    Agree S (replay t (Cache.changes old new)) new := by
  intro id
  by_cases hid : id ∈ (Cache.changes old new).map Event.id
  · obtain ⟨e, he, rfl⟩ := List.mem_map.mp hid
    rw [get?_replay_of_mem (Cache.nodup_changes hdold hdnew) he]
    cases e with
    | upsert id v =>
      obtain ⟨hmem, -⟩ := Cache.upsert_mem_changes.mp he
      rw [Event.id, (Table.get?_eq_some_iff hdnew).mpr hmem]
      exact .some ⟨hnew _ hmem, hS.refl v (hnew _ hmem)⟩
    | delete id v =>
      rw [Event.id, Table.get?_eq_none_iff.mpr (Cache.delete_mem_changes.mp he).2]
      exact .none
  · -- No event for the identity: both tables have it, with equal objects, or neither has it.
    have hno : ∀ e ∈ Cache.changes old new, e.id ≠ id := fun e he heq => hid (heq ▸ List.mem_map_of_mem he)
    have hrel := Cache.rel_of_no_change hno
    have hagree := h id
    rw [get?_replay_of_not_mem hid]
    generalize Table.get? id t = x at hagree ⊢
    generalize hw : Table.get? id old = w at hagree hrel
    generalize hv : Table.get? id new = v at hrel ⊢
    cases hrel with
    | none =>
      cases hagree
      exact .none
    | @some w v hwv =>
      cases hagree with
      | @some x _ hx =>
        have hw' := hold _ (Table.mem_of_get? hw)
        exact .some ⟨hx.1, hS.trans x w v hx.1 hw' (hnew _ (Table.mem_of_get? hv)) hx.2 hwv⟩

end Changes

/-! ### Updates -/

/-- A map follows an exact cache of objects that satisfy `S`. -/
structure Follows (S : Value → Prop) (t : List (Identity × Value)) (c : Cache) : Prop where
  listed : ∃ objects, Cache.Exact objects c ∧ ∀ v ∈ objects, S v
  agree : Agree S t c.tracked

section Updates
variable {equal : Filter → Criterion → Bool} {u : Update} {us : List Update} {c : Cache}

/-- A map that follows a cache follows it through an update, whose events are legal. -/
theorem apply_follows (hS : EqualOn S) (hu : ∀ v, Listed [u] v → S v) (h : Follows S t c) :
    LegalFrom t (u.apply equal c).2 ∧ Follows S (replay t (u.apply equal c).2) (u.apply equal c).1 := by
  obtain ⟨objects, hexact, hobjects⟩ := h.listed
  have hexact' : Cache.Exact _ (u.apply equal c).1 := Update.apply_exact hexact
  have hobjects' : ∀ v ∈ (Op.update u).listed objects, S v := fun v hv => (mem_listed hv).elim (hu v) (hobjects v)
  rcases @Update.apply_changes equal u c with hevents | ⟨hevents, htracked⟩
  · have hold : ∀ entry ∈ c.tracked, S entry.2 := fun _ he => hobjects _ (hexact.mem_objects he)
    have hnew : ∀ entry ∈ (u.apply equal c).1.tracked, S entry.2 := fun _ he =>
      hobjects' _ (hexact'.mem_objects he)
    rw [hevents]
    refine ⟨legalFrom_of_nodup (Cache.nodup_changes hexact.nodup_keys hexact'.nodup_keys) fun e he =>
      legal_of_mem_changes hS hold hnew h.agree he, ⟨_, hexact', hobjects'⟩, ?_⟩
    exact agree_replay_changes hS hold hnew h.agree hexact.nodup_keys hexact'.nodup_keys
  · rw [hevents]
    exact ⟨trivial, ⟨_, hexact', hobjects'⟩, htracked.symm ▸ h.agree⟩

theorem applyAll_follows (hS : EqualOn S) (hus : ∀ v, Listed us v → S v) (h : Follows S t c) :
    LegalFrom t (c.applyAll equal us).2 ∧ Follows S (replay t (c.applyAll equal us).2) (c.applyAll equal us).1 := by
  induction us generalizing t c with
  | nil => exact ⟨trivial, h⟩
  | cons u us ih =>
    obtain ⟨hlegal, hfollows⟩ := apply_follows (u := u) hS (fun v hv => hus v (listed_cons.mpr (.inl hv))) h
    obtain ⟨hlegal', hfollows'⟩ := ih (fun v hv => hus v (listed_cons.mpr (.inr hv))) hfollows
    refine ⟨legalFrom_append.mpr ⟨hlegal, hlegal'⟩, ?_⟩
    rw [Cache.applyAll, replay, List.foldl_append]
    exact hfollows'

end Updates

end Replay

namespace Monitor
variable {depth : Nat} {cr : Criterion} {handlers : List (String × Handler)} {us : List Update} {name : String}
  {events : List Event}

/-- Of the deliveries to all handlers, each handler gets every event once. -/
theorem received_announced (hnames : (Table.keys handlers).Nodup) (hname : name ∈ Table.keys handlers) :
    (announced handlers events).filterMap (fun p => if p.1 = name then some p.2 else none) = events := by
  have once : ∀ event : Event, (handlers.map fun entry => (entry.1, event)).filterMap
      (fun p => if p.1 = name then some p.2 else none) = [event] := by
    intro event
    induction handlers with
    | nil => cases hname
    | cons entry rest ih =>
      obtain ⟨hnot, hrest⟩ := List.nodup_cons.mp hnames
      rw [List.map_cons, List.filterMap_cons]
      by_cases hentry : entry.1 = name
      · simp only [hentry, if_true, List.filterMap_map]
        refine congrArg _ (List.filterMap_eq_nil_iff.mpr fun other hother => if_neg fun hsame => ?_)
        exact hnot (List.mem_map.mpr ⟨other, hother, hsame.trans hentry.symm⟩)
      · simp only [hentry, if_false]
        exact ih hrest ((List.mem_cons.mp hname).resolve_left fun h => hentry h.symm)
  induction events with
  | nil => rfl
  | cons event events ih =>
    rw [announced, List.flatMap_cons, List.filterMap_append, once]
    exact congrArg _ ih

/-- In a run that no handler disturbs, a map that a handler keeps by the events that it gets has the tracked
identities with objects equal to the tracked ones, and every event was legal for the map when it arrived. -/
theorem replayed_events_track (hnames : (Table.keys handlers).Nodup) (hname : name ∈ Table.keys handlers)
    (hcalm : CalmIn handlers ((fresh cr handlers).updateAll holds depth us).journal) (hequal : EqualOn (Listed us)) :
    LegalFrom [] (((fresh cr handlers).updateAll holds depth us).received name) ∧
    (∀ id, id ∈ Table.keys (replay [] (((fresh cr handlers).updateAll holds depth us).received name)) ↔
      id ∈ Table.keys ((fresh cr handlers).updateAll holds depth us).cache.tracked) ∧
    ∀ id v w, Table.get? id (replay [] (((fresh cr handlers).updateAll holds depth us).received name)) = some v →
      Table.get? id ((fresh cr handlers).updateAll holds depth us).cache.tracked = some w → v.equal w = true := by
  have moved := updateAll_calm (m := fresh cr handlers) hcalm List.prefix_rfl
  have hreceived : ((fresh cr handlers).updateAll holds depth us).received name =
      ((Cache.fresh cr).applyAll holds us).2 := by
    rw [received, moved.published]
    exact received_announced hnames hname
  have start : Follows (Listed us) [] (Cache.fresh cr) :=
    ⟨⟨[], .fresh, fun _ h => absurd h List.not_mem_nil⟩, fun _ => .none⟩
  obtain ⟨hlegal, hfollows⟩ := applyAll_follows hequal (fun _ h => h) start
  rw [hreceived, moved.cache]
  refine ⟨hlegal, fun _ => hfollows.agree.mem_keys_iff, fun id v w hv hw => ?_⟩
  obtain ⟨w', hw', -, heq⟩ := hfollows.agree.some_left hv
  cases hw'.symm.trans hw
  exact heq

/-- The second listing has an equal object with its labels in another order, which no event tells. -/
theorem replayed_events_track_reordered :
    let a : Value := .object (.str "a") (.str "") [(.str "x", .str "1"), (.str "y", .str "2")] (.str "Pod")
    let a' : Value := .object (.str "a") (.str "") [(.str "y", .str "2"), (.str "x", .str "1")] (.str "Pod")
    let b : Value := .object (.str "b") (.str "") [] (.str "Pod")
    let us : List Update := [.sync [a, b] none, .sync [a', b] none, .refilter (.filter (.labels [(.str "x", .str "1")]))]
    let handlers := [("log", Handler.logging), ("map", Handler.silent)]
    ∃ m, m = (fresh (.filter .null) handlers).updateAll holds 1 us ∧
      LegalFrom [] (m.received "map") ∧
      (∀ id, id ∈ Table.keys (replay [] (m.received "map")) ↔ id ∈ Table.keys m.cache.tracked) ∧
      ∀ id v w, Table.get? id (replay [] (m.received "map")) = some v → Table.get? id m.cache.tracked = some w →
        v.equal w = true := by
  intro a a' b us handlers
  have listed : ∀ v, Listed us v → v ∈ [a, a', b] := by
    rintro v ⟨objects, hmem, hv⟩
    simp only [us, List.mem_cons, Update.sync.injEq, and_true, reduceCtorEq, List.not_mem_nil, or_false] at hmem
    rcases hmem with rfl | rfl <;> simp only [List.mem_cons, List.not_mem_nil, or_false] at hv ⊢ <;> tauto
  have refl : ∀ u ∈ [a, a', b], u.equal u = true := by decide +kernel
  have symm : ∀ u ∈ [a, a', b], ∀ v ∈ [a, a', b], u.equal v = true → v.equal u = true := by decide +kernel
  have trans : ∀ u ∈ [a, a', b], ∀ v ∈ [a, a', b], ∀ w ∈ [a, a', b],
      u.equal v = true → v.equal w = true → u.equal w = true := by
    decide +kernel
  have equal : EqualOn (Listed us) :=
    ⟨fun v hv => refl v (listed v hv), fun v w hv hw => symm v (listed v hv) w (listed w hw),
      fun u v w hu hv hw => trans u (listed u hu) v (listed v hv) w (listed w hw)⟩
  have calm : ∀ entry ∈ handlers, entry.2.Calm := by
    simp [handlers, Handler.Calm, Handler.logging, Handler.silent, Reaction.Calm]
  exact ⟨_, rfl, replayed_events_track (by decide) (by decide) (calmIn_of_calm calm) equal⟩

end Monitor

end ObjectWatch
