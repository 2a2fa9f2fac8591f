import ObjectWatch.Proofs.Monitor.Exact

/-! What an update publishes that is taken in: the smallest difference between what was tracked before and
    after it, in a fixed order. The upserts come first, in the order in which the last listing has their
    identities for the first time; the deletes follow in the order of the identities themselves. -/

namespace ObjectWatch

/-- Events that lead from one table to another with no event to spare. The upserts go by `order`. -/
structure Delta (order : List Identity) (old new : List (Identity × Value)) (events : List Event) : Prop where
  once : (events.map Event.id).Nodup
  upsert : ∀ id v, .upsert id v ∈ events ↔
    Table.get? id new = some v ∧ ∀ w, Table.get? id old = some w → w.equal v = false
  delete : ∀ id v, .delete id v ∈ events ↔ Table.get? id old = some v ∧ id ∉ Table.keys new
  upserts_first : events.Pairwise fun e e' => e'.isUpsert = true → e.isUpsert = true
  upserts_order : ((events.filter (·.isUpsert)).map Event.id).Sublist order
  deletes_order : ((events.filter (!·.isUpsert)).map Event.id).Pairwise fun a b => a.before b = true

/-- An update that a cache takes in: a complete listing, or a filter that does not equal the present one. -/
inductive Update.Effective (c : Cache) : Update → Prop where
  | sync (objects : List Value) : Effective c (.sync objects none)
  | refilter {f : Filter} (h : Monitor.holds f c.criterion = false) : Effective c (.refilter (.filter f))

namespace Cache
variable {order : List Identity} {old new : List (Identity × Value)}

theorem changes_upserts_first : (changes old new).Pairwise fun e e' => e'.isUpsert = true → e.isUpsert = true := by
  rw [changes, List.pairwise_append]
  refine ⟨?_, ?_, ?_⟩
  · exact List.pairwise_of_forall_mem_list fun e he _ _ _ => isUpsert_of_mem_upserts he
  · refine List.pairwise_of_forall_mem_list fun e _ e' he' h => ?_
    rw [isUpsert_of_mem_deletes he'] at h
    cases h
  · intro e he _ _ _
    exact isUpsert_of_mem_upserts he

theorem changes_delta (hold : (Table.keys old).Nodup) (hnew : (Table.keys new).Nodup)
    (horder : (Table.keys new).Sublist order) : Delta order old new (changes old new) where
  once := nodup_changes hold hnew
  upsert id v := by rw [upsert_mem_changes, Table.get?_eq_some_iff hnew]
  delete id v := delete_mem_changes
  upserts_first := changes_upserts_first
  upserts_order := by
    rw [filter_isUpsert_changes]
    exact map_id_upserts_sublist.trans horder
  deletes_order := by
    rw [filter_not_isUpsert_changes]
    exact pairwise_map_id_deletes hold

end Cache

namespace Update
variable {u : Update} {c : Cache} {objects : List Value}

/-- What is taken in publishes the events to what is tracked then. -/
theorem Effective.apply_changes (hu : u.Effective c) (h : Cache.Exact objects c) :
    (u.apply Monitor.holds c).2 = Cache.changes c.tracked (u.apply Monitor.holds c).1.tracked := by
  cases hu with
  | sync listed => exact h.sync_changes
  | @refilter f hf =>
    have taken : (Update.refilter (.filter f)).apply Monitor.holds c = { c with criterion := .filter f }.reconciled := by
      simp [apply, hf]
    rw [taken]
    rfl

end Update

namespace Monitor
open Cache
variable {depth : Nat} {m n : Monitor} {cr : Criterion} {handlers : List (String × Handler)} {ops : List Op}
  {u : Update} {objects : List Value}

/-- What is taken in, undisturbed by handlers, publishes the events from what was tracked to what is tracked
then. -/
theorem published_changes (hn : u.perform holds depth m = n) (hm : Exact objects m.cache) (hu : u.Effective m.cache)
    (hcalm : CalmIn m.handlers n.journal) :
    n.published = m.published ++ announced m.handlers (changes m.cache.tracked n.cache.tracked) := by
  subst hn
  have moved := perform_calm (u := u) hcalm List.prefix_rfl
  rw [moved.published, moved.cache, hu.apply_changes hm]

/-- After any run, an update that is taken in and that no handler disturbs publishes the delta from what was
tracked before it to what is tracked after it. -/
theorem published_delta (hm : (fresh cr handlers).run depth ops = m) (hn : u.perform holds depth m = n)
    (hu : u.Effective m.cache) (hcalm : CalmIn m.handlers n.journal) :
    ∃ events, n.published = m.published ++ announced m.handlers events ∧
      Delta (Identity.distinct ((lastListed (ops ++ [.update u])).filterMap Value.identity?))
        m.cache.tracked n.cache.tracked events := by
  subst hm
  have before : Exact (lastListed ops) ((fresh cr handlers).run depth ops).cache := run_exact
  have after : Exact ((Op.update u).listed (lastListed ops)) n.cache := hn ▸ (update_exact before).cache
  rw [← lastListed_concat] at after
  refine ⟨_, published_changes hn before hu hcalm, ?_⟩
  exact changes_delta before.nodup_keys after.nodup_keys after.keys_sublist

/-- Of four tracked objects one stays, one changes and two go; a new one is listed twice. -/
theorem published_delta_relisted :
    let a : Value := .object (.str "a") (.str "") [] (.str "Pod")
    let b : Value := .object (.str "b") (.str "") [] (.str "Pod")
    let c : Value := .object (.str "c") (.str "") [] (.str "Pod")
    let c' : Value := .object (.str "c") (.str "") [(.str "app", .str "web")] (.str "Pod")
    let d : Value := .object (.str "d") (.str "") [] (.str "Pod")
    let d' : Value := .object (.str "d") (.str "") [] (.str "Node")
    let z : Value := .object (.str "a") (.str "z") [] (.str "Pod")
    let m := (fresh (.filter .null) [("map", Handler.silent)]).run 1 [.update (.sync [z, b, a, c] none)]
    let u : Update := .sync [d, c', a, d'] none
    let n := u.perform holds 1 m
    u.Effective m.cache ∧ CalmIn m.handlers n.journal ∧
      Table.keys m.cache.tracked = [⟨"z", "a"⟩, ⟨"", "b"⟩, ⟨"", "a"⟩, ⟨"", "c"⟩] ∧
      ∃ events, n.published = m.published ++ announced m.handlers events ∧
        Delta [⟨"", "d"⟩, ⟨"", "c"⟩, ⟨"", "a"⟩] m.cache.tracked n.cache.tracked events := by
  intro a b c c' d d' z m u n
  have effective : u.Effective m.cache := .sync _
  have grown : Grown (fun _ => True) (fresh (.filter .null) [("map", Handler.silent)]) m :=
    perform_grows (u := .sync [z, b, a, c] none)
  have calm : CalmIn m.handlers n.journal := by
    rw [grown.handlers]
    exact calmIn_silent
  have listed : Identity.distinct ((lastListed ([.update (.sync [z, b, a, c] none)] ++ [.update u])).filterMap
      Value.identity?) = [⟨"", "d"⟩, ⟨"", "c"⟩, ⟨"", "a"⟩] := by decide +kernel
  have delta := published_delta (m := m) (n := n) rfl rfl effective calm
  rw [listed] at delta
  exact ⟨effective, calm, by decide +kernel, delta⟩

end Monitor

end ObjectWatch
