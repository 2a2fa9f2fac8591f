import Mathlib.Data.List.Induction
import ObjectWatch.Proofs.Cache
import ObjectWatch.Proofs.Monitor.Calm

/-! What is tracked is exactly what passes of the last listing, at every moment of every run: whenever a
    handler is called or answered, also inside another one, and after every operation, returned or failed.
    Putting in a filter or a listing makes a cache exact whatever it tracked before, and a delivery that is
    cut short leaves the cache as it is, so no history can be told from what is tracked. -/

namespace ObjectWatch

/-- Whether a criterion passes an object. A value that is no filter passes none. -/
def Criterion.accepts : Criterion → Value → Bool
  | filter f, v => f.accept v
  | unconditional, _ => true
  | foreign _, _ => false

/-- The listing that is the last complete one after an operation, where `before` was it. -/
def Op.listed (before : List Value) : Op → List Value
  | update (.sync objects none) => objects
  | _ => before

/-- The last complete listing of a run, empty before the first. -/
def lastListed (ops : List Op) : List Value :=
  ops.foldl (fun before op => op.listed before) []

theorem lastListed_concat {ops : List Op} {op : Op} : lastListed (ops ++ [op]) = op.listed (lastListed ops) :=
  List.foldl_concat ..

/-- The objects of the complete listings among updates. -/
def Listed (us : List Update) (v : Value) : Prop :=
  ∃ objects, .sync objects none ∈ us ∧ v ∈ objects

theorem listed_cons {u : Update} {us : List Update} {v : Value} :
    Listed (u :: us) v ↔ Listed [u] v ∨ Listed us v := by
  simp only [Listed, List.mem_cons, List.not_mem_nil, or_false, or_and_right, exists_or]

/-- What is listed after an update was listed by it or before. -/
theorem mem_listed {u : Update} {objects : List Value} {v : Value} (h : v ∈ (Op.update u).listed objects) :
    Listed [u] v ∨ v ∈ objects := by
  cases u with
  | sync listed broken =>
    cases broken with
    | none => exact .inl ⟨listed, List.mem_singleton_self _, h⟩
    | some cause => exact .inr h
  | refilter c => exact .inr h

/-- What the cache holds at some moment of a run from a monitor, with the operations begun by then. -/
inductive Seen (depth : Nat) (m : Monitor) : List Op → Cache → Prop where
  /-- An operation is over, or none has begun. -/
  | returned (ops : List Op) : Seen depth m ops (m.run depth ops).cache
  /-- A handler is called or answered. -/
  | within {ops : List Op} {op : Op} {e : Entry} {c : Cache}
      (he : e ∈ (m.run depth (ops ++ [op])).journal.drop (m.run depth ops).journal.length)
      (hc : e.cache? = some c) : Seen depth m (ops ++ [op]) c

namespace Cache
variable {objects : List Value} {c : Cache}

theorem select_eq_ok {cr : Criterion} {listing t : List (Identity × Value)} (h : cr.select listing = .ok t) :
    t = listing.filter fun entry => cr.accepts entry.2 := by
  cases cr with
  | filter f => cases h; rfl
  | unconditional =>
    cases h
    exact (List.filter_eq_self.mpr fun _ _ => rfl).symm
  | foreign v =>
    rw [Criterion.select] at h
    split at h
    · cases h
      simp [Criterion.accepts]
    · cases h

theorem accepts_of_select_error {cr : Criterion} {listing : List (Identity × Value)} {e : AccessError}
    (h : cr.select listing = .error e) (v : Value) : cr.accepts v = false := by
  cases cr with
  | filter f => cases h
  | unconditional => cases h
  | foreign w => rfl

/-- A cache tracks what its criterion passes of its listing, which is the index of `objects`. The criterion
counts as given. -/
structure Exact (objects : List Value) (c : Cache) : Prop where
  listing : c.listing = index objects
  tracked : c.tracked = c.listing.filter fun entry => c.criterion.accepts entry.2
  initial : c.criterion.initial = c.criterion

/-- Two exact caches of one listing with the same criterion are equal. -/
theorem Exact.unique {c' : Cache} (h : Exact objects c) (h' : Exact objects c') (hc : c.criterion = c'.criterion) :
    c = c' := by
  obtain ⟨cr, listing, tracked⟩ := c
  obtain ⟨cr', listing', tracked'⟩ := c'
  cases hc
  cases h.listing.trans h'.listing.symm
  cases h.tracked.trans h'.tracked.symm
  rfl

theorem reconciled_criterion : c.reconciled.1.criterion = c.criterion := by
  unfold Cache.reconciled Cache.reconcile
  cases c.criterion.select c.listing <;> rfl

/-- Reconciling makes a cache exact, if it tracked nothing in case its criterion passes nothing. -/
theorem Exact.reconciled (hl : c.listing = index objects) (hi : c.criterion.initial = c.criterion)
    (hnone : (∀ v, c.criterion.accepts v = false) → c.tracked = []) : Exact objects c.reconciled.1 := by
  unfold Cache.reconciled Cache.reconcile
  cases hs : c.criterion.select c.listing with
  | error e =>
    have hrejects := accepts_of_select_error hs
    refine ⟨hl, (hnone hrejects).trans ?_, hi⟩
    exact (List.filter_eq_nil_iff.mpr fun entry _ => by rw [Except.map]; simp [hrejects]).symm
  | ok t => exact ⟨hl, select_eq_ok hs, hi⟩

theorem Exact.fresh {cr : Criterion} : Exact [] (Cache.fresh cr) := by
  refine ⟨rfl, rfl, ?_⟩
  cases cr with
  | filter f => rfl
  | unconditional => rfl
  | foreign v => cases hv : v.truthy <;> simp [Cache.fresh, Criterion.initial, hv]

theorem Exact.refilter (h : Exact objects c) (f : Filter) :
    Exact objects { c with criterion := .filter f }.reconciled.1 :=
  ⟨h.listing, rfl, rfl⟩

theorem Exact.sync {listed : List Value} (h : Exact objects c) :
    Exact listed { c with listing := index listed }.reconciled.1 := by
  refine .reconciled rfl h.initial fun hrejects => ?_
  rw [h.tracked]
  exact List.filter_eq_nil_iff.mpr fun entry _ => by simp [hrejects]

theorem Exact.nodup_keys (h : Exact objects c) : (Table.keys c.tracked).Nodup := by
  rw [h.tracked, h.listing]
  exact Table.nodup_keys_filter nodup_keys_index _

/-- What an exact cache tracks is in the order in which the identities were first listed. -/
theorem Exact.keys_sublist (h : Exact objects c) :
    (Table.keys c.tracked).Sublist (Identity.distinct (objects.filterMap Value.identity?)) := by
  rw [← keys_index, h.tracked, h.listing]
  exact List.filter_sublist.map _

/-- What an exact cache tracks was listed. -/
theorem Exact.mem_objects {id : Identity} {v : Value} (h : Exact objects c) (hv : (id, v) ∈ c.tracked) :
    v ∈ objects := by
  rw [h.tracked, h.listing] at hv
  exact mem_of_mem_index (List.mem_filter.mp hv).1

/-- Reconciling gives the events to what is tracked then, and none where it fails. -/
theorem reconciled_changes : c.reconciled.2 = changes c.tracked c.reconciled.1.tracked ∨
    c.reconciled.2 = [] ∧ c.reconciled.1.tracked = c.tracked := by
  unfold Cache.reconciled Cache.reconcile
  cases c.criterion.select c.listing with
  | error cause => exact .inr ⟨rfl, rfl⟩
  | ok tracked => exact .inl rfl

/-- Taking in a listing gives the events from what was tracked to what is tracked then. -/
theorem Exact.sync_changes {listed : List Value} (h : Exact objects c) :
    { c with listing := index listed }.reconciled.2 =
      changes c.tracked { c with listing := index listed }.reconciled.1.tracked := by
  unfold Cache.reconciled Cache.reconcile
  cases hs : c.criterion.select (index listed) with
  | ok tracked =>
    rfl
  | error cause =>
    -- What fails on a listing passes nothing, so nothing was tracked.
    have hnone : c.tracked = [] := by
      rw [h.tracked]
      exact List.filter_eq_nil_iff.mpr fun entry _ => by simp [accepts_of_select_error hs]
    rw [hnone]
    rfl

end Cache

namespace Update
variable {equal : Filter → Criterion → Bool} {u : Update} {c : Cache} {objects : List Value}

/-- An update takes in a complete listing or a filter, or leaves the cache as it is and publishes nothing. -/
theorem apply_cases :
    (∃ listed, u = .sync listed none ∧ u.apply equal c = { c with listing := Cache.index listed }.reconciled) ∨
    (∃ f, u = .refilter (.filter f) ∧ u.apply equal c = { c with criterion := .filter f }.reconciled) ∨
    ((∀ objects, (Op.update u).listed objects = objects) ∧ u.apply equal c = (c, [])) := by
  cases u with
  | sync listed broken =>
    cases broken with
    | none => exact .inl ⟨listed, rfl, rfl⟩
    | some cause => exact .inr (.inr ⟨fun _ => rfl, rfl⟩)
  | refilter cr =>
    cases cr with
    | unconditional => exact .inr (.inr ⟨fun _ => rfl, rfl⟩)
    | foreign v => exact .inr (.inr ⟨fun _ => rfl, rfl⟩)
    | filter f =>
      rw [apply]
      split
      · exact .inr (.inr ⟨fun _ => rfl, rfl⟩)
      · exact .inr (.inl ⟨f, rfl, rfl⟩)

theorem apply_exact (h : Cache.Exact objects c) : Cache.Exact ((Op.update u).listed objects) (u.apply equal c).1 := by
  rcases @apply_cases equal u c with ⟨listed, rfl, hu⟩ | ⟨f, rfl, hu⟩ | ⟨hl, hu⟩
  · exact hu ▸ h.sync
  · exact hu ▸ h.refilter f
  · rwa [hl, hu]

/-- An update publishes the events to what is tracked after it, or nothing where that stays. -/
theorem apply_changes : (u.apply equal c).2 = Cache.changes c.tracked (u.apply equal c).1.tracked ∨
    (u.apply equal c).2 = [] ∧ (u.apply equal c).1.tracked = c.tracked := by
  rcases @apply_cases equal u c with ⟨listed, -, hu⟩ | ⟨f, -, hu⟩ | ⟨-, hu⟩
  · rw [hu]
    exact Cache.reconciled_changes (c := { c with listing := Cache.index listed })
  · rw [hu]
    exact Cache.reconciled_changes (c := { c with criterion := .filter f })
  · rw [hu]
    exact .inr ⟨rfl, rfl⟩

end Update

namespace Monitor
open Cache
variable {depth : Nat} {ops : List Op} {op : Op} {m : Monitor} {objects : List Value} {c : Cache}

theorem refilterAt_exact : ∀ c m, Exact objects m.cache → Kept (Exact objects) m (refilterAt holds depth c m).2 :=
  refilterAt_kept fun f _ h => h.refilter f

theorem update_exact {u : Update} (hm : Exact objects m.cache) :
    Kept (Exact ((Op.update u).listed objects)) m (u.perform holds depth m) := by
  cases u with
  | sync listed broken =>
    cases broken with
    | some cause => exact syncVia_kept (P := Exact objects) refilterAt_exact (fun _ => hm) nofun
    | none => exact syncVia_kept (P := Exact listed) refilterAt_exact (absurd rfl) fun _ => hm.sync
  | refilter c => exact refilterAt_exact c m hm

/-- An operation on an exact cache leaves an exact one, and shows the handlers no other. -/
theorem perform_exact (hm : Exact objects m.cache) : Exact (op.listed objects) (op.perform depth m).cache ∧
    ∃ new, (op.perform depth m).journal = m.journal ++ new ∧
      ∀ e ∈ new, ∀ c, e.cache? = some c → Exact (op.listed objects) c := by
  cases op with
  | update u => exact ⟨(update_exact hm).cache, (update_exact hm).grown.journal⟩
  | register name h =>
    refine ⟨register_cache.symm ▸ hm, [], register_journal.trans (List.append_nil _).symm, ?_⟩
    exact fun e he => absurd he List.not_mem_nil
  | unregister name =>
    refine ⟨hm, [], (List.append_nil _).symm, ?_⟩
    exact fun e he => absurd he List.not_mem_nil

section Runs
variable {cr : Criterion} {handlers : List (String × Handler)}

theorem run_exact : Exact (lastListed ops) ((fresh cr handlers).run depth ops).cache := by
  induction ops using List.reverseRecOn with
  | nil => exact .fresh
  | append_singleton ops op ih =>
    rw [lastListed_concat, run, List.foldl_concat]
    exact (perform_exact ih).1

theorem seen_exact (h : Seen depth (fresh cr handlers) ops c) : Exact (lastListed ops) c := by
  cases h with
  | returned => exact run_exact
  | @within ops op e _ he hc =>
    -- What the operation adds to the journal is what it shows to handlers.
    have exact' : Exact (lastListed ops) ((fresh cr handlers).run depth ops).cache := run_exact
    obtain ⟨-, new, hnew, hexact⟩ := @perform_exact depth op _ _ exact'
    have hrun : (fresh cr handlers).run depth (ops ++ [op]) = op.perform depth ((fresh cr handlers).run depth ops) :=
      List.foldl_concat ..
    rw [hrun, hnew, List.drop_left] at he
    rw [lastListed_concat]
    exact hexact e he c hc

end Runs

end Monitor

end ObjectWatch
