import ObjectWatch.Proofs.Filter.Equality
import ObjectWatch.Proofs.Monitor.Exact

/-! That a filter equal to the present one is not put in cannot be observed. Beside a monitor runs another
    one that takes every filter in; their filters drift apart, but the same objects pass them, and
    reconciling what is tracked with itself publishes nothing. -/

namespace ObjectWatch

/-- A criterion whose filter, if it is one, maps texts to texts. -/
def Criterion.HasTexts : Criterion → Prop
  | filter f => f.HasTexts
  | _ => True

/-- An update whose filter, if it has one, maps texts to texts. -/
def Update.HasTexts : Update → Prop
  | refilter c => c.HasTexts
  | _ => True

/-- Two criteria are the same, or filters that the same objects pass. -/
inductive Criterion.Alike : Criterion → Criterion → Prop where
  | refl (c : Criterion) : Alike c c
  | filters {f g : Filter} (h : ∀ v, f.accept v = g.accept v) : Alike (filter f) (filter g)

/-- Two caches differ in nothing but filters that the same objects pass. -/
structure Cache.Alike (c d : Cache) : Prop where
  criterion : c.criterion.Alike d.criterion
  listing : c.listing = d.listing
  tracked : c.tracked = d.tracked

section Alike
variable {c d : Cache} {u : Update} {us : List Update} {objects : List Value} {cr cr' : Criterion}

theorem Criterion.Alike.select_congr (h : cr.Alike cr') (listing : List (Identity × Value)) :
    cr.select listing = cr'.select listing := by
  cases h with
  | refl => rfl
  | filters h => simp only [Criterion.select, h]

theorem Criterion.HasTexts.initial (h : cr.HasTexts) : cr.initial.HasTexts := by
  cases cr with
  | filter f => exact h
  | unconditional => trivial
  | foreign v =>
    rw [Criterion.initial]
    split
    · trivial
    · intro target htarget
      cases htarget

/-- Alike caches publish the same when they are reconciled, and stay alike. -/
theorem Cache.Alike.reconciled (h : c.Alike d) :
    c.reconciled.2 = d.reconciled.2 ∧ c.reconciled.1.Alike d.reconciled.1 := by
  have hselect : c.criterion.select c.listing = d.criterion.select d.listing := by
    rw [h.criterion.select_congr, h.listing]
  unfold Cache.reconciled Cache.reconcile
  rw [hselect, h.tracked]
  cases d.criterion.select d.listing with
  | error cause => exact ⟨rfl, h⟩
  | ok tracked => exact ⟨rfl, h.criterion, h.listing, rfl⟩

/-- A comparison that finds no filter equal to what a cache has. -/
def neverHolds : Filter → Criterion → Bool :=
  fun _ _ => false

/-- Taking a filter in that equals the present one changes nothing but the filter. -/
theorem reconciled_of_holds {f : Filter} (hexact : Cache.Exact objects c)
    (hself : ∀ v ∈ objects, v.equal v = true) (hc : c.criterion.HasTexts) (hf : f.HasTexts) (h : c.Alike d)
    (hholds : Monitor.holds f c.criterion = true) :
    { d with criterion := .filter f }.reconciled.2 = [] ∧ c.Alike { d with criterion := .filter f }.reconciled.1 := by
  cases hg : c.criterion with
  | unconditional => rw [hg] at hholds; cases hholds
  | foreign v => rw [hg] at hholds; cases hholds
  | filter g =>
    rw [hg] at hc hholds
    have haccept : ∀ v, f.accept v = g.accept v := Filter.accept_eq_of_equals hf hc hholds
    have htracked : d.listing.filter (fun entry => f.accept entry.2) = c.tracked := by
      rw [hexact.tracked, hg, ← h.listing]
      exact List.filter_congr fun entry _ => haccept entry.2
    have step : { d with criterion := .filter f }.reconciled =
        ({ d with criterion := .filter f, tracked := d.listing.filter fun entry => f.accept entry.2 },
          Cache.changes d.tracked (d.listing.filter fun entry => f.accept entry.2)) := rfl
    rw [step, htracked, ← h.tracked]
    refine ⟨Cache.changes_self hexact.nodup_keys fun entry he => hself _ (hexact.mem_objects he), ?_⟩
    exact ⟨hg ▸ .filters fun v => (haccept v).symm, h.listing, rfl⟩

/-- Updates of alike caches, one of which takes every filter in, publish the same and leave alike caches. -/
theorem apply_alike (hexact : Cache.Exact objects c) (hself : ∀ v ∈ objects, v.equal v = true)
    (hc : c.criterion.HasTexts) (hu : u.HasTexts) (h : c.Alike d) :
    (u.apply Monitor.holds c).2 = (u.apply neverHolds d).2 ∧
      (u.apply Monitor.holds c).1.Alike (u.apply neverHolds d).1 := by
  cases u with
  | sync listed broken =>
    cases broken with
    | some cause => exact ⟨rfl, h⟩
    | none => exact Cache.Alike.reconciled ⟨h.criterion, rfl, h.tracked⟩
  | refilter cr =>
    cases cr with
    | unconditional => exact ⟨rfl, h⟩
    | foreign v => exact ⟨rfl, h⟩
    | filter f =>
      have taken : Update.apply neverHolds (.refilter (.filter f)) d = { d with criterion := .filter f }.reconciled := rfl
      rw [taken, Update.apply]
      by_cases hholds : Monitor.holds f c.criterion = true
      · rw [if_pos hholds]
        obtain ⟨hevents, halike⟩ := reconciled_of_holds hexact hself hc hu h hholds
        exact ⟨hevents.symm, halike⟩
      · rw [if_neg hholds]
        exact Cache.Alike.reconciled ⟨.refl _, h.listing, h.tracked⟩

theorem apply_hasTexts {equal : Filter → Criterion → Bool} (hc : c.criterion.HasTexts) (hu : u.HasTexts) :
    (u.apply equal c).1.criterion.HasTexts := by
  rcases @Update.apply_cases equal u c with ⟨listed, -, happly⟩ | ⟨f, rfl, happly⟩ | ⟨-, happly⟩
  · rwa [happly, Cache.reconciled_criterion]
  · rwa [happly, Cache.reconciled_criterion]
  · rwa [happly]

theorem applyAll_alike (hexact : Cache.Exact objects c) (hself : ∀ v ∈ objects, v.equal v = true)
    (hlisted : ∀ v, Listed us v → v.equal v = true) (hc : c.criterion.HasTexts) (hus : ∀ u ∈ us, u.HasTexts)
    (h : c.Alike d) : (c.applyAll Monitor.holds us).2 = (d.applyAll neverHolds us).2 ∧
      (c.applyAll Monitor.holds us).1.Alike (d.applyAll neverHolds us).1 := by
  induction us generalizing c d objects with
  | nil => exact ⟨rfl, h⟩
  | cons u us ih =>
    obtain ⟨hu, hus⟩ := List.forall_mem_cons.mp hus
    obtain ⟨hevents, halike⟩ := apply_alike hexact hself hc hu h
    have hself' : ∀ v ∈ (Op.update u).listed objects, v.equal v = true := fun v hv =>
      (mem_listed hv).elim (fun h => hlisted v (listed_cons.mpr (.inl h))) (hself v)
    obtain ⟨hevents', halike'⟩ := ih (Update.apply_exact hexact) hself'
      (fun v hv => hlisted v (listed_cons.mpr (.inr hv))) (apply_hasTexts hc hu) hus halike
    exact ⟨congrArg₂ _ hevents hevents', halike'⟩

end Alike

namespace Monitor
variable {depth : Nat} {cr : Criterion} {handlers : List (String × Handler)} {us : List Update}

/-- Beside a monitor that takes every filter in, one that does not take in what equals its filter publishes
the same events, and tracks the same objects. -/
theorem shortcut_unobservable (hcr : cr.HasTexts) (hus : ∀ u ∈ us, u.HasTexts)
    (hself : ∀ v, Listed us v → v.equal v = true)
    (hcalm : CalmIn handlers ((fresh cr handlers).updateAll holds depth us).journal)
    (hcalm' : CalmIn handlers ((fresh cr handlers).updateAll neverHolds depth us).journal) :
    ((fresh cr handlers).updateAll holds depth us).published =
      ((fresh cr handlers).updateAll neverHolds depth us).published ∧
    ((fresh cr handlers).updateAll holds depth us).cache.toList =
      ((fresh cr handlers).updateAll neverHolds depth us).cache.toList ∧
    ∀ id, ((fresh cr handlers).updateAll holds depth us).cache.get? id =
      ((fresh cr handlers).updateAll neverHolds depth us).cache.get? id := by
  have moved := updateAll_calm (m := fresh cr handlers) hcalm List.prefix_rfl
  have moved' := updateAll_calm (m := fresh cr handlers) hcalm' List.prefix_rfl
  obtain ⟨hevents, halike⟩ := applyAll_alike (c := (fresh cr handlers).cache) (d := (fresh cr handlers).cache)
    .fresh (fun _ hv => absurd hv List.not_mem_nil) hself hcr.initial hus ⟨.refl _, rfl, rfl⟩
  have htracked : ((fresh cr handlers).updateAll holds depth us).cache.tracked =
      ((fresh cr handlers).updateAll neverHolds depth us).cache.tracked := by
    rw [moved.cache, moved'.cache, halike.tracked]
  refine ⟨by rw [moved.published, moved'.published, hevents], ?_, fun id => ?_⟩
  · unfold Cache.toList Cache.get?
    rw [htracked]
  · rw [Cache.get?, Cache.get?, htracked]

/-- A filter with the same pairs in another order is not put in, and later another one is. -/
theorem shortcut_unobservable_reordered :
    let a : Value := .object (.str "a") (.str "") [(.str "x", .str "1"), (.str "y", .str "2")] (.str "Pod")
    let f : Filter := .labels [(.str "x", .str "1"), (.str "y", .str "2")]
    let f' : Filter := .labels [(.str "y", .str "2"), (.str "x", .str "1")]
    let us : List Update := [.sync [a] none, .refilter (.filter f'), .refilter (.filter .all)]
    let handlers := [("log", Handler.logging)]
    f'.equals f = true ∧ ∃ m n, m = (fresh (.filter f) handlers).updateAll holds 1 us ∧
      n = (fresh (.filter f) handlers).updateAll neverHolds 1 us ∧
      m.published = n.published ∧ m.cache.toList = n.cache.toList ∧ ∀ id, m.cache.get? id = n.cache.get? id := by
  intro a f f' us handlers
  have hf : f.HasTexts := by
    rintro _ ⟨⟩
    exact ⟨by simp, by simp⟩
  have hf' : f'.HasTexts := by
    rintro _ ⟨⟩
    exact ⟨by simp, by simp⟩
  have texts : ∀ u ∈ us, u.HasTexts := by
    simp only [us, List.forall_mem_cons]
    exact ⟨trivial, hf', nofun, nofun⟩
  have self : ∀ v, Listed us v → v.equal v = true := by
    rintro v ⟨objects, hmem, hv⟩
    simp only [us, List.mem_cons, Update.sync.injEq, and_true, reduceCtorEq, List.not_mem_nil, or_false] at hmem
    rw [hmem, List.mem_singleton] at hv
    rw [hv]
    decide +kernel
  have calm : ∀ entry ∈ handlers, entry.2.Calm := by
    simp [handlers, Handler.Calm, Handler.logging, Reaction.Calm]
  refine ⟨by decide +kernel, _, _, rfl, rfl, ?_⟩
  exact shortcut_unobservable hf texts self (calmIn_of_calm calm) (calmIn_of_calm calm)

end Monitor

end ObjectWatch
