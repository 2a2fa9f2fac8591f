import ObjectWatch.Monitor

/-! Runs of a monitor: operations from outside one after the other, each with whatever the handlers do
    meanwhile. An operation only adds to the journal and leaves the handlers as they are (`Grown`); a
    property of the cache that survives every change of the filter holds at every moment at which a handler
    is called or answered, and when the operation is over (`Kept`). -/

namespace ObjectWatch

/-- The cache after a reconciliation, and the events. One that fails leaves the cache as it is. -/
def Cache.reconciled (c : Cache) : Cache × List Event :=
  match c.reconcile with
  | .ok result => result
  | .error _ => (c, [])

/-- A change of the listing or the filter from outside. -/
inductive Update where
  /-- Goes through a listing that breaks off with a failure or is complete. -/
  | sync (objects : List Value) (broken : Option Failure)
  | refilter (c : Criterion)

namespace Update

/-- The monitor after an update, returned or failed. Filters count as equal as `equal` says, and handlers
may change the filter `depth` times inside one another. -/
def perform (equal : Filter → Criterion → Bool) (depth : Nat) : Update → Monitor → Monitor
  | sync objects broken, m => (Monitor.syncVia (Monitor.refilterAt equal depth) objects broken m).2
  | refilter c, m => (Monitor.refilterAt equal (depth + 1) c m).2

/-- What an update answers, except whether a filter was put in. -/
def result (equal : Filter → Criterion → Bool) (depth : Nat) : Update → Monitor → Except Failure Unit
  | sync objects broken, m => (Monitor.syncVia (Monitor.refilterAt equal depth) objects broken m).1
  | refilter c, m => (Monitor.refilterAt equal (depth + 1) c m).1.map fun _ => ()

/-- What an update makes of a cache, and the events that it publishes, where no handler interferes. -/
def apply (equal : Filter → Criterion → Bool) : Update → Cache → Cache × List Event
  | sync objects none, c => { c with listing := Cache.index objects }.reconciled
  | refilter (.filter f), c =>
    if equal f c.criterion then (c, []) else { c with criterion := .filter f }.reconciled
  | _, c => (c, [])

end Update

/-- An operation on a monitor from outside. -/
inductive Op where
  | update (u : Update)
  | register (name : String) (h : Handler)
  | unregister (name : String)

/-- The monitor after an operation, returned or failed. -/
def Op.perform (depth : Nat) : Op → Monitor → Monitor
  | update u, m => u.perform Monitor.holds depth m
  | register name h, m => (m.register name h).2
  | unregister name, m => m.unregister name

namespace Monitor

/-- The monitor after updates, one after the other. -/
def updateAll (equal : Filter → Criterion → Bool) (depth : Nat) (us : List Update) (m : Monitor) : Monitor :=
  us.foldl (fun m u => u.perform equal depth m) m

/-- The monitor after operations, one after the other. -/
def run (depth : Nat) (ops : List Op) (m : Monitor) : Monitor :=
  ops.foldl (fun m op => op.perform depth m) m

/-! ### Registrations -/

section Register
variable {name : String} {h : Handler} {m : Monitor}

theorem register_of_has (hname : Table.has name m.handlers = true) :
    m.register name h = (.error (.handlerTaken name), m) :=
  if_pos hname

theorem register_of_not_has (hname : ¬ Table.has name m.handlers = true) :
    m.register name h = (.ok (), { m with handlers := m.handlers ++ [(name, h)] }) :=
  if_neg hname

theorem register_cache : (m.register name h).2.cache = m.cache := by
  unfold register
  split <;> rfl

theorem register_journal : (m.register name h).2.journal = m.journal := by
  unfold register
  split <;> rfl

end Register

/-! ### Log records -/

theorem logSkipped_cons {v : Value} {rest : List Value} {m : Monitor} : logSkipped (v :: rest) m =
    logSkipped rest (if v.identity?.isSome then m else
      m.log .debug .cache ("skipping object without namespace/name: " ++ v.literal)) := rfl

/-- From `m` to `n` nothing happens but that records are logged. -/
def Noted (m n : Monitor) : Prop :=
  ∃ notes, n = { m with journal := m.journal ++ notes } ∧ ∀ e ∈ notes, ∃ r, e = .record r

namespace Noted
variable {m n o : Monitor}

theorem refl (m : Monitor) : Noted m m :=
  ⟨[], by rw [List.append_nil], fun e he => absurd he List.not_mem_nil⟩

theorem trans (h₁ : Noted m n) (h₂ : Noted n o) : Noted m o := by
  obtain ⟨notes₁, rfl, hr₁⟩ := h₁
  obtain ⟨notes₂, rfl, hr₂⟩ := h₂
  refine ⟨notes₁ ++ notes₂, by rw [List.append_assoc], fun e he => ?_⟩
  exact (List.mem_append.mp he).elim (hr₁ e) (hr₂ e)

theorem record {r : Record} : Noted m (m.write (.record r)) :=
  ⟨[.record r], rfl, fun _ he => ⟨r, List.mem_singleton.mp he⟩⟩

theorem log {level : Level} {source : Source} {message : String} : Noted m (m.log level source message) := record

theorem logSkipped {objects : List Value} : Noted m (logSkipped objects m) := by
  induction objects generalizing m with
  | nil => exact refl m
  | cons v rest ih =>
    rw [logSkipped_cons]
    split
    · exact ih
    · exact log.trans ih

theorem track {c : Cache} {events : List Event} : Noted (m.withCache c) (m.track c events) := by
  unfold Monitor.track
  simp only
  split
  · exact refl _
  · exact log

theorem cache (h : Noted m n) : n.cache = m.cache := by
  obtain ⟨notes, rfl, -⟩ := h
  rfl

theorem handlers (h : Noted m n) : n.handlers = m.handlers := by
  obtain ⟨notes, rfl, -⟩ := h
  rfl

/-- What is read off the journal without its records stays. -/
theorem filterMap_journal {α : Type} {p : Entry → Option α} (hp : ∀ r, p (.record r) = none) (h : Noted m n) :
    n.journal.filterMap p = m.journal.filterMap p := by
  obtain ⟨notes, rfl, hrecords⟩ := h
  have hnone : notes.filterMap p = [] := by
    refine List.filterMap_eq_nil_iff.mpr fun e he => ?_
    obtain ⟨r, rfl⟩ := hrecords e he
    exact hp r
  rw [List.filterMap_append, hnone, List.append_nil]

end Noted

/-! ### What an operation keeps -/

/-- From `m` to `n` the journal only grows, by entries at which the cache satisfies `P`. -/
structure Grown (P : Cache → Prop) (m n : Monitor) : Prop where
  handlers : n.handlers = m.handlers
  journal : ∃ new, n.journal = m.journal ++ new ∧ ∀ e ∈ new, ∀ c, e.cache? = some c → P c

namespace Grown
variable {P : Cache → Prop} {m n o : Monitor}

theorem of_eq (hh : n.handlers = m.handlers) (hj : n.journal = m.journal) : Grown P m n :=
  ⟨hh, [], by rw [hj, List.append_nil], fun e he => by cases he⟩

theorem trans (h₁ : Grown P m n) (h₂ : Grown P n o) : Grown P m o := by
  obtain ⟨new₁, hj₁, hc₁⟩ := h₁.journal
  obtain ⟨new₂, hj₂, hc₂⟩ := h₂.journal
  refine ⟨h₂.handlers.trans h₁.handlers, new₁ ++ new₂, by rw [hj₂, hj₁, List.append_assoc], fun e he => ?_⟩
  rcases List.mem_append.mp he with he | he
  · exact hc₁ e he
  · exact hc₂ e he

theorem write {e : Entry} (he : ∀ c, e.cache? = some c → P c) : Grown P m (m.write e) :=
  ⟨rfl, [e], rfl, fun e' he' => by rwa [List.mem_singleton.mp he']⟩

theorem withCache {c : Cache} : Grown P m (m.withCache c) := of_eq rfl rfl

theorem journal_le (h : Grown P m n) : m.journal <+: n.journal := by
  obtain ⟨new, hnew, -⟩ := h.journal
  exact ⟨new, hnew.symm⟩

theorem of_noted (h : Noted m n) : Grown P m n := by
  obtain ⟨notes, rfl, hrecords⟩ := h
  refine ⟨rfl, notes, rfl, fun e he c hc => ?_⟩
  obtain ⟨r, rfl⟩ := hrecords e he
  cases hc

end Grown

/-- From `m` to `n` the cache satisfies `P` whenever it is seen, and in the end. -/
structure Kept (P : Cache → Prop) (m n : Monitor) : Prop where
  grown : Grown P m n
  cache : P n.cache

namespace Kept
variable {P : Cache → Prop} {m n o : Monitor}

theorem refl (hm : P m.cache) : Kept P m m := ⟨.of_eq rfl rfl, hm⟩

theorem trans (h₁ : Grown P m n) (h₂ : Kept P n o) : Kept P m o := ⟨h₁.trans h₂.grown, h₂.cache⟩

theorem journal_le (h : Kept P m n) : m.journal <+: n.journal := h.grown.journal_le

end Kept

section Keeping
variable {P : Cache → Prop} {change : Criterion → Operation Bool} {m : Monitor}

/-- A reaction keeps what its changes of the filter keep. -/
theorem run_kept (hchange : ∀ c m, P m.cache → Kept P m (change c m).2) {r : Reaction} (hm : P m.cache) :
    Kept P m (r.run change m).2 := by
  induction r generalizing m with
  | done => exact .refl hm
  | fail cause => exact .refl hm
  | note r next ih => exact .trans (.of_noted .record) (ih hm)
  | refilter c next ih =>
    have h := hchange c m hm
    have answered : Grown P (change c m).2 ((change c m).2.write (.answer ⟨(change c m).1, (change c m).2.cache⟩)) :=
      .write fun _ h' => by cases h'; exact h.cache
    exact .trans (h.grown.trans answered) (ih (change c m).1 h.cache)

/-- From the call of the first handler on, deliveries keep what the rest of them keeps. -/
theorem deliver_cons_kept (hchange : ∀ c m, P m.cache → Kept P m (change c m).2) {d : String × Handler × Event}
    {rest : List (String × Handler × Event)} (hrest : ∀ m, P m.cache → Kept P m (deliver change rest m).2)
    (hm : P m.cache) : Kept P (m.write (.delivery ⟨d.1, d.2.2, m.cache⟩)) (deliver change (d :: rest) m).2 := by
  have reacted := run_kept hchange (m := m.write (.delivery ⟨d.1, d.2.2, m.cache⟩))
    (r := d.2.1.react m.cache m.journal d.2.2) hm
  rw [deliver]
  split
  · rename_i n hn
    rw [hn] at reacted
    exact .trans reacted.grown (hrest n reacted.cache)
  · rename_i cause n hn
    rw [hn] at reacted
    exact reacted

theorem deliver_kept (hchange : ∀ c m, P m.cache → Kept P m (change c m).2)
    {ds : List (String × Handler × Event)} : ∀ m, P m.cache → Kept P m (deliver change ds m).2 := by
  induction ds with
  | nil => exact fun _ hm => .refl hm
  | cons d rest ih =>
    intro m hm
    have called : Grown P m (m.write (.delivery ⟨d.1, d.2.2, m.cache⟩)) :=
      .write fun _ h' => by cases h'; exact hm
    exact .trans called (deliver_cons_kept hchange ih hm)

theorem write_grows {e : Entry} : Grown (fun _ => True) m (m.write e) :=
  .write fun _ _ => trivial

theorem run_grows (hchange : ∀ c m, True → Kept (fun _ => True) m (change c m).2) {r : Reaction} {n : Monitor}
    {result : Except Failure Unit} (h : r.run change m = (result, n)) : Grown (fun _ => True) m n := by
  have kept : Kept (fun _ => True) m (r.run change m).2 := run_kept hchange trivial
  rw [h] at kept
  exact kept.grown

theorem deliver_grows (hchange : ∀ c m, True → Kept (fun _ => True) m (change c m).2)
    {ds : List (String × Handler × Event)} : Grown (fun _ => True) m (deliver change ds m).2 :=
  (deliver_kept (P := fun _ => True) hchange m trivial).grown

/-- The journal of a reaction is a part of that of the deliveries that begin with it. -/
theorem run_journal_le (hchange : ∀ c m, True → Kept (fun _ => True) m (change c m).2) {d : String × Handler × Event}
    {rest : List (String × Handler × Event)} :
    ((d.2.1.react m.cache m.journal d.2.2).run change (m.write (.delivery ⟨d.1, d.2.2, m.cache⟩))).2.journal <+:
      (deliver change (d :: rest) m).2.journal := by
  rw [deliver]
  split
  · rename_i n hn
    rw [hn]
    exact (deliver_grows hchange).journal_le
  · rename_i cause n hn
    exact hn ▸ List.prefix_rfl

/-- A reconciliation fails and changes nothing, or it tracks what passes and then delivers the events. -/
theorem reconcile_cases :
    (∃ cause, m.cache.reconcile = .error cause ∧ m.cache.reconciled = (m.cache, []) ∧
      reconcile change m = (.error (.access cause), m)) ∨
    ∃ n, Noted (m.withCache m.cache.reconciled.1) n ∧ m.cache.reconcile = .ok m.cache.reconciled ∧
      reconcile change m = deliver change (plan m.handlers m.cache.reconciled.2) n := by
  unfold reconcile Cache.reconciled
  cases m.cache.reconcile with
  | error cause => exact .inl ⟨cause, rfl, rfl, rfl⟩
  | ok result => exact .inr ⟨m.track result.1 result.2, .track, rfl, rfl⟩

/-- A reconciliation keeps what holds after it and what its handlers keep. -/
theorem reconcile_kept (hchange : ∀ c m, P m.cache → Kept P m (change c m).2)
    (hm : P m.cache.reconciled.1) : Kept P m (reconcile change m).2 := by
  rcases @reconcile_cases change m with ⟨cause, -, hcache, hreconcile⟩ | ⟨n, tracked, -, hreconcile⟩
  · rw [hcache] at hm
    rw [hreconcile]
    exact .refl hm
  · rw [hreconcile]
    exact .trans (Grown.withCache.trans (.of_noted tracked)) (deliver_kept hchange n (tracked.cache ▸ hm))

/-- What is left after a filter was put in: the same as after the reconciliation alone. -/
theorem install_snd {f : Filter} : (install change f m).2 = (reconcile change ((m.log .info .cache
    ("refiltering cache: " ++ m.cache.criterion.literal ++ " -> " ++ f.literal)).withCache
      { m.cache with criterion := .filter f })).2 := by
  unfold install
  simp only
  split <;> rename_i h <;> exact (congrArg Prod.snd h).symm

/-- Putting a filter in answers that it did so, or fails as the reconciliation does. -/
theorem install_fst {f : Filter} : (install change f m).1 = (reconcile change ((m.log .info .cache
    ("refiltering cache: " ++ m.cache.criterion.literal ++ " -> " ++ f.literal)).withCache
      { m.cache with criterion := .filter f })).1.map fun _ => true := by
  unfold install
  simp only
  split <;> rename_i h <;> exact (congrArg (fun result => result.1.map fun _ => true) h).symm

/-- Changing the filter keeps what survives every reconciliation with a new filter, however deep handlers
change it from inside one another. -/
theorem refilterAt_kept {equal : Filter → Criterion → Bool}
    (hP : ∀ (f : Filter) (c : Cache), P c → P { c with criterion := .filter f }.reconciled.1) {depth : Nat} :
    ∀ c m, P m.cache → Kept P m (refilterAt equal depth c m).2 := by
  induction depth with
  | zero => exact fun _ _ hm => .refl hm
  | succ depth ih =>
    intro c m hm
    cases c with
    | foreign v => exact .refl hm
    | unconditional => exact .refl hm
    | filter f =>
      rw [refilterAt]
      split
      · exact .trans (.of_noted .log) (.refl hm)
      · rw [install_snd]
        exact .trans ((Grown.of_noted .log).trans .withCache) (reconcile_kept ih (hP f _ hm))

theorem syncVia_kept (hchange : ∀ c m, P m.cache → Kept P m (change c m).2) {objects : List Value}
    {broken : Option Failure} (hbroken : broken ≠ none → P m.cache)
    (hm : broken = none → P { m.cache with listing := Cache.index objects }.reconciled.1) :
    Kept P m (syncVia change objects broken m).2 := by
  have skipped : Noted m (logSkipped objects m) := .logSkipped
  unfold syncVia
  cases broken with
  | some cause =>
    refine .trans (.of_noted skipped) (.refl ?_)
    rw [skipped.cache]
    exact hbroken nofun
  | none =>
    rw [← skipped.cache] at hm
    exact .trans ((Grown.of_noted skipped).trans .withCache) (reconcile_kept hchange (hm rfl))

end Keeping

/-! ### What an update does -/

theorem map_map_unit {α : Type} {a : α} {x : Except Failure Unit} : (x.map fun _ => a).map (fun _ => ()) = x := by
  cases x <;> rfl

/-- A monitor with other handlers. -/
def withHandlers (handlers : List (String × Handler)) (m : Monitor) : Monitor :=
  { m with handlers }

theorem logSkipped_withHandlers {handlers : List (String × Handler)} {objects : List Value} {m : Monitor} :
    logSkipped objects (m.withHandlers handlers) = (logSkipped objects m).withHandlers handlers := by
  refine List.foldl_hom (withHandlers handlers) fun m v => ?_
  split <;> rfl

/-- An update logs and then reconciles the cache with its new listing or filter, or it only logs. The handlers
have no part in it before the reconciliation. -/
theorem perform_cases_withHandlers {equal : Filter → Criterion → Bool} {depth : Nat} {u : Update} {m : Monitor} :
    (Noted m (u.perform equal depth m) ∧ u.apply equal m.cache = (m.cache, [])) ∨
    ∃ n c, Noted m n ∧ c.tracked = m.cache.tracked ∧ u.apply equal m.cache = c.reconciled ∧ ∀ handlers,
      u.perform equal depth (m.withHandlers handlers) =
          (reconcile (refilterAt equal depth) ((n.withCache c).withHandlers handlers)).2 ∧
        u.result equal depth (m.withHandlers handlers) =
          (reconcile (refilterAt equal depth) ((n.withCache c).withHandlers handlers)).1 := by
  cases u with
  | sync objects broken =>
    have skipped : Noted m (logSkipped objects m) := .logSkipped
    cases broken with
    | some cause => exact .inl ⟨skipped, rfl⟩
    | none =>
      refine .inr ⟨_, { m.cache with listing := Cache.index objects }, skipped, rfl, rfl, fun handlers => ?_⟩
      unfold Update.perform Update.result syncVia
      simp only
      rw [logSkipped_withHandlers, ← skipped.cache]
      exact ⟨rfl, rfl⟩
  | refilter cr =>
    cases cr with
    | foreign v => exact .inl ⟨.refl m, rfl⟩
    | unconditional => exact .inl ⟨.refl m, rfl⟩
    | filter f =>
      have kept (handlers : List (String × Handler)) : (m.withHandlers handlers).cache = m.cache := rfl
      unfold Update.perform Update.apply Update.result
      simp only [refilterAt, kept]
      by_cases hequal : equal f m.cache.criterion = true
      · rw [if_pos hequal, if_pos hequal]
        exact .inl ⟨.log, rfl⟩
      · have logged : Noted m (m.log .info .cache
            ("refiltering cache: " ++ m.cache.criterion.literal ++ " -> " ++ f.literal)) := .log
        refine .inr ⟨_, { m.cache with criterion := .filter f }, logged, rfl, if_neg hequal, fun handlers => ?_⟩
        rw [if_neg hequal, install_snd, install_fst, map_map_unit]
        exact ⟨rfl, rfl⟩

/-- An update logs and then reconciles the cache with its new listing or filter, or it only logs. -/
theorem perform_cases {equal : Filter → Criterion → Bool} {depth : Nat} {u : Update} {m : Monitor} :
    (Noted m (u.perform equal depth m) ∧ u.apply equal m.cache = (m.cache, [])) ∨
    ∃ n c, Noted m n ∧ c.tracked = m.cache.tracked ∧ u.apply equal m.cache = c.reconciled ∧
      u.perform equal depth m = (reconcile (refilterAt equal depth) (n.withCache c)).2 ∧
      u.result equal depth m = (reconcile (refilterAt equal depth) (n.withCache c)).1 := by
  rcases @perform_cases_withHandlers equal depth u m with logged | ⟨n, c, hnoted, htracked, happly, hperform⟩
  · exact .inl logged
  · have same : (n.withCache c).withHandlers m.handlers = n.withCache c := hnoted.handlers ▸ rfl
    obtain ⟨hperform, hresult⟩ := hperform m.handlers
    rw [same] at hperform hresult
    exact .inr ⟨n, c, hnoted, htracked, happly, hperform, hresult⟩

end Monitor

end ObjectWatch
