import ObjectWatch.Proofs.Monitor.Run

/-! Runs that no handler disturbs: none fails, and none changes the filter. In such a run an update does to
    the cache what it does without handlers, and each of its events is delivered to every handler before
    the next event. -/

namespace ObjectWatch

/-- A reaction that neither fails nor changes the filter. -/
def Reaction.Calm : Reaction → Prop
  | done => True
  | fail _ => False
  | note _ next => next.Calm
  | refilter _ _ => False

/-- A handler whose every reaction is calm. -/
def Handler.Calm (h : Handler) : Prop :=
  ∀ c journal event, (h.react c journal event).Calm

theorem Handler.silent_calm : Handler.silent.Calm := fun _ _ _ => trivial

/-- Every handler reacted calmly to the events that it got by a journal. -/
def CalmIn (handlers : List (String × Handler)) (journal : List Entry) : Prop :=
  ∀ before d after, journal = before ++ .delivery d :: after →
    ∀ h, (d.handler, h) ∈ handlers → (h.react d.cache before d.event).Calm

theorem calmIn_of_calm {handlers : List (String × Handler)} {journal : List Entry}
    (h : ∀ entry ∈ handlers, entry.2.Calm) : CalmIn handlers journal :=
  fun _ _ _ _ _ hmem => h _ hmem _ _ _

theorem calmIn_silent {name : String} {journal : List Entry} : CalmIn [(name, Handler.silent)] journal :=
  calmIn_of_calm (List.forall_mem_singleton.mpr Handler.silent_calm)

/-- Every handler reacted as `P` says to the events that it got by a journal. -/
def ReactedIn (P : Reaction → Prop) (handlers : List (String × Handler)) (journal : List Entry) : Prop :=
  ∀ before d after, journal = before ++ .delivery d :: after →
    ∀ h, (d.handler, h) ∈ handlers → P (h.react d.cache before d.event)

theorem reactedIn_of_forall {P : Reaction → Prop} {handlers : List (String × Handler)} {journal : List Entry}
    (h : ∀ entry ∈ handlers, ∀ c before event, P (entry.2.react c before event)) : ReactedIn P handlers journal :=
  fun _ _ _ _ _ hmem => h _ hmem _ _ _

/-- The handler and the event of a delivery. -/
def Entry.published? (e : Entry) : Option (String × Event) :=
  e.delivery?.map fun d => (d.handler, d.event)

/-- What an update after the other makes of a cache, and all their events, where no handler interferes. -/
def Cache.applyAll (equal : Filter → Criterion → Bool) : List Update → Cache → Cache × List Event
  | [], c => (c, [])
  | u :: us, c =>
    let r := u.apply equal c
    let s := Cache.applyAll equal us r.1
    (s.1, r.2 ++ s.2)

namespace Monitor

/-- The events that were delivered, each with the handler that got it, in the order of the deliveries. -/
def published (m : Monitor) : List (String × Event) :=
  m.journal.filterMap Entry.published?

/-- The events that a handler got, in order. -/
def received (name : String) (m : Monitor) : List Event :=
  m.published.filterMap fun p => if p.1 = name then some p.2 else none

/-- The deliveries of events to all handlers, event by event. -/
def announced (handlers : List (String × Handler)) (events : List Event) : List (String × Event) :=
  events.flatMap fun event => handlers.map fun entry => (entry.1, event)

/-- From `m` to `n` the cache turns into another one, and the events of the change are delivered. -/
structure Moved (m n : Monitor) (r : Cache × List Event) : Prop where
  cache : n.cache = r.1
  handlers : n.handlers = m.handlers
  published : n.published = m.published ++ announced m.handlers r.2

section Calm
variable {change : Criterion → Operation Bool} {equal : Filter → Criterion → Bool} {depth : Nat} {m n : Monitor}
  {handlers : List (String × Handler)} {journal : List Entry}

theorem Moved.refl (m : Monitor) : Moved m m (m.cache, []) :=
  ⟨rfl, rfl, (List.append_nil _).symm⟩

theorem Moved.trans {o : Monitor} {r s : Cache × List Event} (h₁ : Moved m n r) (h₂ : Moved n o s) :
    Moved m o (s.1, r.2 ++ s.2) where
  cache := h₂.cache
  handlers := h₂.handlers.trans h₁.handlers
  published := by
    rw [h₂.published, h₁.published, h₁.handlers, List.append_assoc, announced, announced, announced,
      ← List.flatMap_append]

theorem Noted.published (h : Noted m n) : n.published = m.published :=
  h.filterMap_journal fun _ => rfl

theorem published_write_delivery {d : Delivery} :
    (m.write (.delivery d)).published = m.published ++ [(d.handler, d.event)] :=
  List.filterMap_append

/-- From `m` to `n` nothing is delivered, and the handlers stay. -/
structure Quiet (m n : Monitor) : Prop where
  handlers : n.handlers = m.handlers
  published : n.published = m.published

namespace Quiet

theorem trans {o : Monitor} (h₁ : Quiet m n) (h₂ : Quiet n o) : Quiet m o :=
  ⟨h₂.handlers.trans h₁.handlers, h₂.published.trans h₁.published⟩

theorem withCache {c : Cache} : Quiet m (m.withCache c) := ⟨rfl, rfl⟩

theorem of_noted (h : Noted m n) : Quiet m n := ⟨h.handlers, h.published⟩

end Quiet

theorem Moved.after {o : Monitor} {r : Cache × List Event} (hq : Quiet m n) (h : Moved n o r) : Moved m o r where
  cache := h.cache
  handlers := h.handlers.trans hq.handlers
  published := by rw [h.published, hq.published, hq.handlers]

/-- Changes of the filter only add to the journal. -/
theorem refilterAt_grows : ∀ c m, True → Kept (fun _ => True) m (refilterAt equal depth c m).2 :=
  refilterAt_kept (P := fun _ => True) fun _ _ _ => trivial

theorem run_calm {r : Reaction} (hr : r.Calm) : ∃ n, r.run change m = (.ok (), n) ∧ Noted m n := by
  induction r generalizing m with
  | done => exact ⟨m, rfl, .refl m⟩
  | fail cause => exact hr.elim
  | note record next ih =>
    obtain ⟨n, hrun, hnoted⟩ := ih hr
    exact ⟨n, hrun, Noted.record.trans hnoted⟩
  | refilter c next ih => exact hr.elim

/-- The journal goes on from the call of the first handler, so that handler reacted as all of them did. -/
theorem ReactedIn.first {P : Reaction → Prop} (h : ReactedIn P handlers journal)
    (hchange : ∀ c m, True → Kept (fun _ => True) m (change c m).2) {d : String × Handler × Event}
    {rest : List (String × Handler × Event)} (hd : (d.1, d.2.1) ∈ handlers)
    (hgrown : (deliver change (d :: rest) m).2.journal <+: journal) : P (d.2.1.react m.cache m.journal d.2.2) := by
  have grown : Kept (fun _ => True) _ (deliver change (d :: rest) m).2 :=
    deliver_cons_kept hchange (fun m _ => deliver_kept hchange m trivial) trivial
  obtain ⟨after, hafter⟩ := grown.journal_le.trans hgrown
  refine h m.journal ⟨d.1, d.2.2, m.cache⟩ after ?_ _ hd
  rw [← hafter, write, List.append_assoc]
  rfl

theorem mem_plan {events : List Event} {d : String × Handler × Event} :
    d ∈ plan handlers events ↔ (d.1, d.2.1) ∈ handlers ∧ d.2.2 ∈ events := by
  rw [plan, List.mem_flatMap]
  constructor
  · rintro ⟨event, hevent, hd⟩
    obtain ⟨entry, hentry, rfl⟩ := List.mem_map.mp hd
    exact ⟨hentry, hevent⟩
  · rintro ⟨hentry, hevent⟩
    exact ⟨d.2.2, hevent, List.mem_map.mpr ⟨(d.1, d.2.1), hentry, rfl⟩⟩

/-- From `m` to `n` events are delivered, and nothing else happens. -/
structure Delivered (m n : Monitor) (ps : List (String × Event)) : Prop where
  cache : n.cache = m.cache
  handlers : n.handlers = m.handlers
  published : n.published = m.published ++ ps

/-- Where every handler reacts calmly, all deliveries are made. -/
theorem deliver_calm (hchange : ∀ c m, True → Kept (fun _ => True) m (change c m).2)
    {ds : List (String × Handler × Event)} (hds : ∀ d ∈ ds, (d.1, d.2.1) ∈ handlers)
    (hcalm : CalmIn handlers journal) (hgrown : (deliver change ds m).2.journal <+: journal) :
    ∃ n, deliver change ds m = (.ok (), n) ∧ Delivered m n (ds.map fun d => (d.1, d.2.2)) := by
  induction ds generalizing m with
  | nil => exact ⟨m, rfl, rfl, rfl, (List.append_nil _).symm⟩
  | cons d rest ih =>
    have hreaction : (d.2.1.react m.cache m.journal d.2.2).Calm :=
      ReactedIn.first hcalm hchange (hds d List.mem_cons_self) hgrown
    obtain ⟨n, hrun, hnoted⟩ := run_calm (m := m.write (.delivery ⟨d.1, d.2.2, m.cache⟩)) hreaction
    have step : deliver change (d :: rest) m = deliver change rest n := by
      rw [deliver, hrun]
    rw [step] at hgrown ⊢
    obtain ⟨o, hrest, hdelivered⟩ := ih (fun d hd => hds d (List.mem_cons_of_mem _ hd)) hgrown
    refine ⟨o, hrest, hdelivered.cache.trans hnoted.cache, hdelivered.handlers.trans hnoted.handlers, ?_⟩
    rw [hdelivered.published, hnoted.published, published_write_delivery, List.append_assoc]
    rfl

theorem plan_published {handlers : List (String × Handler)} {events : List Event} :
    (plan handlers events).map (fun d => (d.1, d.2.2)) = announced handlers events := by
  simp [plan, announced, List.map_flatMap, Function.comp_def]

theorem reconcile_calm (hchange : ∀ c m, True → Kept (fun _ => True) m (change c m).2)
    (hcalm : CalmIn m.handlers journal) (hgrown : (reconcile change m).2.journal <+: journal) :
    Moved m (reconcile change m).2 m.cache.reconciled := by
  rcases @reconcile_cases change m with ⟨cause, -, hcache, hreconcile⟩ | ⟨n, tracked, -, hreconcile⟩
  · rw [hcache, hreconcile]
    exact .refl m
  · rw [hreconcile] at hgrown ⊢
    obtain ⟨o, hdeliver, hdelivered⟩ := deliver_calm hchange (fun d hd => (mem_plan.mp hd).1) hcalm hgrown
    rw [hdeliver]
    refine ⟨hdelivered.cache.trans tracked.cache, hdelivered.handlers.trans tracked.handlers, ?_⟩
    rw [hdelivered.published, tracked.published, plan_published]
    rfl

/-- An update that no handler disturbs does to the cache what it does without handlers. -/
theorem perform_calm {u : Update} (hcalm : CalmIn m.handlers journal)
    (hgrown : (u.perform equal depth m).journal <+: journal) :
    Moved m (u.perform equal depth m) (u.apply equal m.cache) := by
  rcases @perform_cases equal depth u m with ⟨hnoted, happly⟩ | ⟨n, c, hnoted, -, happly, hperform, -⟩
  · rw [happly, ← hnoted.cache]
    exact .after (.of_noted hnoted) (.refl _)
  · rw [hperform] at hgrown ⊢
    rw [happly]
    have moved := reconcile_calm refilterAt_grows (m := n.withCache c) (hnoted.handlers ▸ hcalm) hgrown
    exact .after ((Quiet.of_noted hnoted).trans .withCache) moved

theorem perform_grows {u : Update} : Grown (fun _ => True) m (u.perform equal depth m) := by
  cases u with
  | sync objects broken =>
    exact (syncVia_kept (P := fun _ => True) refilterAt_grows (fun _ => trivial) fun _ => trivial).grown
  | refilter c => exact (refilterAt_grows c m trivial).grown

theorem updateAll_grows {us : List Update} : Grown (fun _ => True) m (m.updateAll equal depth us) := by
  induction us generalizing m with
  | nil => exact .of_eq rfl rfl
  | cons u us ih => exact perform_grows.trans ih

/-- Updates that no handler disturbs do to the cache what they do without handlers. -/
theorem updateAll_calm {us : List Update} (hcalm : CalmIn m.handlers journal)
    (hgrown : (m.updateAll equal depth us).journal <+: journal) :
    Moved m (m.updateAll equal depth us) (m.cache.applyAll equal us) := by
  induction us generalizing m with
  | nil => exact .refl m
  | cons u us ih =>
    have first : Moved m (u.perform equal depth m) (u.apply equal m.cache) :=
      perform_calm hcalm (updateAll_grows.journal_le.trans hgrown)
    have rest := ih (first.handlers ▸ hcalm) hgrown
    rw [first.cache] at rest
    exact first.trans rest

end Calm

end Monitor

end ObjectWatch
