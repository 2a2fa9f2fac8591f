import ObjectWatch.Proofs.Watcher.Refusal

/-! Who is told of an event. A handler is registered from its last registration that was not refused until its name
    is freed, so the history of requests and of what came of them says which handlers there are, and in which order.
    An event is delivered to these one after the other; as long as no handler fails, each of them does all of its
    reaction, and so do those that are told of changes of the filter in between. -/

namespace ObjectWatch

/-! ### Handlers that return -/

/-- A reaction that does not fail, whatever comes of the changes of the filter that it asks for. -/
def Reaction.Returns : Reaction → Prop
  | done => True
  | fail _ => False
  | note _ next => next.Returns
  | refilter _ next => ∀ result, (next result).Returns

namespace Monitor

mutual

/-- From `m` to `n` a handler does all of a reaction. A change of the filter that it asks for is over before it gets
the answer. -/
inductive Does : Reaction → Monitor → Monitor → Prop where
  | done {m : Monitor} : Does .done m m
  | note {r : Record} {next : Reaction} {m n : Monitor} (h : Does next (m.write (.record r)) n) :
    Does (.note r next) m n
  | refilter {depth : Nat} {c : Criterion} {next : Except Failure Bool → Reaction} {result : Except Failure Bool}
    {m n o : Monitor} (hresult : refilterAt holds depth c m = (result, n)) (hchanged : Changed m n)
    (h : Does (next result) (n.write (.answer ⟨result, n.cache⟩)) o) : Does (.refilter c next) m o

/-- From `m` to `n` a change of the filter only logs, or it puts in another cache and completes the deliveries of
events to all handlers. -/
inductive Changed : Monitor → Monitor → Prop where
  | noted {m n : Monitor} (h : Noted m n) : Changed m n
  | putIn {m k n o : Monitor} {c : Cache} {events : List Event} (hlog : Noted m k) (hput : Noted (k.withCache c) n)
    (hevents : Completed (plan m.handlers events) n o) : Changed m o

/-- From `m` to `n` deliveries are made, each of which calls a handler with an event; the handler does all of its
reaction before the next delivery. -/
inductive Completed : List (String × Handler × Event) → Monitor → Monitor → Prop where
  | nil {m : Monitor} : Completed [] m m
  | cons {name : String} {h : Handler} {event : Event} {rest : List (String × Handler × Event)} {m n o : Monitor}
    (hdoes : Does (h.react m.cache m.journal event) (m.write (.delivery ⟨name, event, m.cache⟩)) n)
    (hrest : Completed rest n o) : Completed ((name, h, event) :: rest) m o

end

/-- Some time after `m` and up to `n` a handler is called and fails, be it in a delivery of the operation itself or
in one of a change of the filter that a handler asked for. -/
def HandlerFailed (m n : Monitor) : Prop :=
  ∃ depth cause o, Raised (refilterAt holds depth) cause m o ∧ Grown (fun _ => True) o n

section Completed
variable {m n o : Monitor} {depth : Nat} {event : Event} {r : Reaction} {ds : List (String × Handler × Event)}

theorem HandlerFailed.after (hgrown : Grown (fun _ => True) m n) (h : HandlerFailed n o) : HandlerFailed m o := by
  obtain ⟨depth, cause, k, hraised, hk⟩ := h
  exact ⟨depth, cause, k, hraised.after hgrown, hk⟩

theorem HandlerFailed.until (h : HandlerFailed m n) (hgrown : Grown (fun _ => True) n o) : HandlerFailed m o := by
  obtain ⟨depth, cause, k, hraised, hk⟩ := h
  exact ⟨depth, cause, k, hraised, hk.trans hgrown⟩

theorem run_returns {change : Criterion → Operation Bool} (h : r.Returns) : (r.run change m).1 = .ok () := by
  induction r generalizing m with
  | done => rfl
  | fail cause => exact h.elim
  | note record next ih => exact ih h
  | refilter c next ih => exact ih _ (h _)

theorem not_handlerFailed_of_returns
    (h : ∀ entry ∈ m.handlers, ∀ c journal event, (entry.2.react c journal event).Returns) : ¬ HandlerFailed m n := by
  rintro ⟨depth, cause, o, ⟨k, event, entry, hentry, -, hrun⟩, -⟩
  cases (congrArg Prod.fst hrun).symm.trans (run_returns (h entry hentry k.cache k.journal event))

section Change
variable (hchange : ∀ c m, Changed m (refilterAt holds depth c m).2 ∨ HandlerFailed m (refilterAt holds depth c m).2)
include hchange

/-- A reaction that returns was done, unless a handler failed in a change of the filter that it asked for. -/
theorem run_does (h : r.run (refilterAt holds depth) m = (.ok (), n)) : Does r m n ∨ HandlerFailed m n := by
  induction r generalizing m with
  | done =>
    cases h
    exact .inl .done
  | fail cause => cases h
  | note record next ih => exact (ih h).imp .note (.after (.of_noted .record))
  | refilter c next ih =>
    have changed : Grown (fun _ => True) m (refilterAt holds depth c m).2 := (refilterAt_grows c m trivial).grown
    have hnext : (next (refilterAt holds depth c m).1).run (refilterAt holds depth)
        ((refilterAt holds depth c m).2.write (.answer ⟨_, (refilterAt holds depth c m).2.cache⟩)) = (.ok (), n) := h
    rcases hchange c m with hchanged | hfailed
    · exact (ih _ hnext).imp (.refilter rfl hchanged) (.after (changed.trans write_grows))
    · exact .inr (hfailed.until (write_grows.trans (run_grows refilterAt_grows hnext)))

theorem deliver_completed (hds : ∀ d ∈ ds, (d.1, d.2.1) ∈ m.handlers) :
    (∃ n, deliver (refilterAt holds depth) ds m = (.ok (), n) ∧ Completed ds m n) ∨
      HandlerFailed m (deliver (refilterAt holds depth) ds m).2 := by
  induction ds generalizing m with
  | nil => exact .inl ⟨m, rfl, .nil⟩
  | cons d rest ih =>
    obtain ⟨name, h, event⟩ := d
    have called : Grown (fun _ => True) m (m.write (.delivery ⟨name, event, m.cache⟩)) := write_grows
    rw [deliver]
    split
    · rename_i n hrun
      -- A handler that returns may have caught the failure of another one, in a change that it asked for.
      rcases run_does hchange hrun with hdoes | hfailed
      · have grown : Grown (fun _ => True) m n := called.trans (run_grows refilterAt_grows hrun)
        have hrest : ∀ d ∈ rest, (d.1, d.2.1) ∈ n.handlers :=
          fun d hd => grown.handlers ▸ hds d (List.mem_cons_of_mem _ hd)
        rcases ih hrest with ⟨o, ho, hcompleted⟩ | hfailed
        · exact .inl ⟨o, ho, .cons hdoes hcompleted⟩
        · exact .inr (hfailed.after grown)
      · exact .inr ((hfailed.after called).until (deliver_grows refilterAt_grows))
    · rename_i cause n hrun
      have hraised : Raised (refilterAt holds depth) cause m n :=
        ⟨m, event, (name, h), hds _ List.mem_cons_self, .of_eq rfl rfl, hrun⟩
      exact .inr ⟨depth, cause, n, hraised, .of_eq rfl rfl⟩

/-- A cache that can be reconciled is put in and its events are delivered, or a handler fails. -/
theorem reconcile_changed {k : Monitor} {c : Cache} (hlog : Noted m k) (hc : ∀ cause, c.reconcile ≠ .error cause) :
    Changed m (reconcile (refilterAt holds depth) (k.withCache c)).2 ∨
      HandlerFailed m (reconcile (refilterAt holds depth) (k.withCache c)).2 := by
  rcases @reconcile_cases (refilterAt holds depth) (k.withCache c) with ⟨cause, hfails, -⟩ | ⟨n, tracked, -, hreconcile⟩
  · exact absurd hfails (hc cause)
  · have logged : Grown (fun _ => True) m n := .trans (.of_noted hlog) (.trans .withCache (.of_noted tracked))
    have hds : ∀ events, ∀ d ∈ plan k.handlers events, (d.1, d.2.1) ∈ n.handlers := by
      intro events d hd
      rw [logged.handlers, ← hlog.handlers]
      exact (mem_plan.mp hd).1
    rw [hreconcile]
    rcases deliver_completed hchange (hds _) with ⟨o, ho, hevents⟩ | hfailed
    · exact .inl (congrArg Prod.snd ho ▸ .putIn hlog tracked (hlog.handlers ▸ hevents))
    · exact .inr (hfailed.after logged)

end Change

/-- A change of the filter is completed, however deep it is nested, or a handler fails. -/
theorem refilterAt_changed :
    ∀ c m, Changed m (refilterAt holds depth c m).2 ∨ HandlerFailed m (refilterAt holds depth c m).2 := by
  induction depth with
  | zero => exact fun _ m => .inl (.noted (.refl m))
  | succ depth ih =>
    intro c m
    cases c with
    | foreign v => exact .inl (.noted (.refl m))
    | unconditional => exact .inl (.noted (.refl m))
    | filter f =>
      rw [refilterAt]
      split
      · exact .inl (.noted .log)
      · rw [install_snd]
        refine reconcile_changed ih .log fun cause hfails => ?_
        cases hfails

theorem handle_completed (h : ¬ HandlerFailed m (handle event m).2) :
    ∃ n, handle event m = (.ok (), n) ∧ Completed (plan m.handlers [event]) m n :=
  (deliver_completed refilterAt_changed fun _ hd => (mem_plan.mp hd).1).resolve_right h

end Completed

end Monitor

/-! ### The handlers by the history -/

namespace Request

/-- A request with what came of it. -/
abbrev Outcome := Request × Except Failure Unit

/-- The request takes a name or frees it. -/
def concerns (name : String) : Outcome → Bool
  | (register n _, .ok ()) => n == name
  | (unregister n, _) => n == name
  | _ => false

/-- The handler that the request adds, if any. -/
def adds : Outcome → List (String × Handler)
  | (register name h, .ok ()) => [(name, h)]
  | _ => []

/-- None of the requests takes or frees the name of a handler. -/
def stays (later : List Outcome) (entry : String × Handler) : Bool :=
  !later.any (concerns entry.1)

/-- The handlers that stand after requests: each that was added and whose name no later request takes or frees, in the
order in which they were added. -/
def standing : List Outcome → List (String × Handler)
  | [] => []
  | a :: later => (adds a).filter (stays later) ++ standing later

end Request

/-- The handlers of a monitor, whose names differ, and what follows for the next request. An event is delivered to
each of them once and in order, as long as no handler fails; a registration under a taken name is refused and changes
nothing, and one under a free name puts the handler last; to free an unknown name changes nothing. -/
structure Registry (entries : List (String × Handler)) (m : Monitor) : Prop where
  handlers : m.handlers = entries
  names : (Table.keys entries).Nodup
  told : ∀ event, ¬ m.HandlerFailed (m.handle event).2 → ∃ n, m.handle event = (.ok (), n) ∧
    Monitor.Completed (entries.map fun entry => (entry.1, entry.2, event)) m n
  published : ∀ event, (∀ entry ∈ entries, entry.2.Calm) → ∃ n, m.handle event = (.ok (), n) ∧
    n.published = m.published ++ entries.map fun entry => (entry.1, event)
  taken : ∀ name h, name ∈ Table.keys entries → m.register name h = (.error (.handlerTaken name), m) ∧
    (Failure.handlerTaken name).kind = .invalidValue
  free : ∀ name h, name ∉ Table.keys entries →
    m.register name h = (.ok (), { m with handlers := entries ++ [(name, h)] })
  unknown : ∀ name, name ∉ Table.keys entries → m.unregister name = m

namespace Request
variable {later : List Outcome} {a : Outcome} {entry : String × Handler} {name : String}

theorem stays_cons : stays (a :: later) entry = (stays [a] entry && stays later entry) := by
  simp [stays]

theorem filter_stays {t : List (String × Handler)} (h : ∀ n, concerns n a = (name == n)) :
    t.filter (stays [a]) = Table.erase name t :=
  List.filter_congr fun entry _ => by simp [stays, h]

theorem nodup_keys_adds : (Table.keys (adds a)).Nodup := by
  unfold adds
  split
  · exact List.nodup_singleton _
  · exact List.nodup_nil

theorem concerns_of_mem_adds (h : entry ∈ adds a) : concerns entry.1 a = true := by
  unfold adds at h
  split at h
  · rw [List.mem_singleton.mp h]
    exact beq_self_eq_true _
  · cases h

/-- The name of a handler that stands was taken. -/
theorem concerns_of_mem_standing (h : name ∈ Table.keys (standing later)) :
    later.any (concerns name) = true := by
  induction later with
  | nil => cases h
  | cons a later ih =>
    obtain ⟨handler, hmem⟩ := Table.mem_keys.mp h
    rw [List.any_cons, Bool.or_eq_true]
    rcases List.mem_append.mp hmem with hadded | hstands
    · exact .inl (concerns_of_mem_adds (List.mem_filter.mp hadded).1)
    · exact .inr (ih (Table.mem_keys_of_mem hstands))

theorem nodup_standing : (Table.keys (standing later)).Nodup := by
  induction later with
  | nil => exact List.nodup_nil
  | cons a later ih =>
    have added : (Table.keys ((adds a).filter (stays later))).Nodup := Table.nodup_keys_filter nodup_keys_adds _
    rw [standing, Table.keys, List.map_append, List.nodup_append]
    refine ⟨added, ih, ?_⟩
    rintro name hadded _ hstands rfl
    obtain ⟨entry, hentry, rfl⟩ := List.mem_map.mp hadded
    -- The name is taken again later, so the handler that was added does not stay.
    have hstays := (List.mem_filter.mp hentry).2
    rw [stays, concerns_of_mem_standing hstands] at hstays
    cases hstays

end Request

namespace Monitor
open Request
variable {load : Loader} {path : String} {m n : Monitor} {r : Request} {rs : List Request} {name : String} {h : Handler}
  {event : Event} {handlers : List (String × Handler)}

/-- Requests, one after the other, each with what came of it. -/
def outcomes (load : Loader) (path : String) : List Request → Monitor → List Request.Outcome
  | [], _ => []
  | r :: rs, m => (r, (r.perform load path m).1) :: outcomes load path rs (r.perform load path m).2

theorem perform_handlers (h : ∀ name h, r ≠ .register name h) (h' : ∀ name, r ≠ .unregister name) :
    (r.perform load path m).2.handlers = m.handlers := by
  cases r with
  | sync objects broken => exact (perform_grows (u := .sync objects broken)).handlers
  | syncValue v =>
    rw [Request.perform, syncValue]
    cases v.iterate? with
    | some objects => exact (perform_grows (u := .sync objects none)).handlers
    | none => exact (perform_grows (u := .sync [] (some .notIterable))).handlers
  | refilter c => exact (perform_grows (u := .refilter c)).handlers
  | register name handler => exact absurd rfl (h name handler)
  | unregister name => exact absurd rfl (h' name)
  | handle event => exact (deliver_grows refilterAt_grows).handlers
  | handleValue v => rfl
  | poll file => exact poll_grows.handlers

/-- A request leaves the handlers whose name it does not concern as they are, and what it adds comes last. -/
theorem perform_standing : (r.perform load path m).2.handlers =
    m.handlers.filter (stays [(r, (r.perform load path m).1)]) ++ adds (r, (r.perform load path m).1) := by
  have untouched {result : Except Failure Unit} (hadds : adds (r, result) = [])
      (hconcerns : ∀ name, concerns name (r, result) = false)
      (hkept : (r.perform load path m).2.handlers = m.handlers) : (r.perform load path m).2.handlers =
        m.handlers.filter (stays [(r, result)]) ++ adds (r, result) := by
    rw [hkept, hadds, List.append_nil]
    exact (List.filter_eq_self.mpr fun entry _ => by simp [stays, hconcerns]).symm
  cases r with
  | register name h =>
    by_cases hname : Table.has name m.handlers = true
    · have refused : (Request.register name h).perform load path m = (.error (.handlerTaken name), m) :=
        register_of_has hname
      rw [refused] at untouched ⊢
      exact untouched rfl (fun _ => rfl) rfl
    · have added : (Request.register name h).perform load path m = (.ok (), _) := register_of_not_has hname
      have free : Table.erase name m.handlers = m.handlers :=
        Table.erase_of_not_mem fun hmem => hname (Table.has_iff.mpr hmem)
      rw [added, filter_stays fun _ => rfl, free]
      rfl
  | unregister name =>
    rw [filter_stays fun _ => rfl]
    exact (List.append_nil _).symm
  | _ => exact untouched rfl (fun _ => rfl) (perform_handlers nofun nofun)

/-- After requests there are the handlers that none of them concerns and behind these the ones that stand. -/
theorem requestAll_standing : (requestAll load path rs m).handlers =
    m.handlers.filter (stays (outcomes load path rs m)) ++ standing (outcomes load path rs m) := by
  induction rs generalizing m with
  | nil =>
    have all : m.handlers.filter (stays []) = m.handlers := List.filter_eq_self.mpr fun _ _ => rfl
    rw [outcomes, standing, all, List.append_nil]
    rfl
  | cons r rs ih =>
    have step : requestAll load path (r :: rs) m = requestAll load path rs (r.perform load path m).2 := rfl
    rw [step, ih, perform_standing, outcomes, standing, List.filter_append, List.filter_filter, List.append_assoc]
    refine congrArg (· ++ _) (List.filter_congr fun entry _ => ?_)
    exact (Bool.and_comm ..).trans stays_cons.symm

/-! ### Events and names -/

theorem plan_singleton : plan handlers [event] = handlers.map fun entry => (entry.1, entry.2, event) :=
  List.append_nil _

theorem handle_calm (h : ∀ entry ∈ m.handlers, entry.2.Calm) :
    ∃ n, handle event m = (.ok (), n) ∧ n.published = m.published ++ m.handlers.map fun entry => (entry.1, event) := by
  have grows : ∀ c m, True → Kept (fun _ => True) m (nested c m).2 := refilterAt_grows
  obtain ⟨n, hn, hdelivered⟩ := deliver_calm grows (fun _ hd => (mem_plan.mp hd).1) (calmIn_of_calm h) List.prefix_rfl
  refine ⟨n, hn, hdelivered.published.trans ?_⟩
  rw [plan_singleton, List.map_map]
  rfl

theorem registry_of_nodup (h : (Table.keys m.handlers).Nodup) : Registry m.handlers m where
  handlers := rfl
  names := h
  told := fun _ hfailed => plan_singleton ▸ handle_completed hfailed
  published := fun _ hcalm => handle_calm hcalm
  taken := fun _ _ hname => ⟨register_of_has (Table.has_iff.mpr hname), rfl⟩
  free := fun _ _ hname => register_of_not_has fun hhas => hname (Table.has_iff.mp hhas)
  unknown := fun _ hname => by rw [unregister, Table.erase_of_not_mem hname]

/-- After any requests to a monitor that began without handlers, its handlers are those whose last registration that
was not refused has not been followed by a request to free the name, in the order of these registrations; and an
event goes to exactly these. -/
theorem told_by_history (hm : m.handlers = []) :
    Registry (standing (outcomes load path rs m)) (requestAll load path rs m) := by
  have hhandlers : (requestAll load path rs m).handlers = standing (outcomes load path rs m) := by
    rw [requestAll_standing, hm]
    rfl
  rw [← hhandlers]
  refine registry_of_nodup ?_
  rw [hhandlers]
  exact nodup_standing

/-- A registration is refused because the name is taken, a name is freed and taken again, and one is freed that nobody
has: the handler that came back is the last to be told. It changes the filter, which it may. -/
theorem told_by_history_again :
    let event : Event := .upsert ⟨"", "a"⟩ .null
    let changing : Handler := ⟨fun _ _ _ => .refilter (.filter .all) fun _ => .done⟩
    let rs : List Request := [.register "a" changing, .register "b" .silent, .register "a" .silent, .unregister "a",
      .handle event, .unregister "c", .register "a" changing]
    let m := requestAll Yaml.load "objects" rs (fresh (.filter .null) [])
    Registry [("b", .silent), ("a", changing)] m ∧ ∃ n, m.handle event = (.ok (), n) ∧
      Completed [("b", .silent, event), ("a", changing, event)] m n := by
  intro event changing rs m
  have stands : standing (outcomes Yaml.load "objects" rs (fresh (.filter .null) [])) =
      [("b", .silent), ("a", changing)] := by
    rfl
  have registry : Registry [("b", .silent), ("a", changing)] m := by
    rw [← stands]
    exact told_by_history rfl
  have returns : ∀ entry ∈ m.handlers, ∀ c journal event, (entry.2.react c journal event).Returns := by
    rw [registry.handlers]
    simp only [List.forall_mem_cons]
    exact ⟨fun _ _ _ => trivial, fun _ _ _ _ => trivial, nofun⟩
  exact ⟨registry, registry.told event (not_handlerFailed_of_returns returns)⟩

end Monitor

end ObjectWatch
