import ObjectWatch.Proofs.Monitor.Failing

/-! Where a failing handler cuts the deliveries of an update. Without changes of the filter from inside, what
    a handler does depends on the deliveries before only through the journal (`Returning`); so an update is
    the same update without handlers and then its deliveries, up to and with the first that fails. -/

namespace ObjectWatch

/-- What a reaction logs and how it ends, if it does not change the filter. -/
def Reaction.outcome? : Reaction → Option (List Record × Except Failure Unit)
  | done => some ([], .ok ())
  | fail cause => some ([], .error cause)
  | note r next => next.outcome?.map fun o => (r :: o.1, o.2)
  | refilter _ _ => none

/-- The journal after a delivery to a handler that logs the notes. -/
def journalAfter (c : Cache) (journal : List Entry) (d : String × Handler × Event) (notes : List Record) :
    List Entry :=
  journal ++ .delivery ⟨d.1, d.2.2, c⟩ :: notes.map .record

/-- The handlers return from deliveries, none changes the filter, and the journal goes from one to another. -/
inductive Returning (c : Cache) : List Entry → List (String × Handler × Event) → List Entry → Prop where
  | nil {journal : List Entry} : Returning c journal [] journal
  | cons {journal journal' : List Entry} {d : String × Handler × Event} {notes : List Record}
      {rest : List (String × Handler × Event)}
      (returned : (d.2.1.react c journal d.2.2).outcome? = some (notes, .ok ()))
      (returning : Returning c (journalAfter c journal d notes) rest journal') :
      Returning c journal (d :: rest) journal'

namespace Monitor

section Cut
variable {change : Criterion → Operation Bool} {equal : Filter → Criterion → Bool} {m : Monitor}
  {handlers : List (String × Handler)} {journal : List Entry} {d : String × Handler × Event}
  {made rest : List (String × Handler × Event)} {notes : List Record} {c : Cache} {u : Update} {cause : Failure}

theorem run_outcome {r : Reaction} {result : Except Failure Unit} (h : r.outcome? = some (notes, result)) :
    r.run change m = (result, { m with journal := m.journal ++ notes.map .record }) := by
  induction r generalizing m notes with
  | done =>
    cases h
    rw [List.map_nil, List.append_nil]
    rfl
  | fail cause =>
    cases h
    rw [List.map_nil, List.append_nil]
    rfl
  | note record next ih =>
    obtain ⟨o, ho, heq⟩ := Option.map_eq_some_iff.mp h
    cases heq
    rw [Reaction.run, ih ho, List.map_cons, List.append_cons]
    rfl
  | refilter c next ih => cases h

theorem deliver_cons_outcome {result : Except Failure Unit}
    (h : (d.2.1.react m.cache m.journal d.2.2).outcome? = some (notes, result)) :
    deliver change (d :: rest) m = match result with
      | .ok () => deliver change rest { m with journal := journalAfter m.cache m.journal d notes }
      | .error cause => (.error cause, { m with journal := journalAfter m.cache m.journal d notes }) := by
  have entry : (m.write (.delivery ⟨d.1, d.2.2, m.cache⟩)).journal ++ notes.map .record =
      journalAfter m.cache m.journal d notes := (List.append_cons ..).symm
  rw [deliver, run_outcome h, entry]
  cases result <;> rfl

/-- Deliveries from which the handlers return are made, and the others follow. -/
theorem deliver_returning (h : Returning m.cache m.journal made journal) :
    deliver change (made ++ rest) m = deliver change rest { m with journal } := by
  -- The journal of the monitor grows as the one that goes through `Returning`.
  induction made generalizing m with
  | nil =>
    cases h
    rfl
  | cons d made ih =>
    cases h with
    | cons returned returning =>
      rw [List.cons_append, deliver_cons_outcome returned]
      exact ih returning

/-- The first handler that fails ends the deliveries. -/
theorem deliver_failing (h : Returning m.cache m.journal made journal)
    (hfail : (d.2.1.react m.cache journal d.2.2).outcome? = some (notes, .error cause)) :
    deliver change (made ++ d :: rest) m =
      (.error cause, { m with journal := journalAfter m.cache journal d notes }) := by
  rw [deliver_returning h, deliver_cons_outcome (m := { m with journal }) hfail]

theorem published_journalAfter : (journalAfter c journal d notes).filterMap Entry.published? =
    journal.filterMap Entry.published? ++ [(d.1, d.2.2)] := by
  have silent : (notes.map Entry.record).filterMap Entry.published? = [] := by
    rw [List.filterMap_map]
    exact List.filterMap_eq_nil_iff.mpr fun _ _ => rfl
  rw [journalAfter, List.filterMap_append, List.filterMap_cons, silent]
  rfl

theorem published_returning {before : List Entry} (h : Returning c before made journal) :
    journal.filterMap Entry.published? = before.filterMap Entry.published? ++ made.map fun d => (d.1, d.2.2) := by
  induction h with
  | nil => exact (List.append_nil _).symm
  | cons returned returning ih =>
    rw [ih, published_journalAfter, List.append_assoc]
    rfl

/-! ### An update without its deliveries -/

theorem track_withHandlers {events : List Event} :
    (m.withHandlers handlers).track c events = (m.track c events).withHandlers handlers := by
  unfold track
  simp only
  split <;> rfl

theorem plan_nil {events : List Event} : plan [] events = [] :=
  List.flatMap_eq_nil_iff.mpr fun _ _ => rfl

/-- A reconciliation with events is the same one without handlers and then the deliveries. -/
theorem reconcile_withHandlers (h : m.cache.reconciled.2 ≠ []) :
    reconcile change (m.withHandlers handlers) = deliver change (plan handlers m.cache.reconciled.2)
      ((reconcile change (m.withHandlers [])).2.withHandlers handlers) := by
  unfold reconcile Cache.reconciled at *
  have kept : (m.withHandlers handlers).cache = m.cache := rfl
  have alone : (m.withHandlers []).cache = m.cache := rfl
  rw [kept, alone]
  cases hc : m.cache.reconcile with
  | error cause =>
    rw [hc] at h
    exact absurd rfl h
  | ok result =>
    simp only
    rw [track_withHandlers, track_withHandlers]
    simp only [withHandlers, plan_nil, deliver]

/-- An update with events is the same update without handlers and then the deliveries. -/
theorem perform_withHandlers (h : (u.apply equal m.cache).2 ≠ []) (depth : Nat) (handlers : List (String × Handler)) :
    ∃ change, (u.result equal depth (m.withHandlers handlers), u.perform equal depth (m.withHandlers handlers)) =
      deliver change (plan handlers (u.apply equal m.cache).2)
        ((u.perform equal depth (m.withHandlers [])).withHandlers handlers) := by
  rcases @perform_cases_withHandlers equal depth u m with ⟨-, happly⟩ | ⟨n, c, -, -, happly, hperform⟩
  · rw [happly] at h
    exact absurd rfl h
  · rw [happly] at h
    rw [(hperform handlers).1, (hperform handlers).2, (hperform []).1, happly]
    exact ⟨_, reconcile_withHandlers (m := n.withCache c) h⟩

theorem announced_nil {events : List Event} : announced [] events = [] :=
  List.flatMap_eq_nil_iff.mpr fun _ _ => rfl

theorem announced_concat {first : List (String × Handler)} {entry : String × Handler} {e : Event} :
    announced (first ++ [entry]) [e] = announced first [e] ++ [(entry.1, e)] := by
  simp [announced]

theorem plan_split {first last : List (String × Handler)} {entry : String × Handler} {before after : List Event}
    {e : Event} (h : handlers = first ++ entry :: last) : plan handlers (before ++ e :: after) =
      (plan handlers before ++ plan first [e]) ++ (entry.1, entry.2, e) :: (plan last [e] ++ plan handlers after) := by
  subst h
  simp [plan, List.append_assoc]

end Cut

section Failure
variable {depth : Nat} {m n s : Monitor} {u : Update} {before after : List Event} {e : Event}
  {first last : List (String × Handler)} {name : String} {h : Handler} {journal : List Entry} {notes : List Record}
  {cause : Failure}

/-- Where `s` is what the same update leaves without handlers: the first handler that fails on an event ends the
update with its failure. The events before have been delivered to all handlers and this one to the handlers up
to the failing one, nothing else is delivered, and the cache is what it becomes if no handler fails. -/
theorem failure_cuts_delivery (hs : u.perform holds depth (m.withHandlers []) = s) (hn : u.perform holds depth m = n)
    (hevents : (u.apply holds m.cache).2 = before ++ e :: after) (hhandlers : m.handlers = first ++ (name, h) :: last)
    (hreturn : Returning s.cache s.journal (plan m.handlers before ++ plan first [e]) journal)
    (hfail : (h.react s.cache journal e).outcome? = some (notes, .error cause)) :
    u.result holds depth m = .error cause ∧
    n.published = m.published ++ (announced m.handlers before ++ announced (first ++ [(name, h)]) [e]) ∧
    ∀ handlers, CalmIn handlers (u.perform holds depth (m.withHandlers handlers)).journal →
      n.cache = (u.perform holds depth (m.withHandlers handlers)).cache := by
  -- No handlers are calm handlers, so the update is known up to its first delivery.
  have alone : Moved (m.withHandlers []) s (u.apply holds m.cache) :=
    hs ▸ perform_calm (calmIn_of_calm nofun) List.prefix_rfl
  have start : s.published = m.published := by
    rw [alone.published, withHandlers, announced_nil, List.append_nil]
    rfl
  have hne : (u.apply holds m.cache).2 ≠ [] :=
    hevents ▸ List.append_ne_nil_of_right_ne_nil before (List.cons_ne_nil e after)
  obtain ⟨change, hdeliver⟩ := perform_withHandlers hne depth m.handlers
  rw [hs, hevents, plan_split hhandlers, deliver_failing (m := s.withHandlers m.handlers) hreturn hfail] at hdeliver
  obtain ⟨hresult, hperform⟩ := Prod.mk.inj hdeliver
  have left : n = { s with handlers := m.handlers, journal := journalAfter s.cache journal (name, h, e) notes } :=
    hn.symm.trans hperform
  refine ⟨hresult, ?_, fun handlers hcalm => ?_⟩
  · rw [left, published, published_journalAfter, published_returning hreturn, ← published, start, List.map_append,
      plan_published, plan_published, announced_concat, List.append_assoc, List.append_assoc]
  · have calm : Moved (m.withHandlers handlers) _ (u.apply holds m.cache) := perform_calm hcalm List.prefix_rfl
    rw [calm.cache, ← alone.cache, left]

theorem failingOn_returns {id : Identity} {c : Cache} (h : e.id ≠ id) :
    ((failingOn id).react c journal e).outcome? = some ([], .ok ()) := by
  simp [failingOn, h, Reaction.outcome?]

theorem failingOn_fails {c : Cache} :
    ((failingOn e.id).react c journal e).outcome? = some ([], .error (.handler "handler failed")) := by
  simp [failingOn, Reaction.outcome?]

/-- Of three upserts the second meets a handler that fails; the handler behind it has got only the first. -/
theorem failure_cuts_delivery_second :
    let a : Value := .object (.str "a") (.str "") [] (.str "Pod")
    let b : Value := .object (.str "b") (.str "") [] (.str "Pod")
    let c : Value := .object (.str "c") (.str "") [] (.str "Pod")
    let bad := failingOn ⟨"", "b"⟩
    let handlers := [("log", Handler.logging), ("bad", bad), ("map", Handler.silent)]
    let m := fresh (.filter .null) handlers
    let u : Update := .sync [a, b, c] none
    let n := u.perform holds 1 m
    (u.apply holds m.cache).2 = [.upsert ⟨"", "a"⟩ a, .upsert ⟨"", "b"⟩ b, .upsert ⟨"", "c"⟩ c] ∧
      u.result holds 1 m = .error (.handler "handler failed") ∧
      n.published = m.published ++ (announced handlers [.upsert ⟨"", "a"⟩ a] ++
        announced [("log", Handler.logging), ("bad", bad)] [.upsert ⟨"", "b"⟩ b]) ∧
      Table.keys n.cache.tracked = [⟨"", "a"⟩, ⟨"", "b"⟩, ⟨"", "c"⟩] := by
  intro a b c bad handlers m u n
  have events : (u.apply holds m.cache).2 =
      [.upsert ⟨"", "a"⟩ a] ++ .upsert ⟨"", "b"⟩ b :: [.upsert ⟨"", "c"⟩ c] := by rfl
  have returning (c : Cache) (journal : List Entry) : ∃ journal', Returning c journal
      (plan handlers [.upsert ⟨"", "a"⟩ a] ++ plan [("log", Handler.logging)] [.upsert ⟨"", "b"⟩ b]) journal' :=
    ⟨_, .cons rfl (.cons (failingOn_returns (by decide)) (.cons rfl (.cons rfl .nil)))⟩
  obtain ⟨journal, hreturn⟩ := returning (u.perform holds 1 (m.withHandlers [])).cache
    (u.perform holds 1 (m.withHandlers [])).journal
  have cut := failure_cuts_delivery (m := m) (n := n) rfl rfl events rfl hreturn failingOn_fails
  exact ⟨events, cut.1, cut.2.1, by decide +kernel⟩

end Failure

end Monitor

end ObjectWatch
