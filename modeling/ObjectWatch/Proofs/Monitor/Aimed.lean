import ObjectWatch.Proofs.Filter.Content
import ObjectWatch.Proofs.Monitor.Nested

/-! Handlers that change the filter from inside their callbacks, all of them to filters that equal one filter.
    The first change that is taken in leaves the cache with such a filter before its events go out, so every
    change after it, also inside the delivery of those events, finds a filter that equals its own and is
    skipped. Changes are therefore nested twice at most, and whatever the limit of the nesting is, it is not
    reached (`Agree`); what is delivered is what the operation has to deliver, with the events of that one
    change in between (`Settled`). -/

namespace ObjectWatch

/-- A reaction that changes the filter only to filters that `f` equals. -/
def Reaction.AimsAt (f : Filter) : Reaction → Prop
  | done | fail _ => True
  | note _ next => next.AimsAt f
  | refilter c next => (∃ g, c = .filter g ∧ f.equals g = true) ∧ ∀ result, (next result).AimsAt f

/-- A handler whose every reaction changes the filter only to filters that `f` equals. -/
def Handler.AimsAt (f : Filter) (h : Handler) : Prop :=
  ∀ c journal event, (h.react c journal event).AimsAt f

/-- The cache has a filter that `f` equals. -/
def Cache.Reached (f : Filter) (c : Cache) : Prop :=
  ∃ g, c.criterion = .filter g ∧ f.equals g = true

namespace Monitor

/-- All handlers change the filter only to filters that `f` equals. -/
def AimsAt (f : Filter) (m : Monitor) : Prop :=
  ∀ entry ∈ m.handlers, entry.2.AimsAt f

theorem AimsAt.congr {f : Filter} {m n : Monitor} (h : m.AimsAt f) (hn : n.handlers = m.handlers) : n.AimsAt f := by
  unfold AimsAt
  rwa [hn]

/-- What came of the changes of the filter that handlers asked for, in the order of the answers. -/
def answers (m : Monitor) : List (Except Failure Bool) :=
  m.journal.filterMap Entry.result?

section Aimed
variable {f g : Filter} {m n o : Monitor} {depth : Nat} {a b inner : List (String × Event)}
  {result : Except Failure Bool}

theorem Noted.answers (h : Noted m n) : n.answers = m.answers :=
  h.filterMap_journal fun _ => rfl

theorem answers_write_delivery {d : Delivery} : (m.write (.delivery d)).answers = m.answers :=
  List.filterMap_append.trans (List.append_nil _)

theorem answers_write_answer {result : Answer} : (m.write (.answer result)).answers = m.answers ++ [result.result] :=
  List.filterMap_append

theorem published_write_answer {result : Answer} : (m.write (.answer result)).published = m.published :=
  List.filterMap_append.trans (List.append_nil _)

/-- The monitor in which a filter is put in, before the cache is reconciled. -/
def putIn (g : Filter) (m : Monitor) : Monitor :=
  (m.log .info .cache ("refiltering cache: " ++ m.cache.criterion.literal ++ " -> " ++ g.literal)).withCache
    { m.cache with criterion := .filter g }

theorem install_eq {change : Criterion → Operation Bool} : install change g m =
    ((reconcile change (m.putIn g)).1.map fun _ => true, (reconcile change (m.putIn g)).2) :=
  Prod.ext install_fst install_snd

theorem install_congr {change change' : Criterion → Operation Bool}
    (h : reconcile change (m.putIn g) = reconcile change' (m.putIn g)) : install change g m = install change' g m := by
  rw [install_eq, install_eq, h]

/-! ### Changes that are skipped -/

theorem holds_iff_reached (hf : f.HasTexts) (hg : f.equals g = true) {c : Cache} :
    holds g c.criterion = true ↔ c.Reached f := by
  constructor
  · intro h
    cases hc : c.criterion with
    | unconditional => rw [hc] at h; cases h
    | foreign v => rw [hc] at h; cases h
    | filter g' =>
      rw [hc] at h
      exact ⟨g', hc, hf.equals_trans hg h⟩
  · rintro ⟨g', hc, hg'⟩
    rw [hc]
    exact (hf.of_equals hg).equals_trans (hf.equals_symm hg) hg'

theorem refilterAt_reached (hf : f.HasTexts) (hg : f.equals g = true) (hm : m.cache.Reached f) :
    refilterAt holds (depth + 1) (.filter g) m =
      (.ok false, m.log .debug .cache ("filter unchanged (" ++ g.literal ++ "), skipping refilter")) :=
  if_pos ((holds_iff_reached hf hg).mpr hm)

theorem refilterAt_not_reached (hf : f.HasTexts) (hg : f.equals g = true) (hm : ¬ m.cache.Reached f) :
    refilterAt holds (depth + 1) (.filter g) m = install (refilterAt holds depth) g m :=
  if_neg fun hholds => hm ((holds_iff_reached hf hg).mp hholds)

/-! ### The limit of the nesting -/

/-- Two ways to change the filter do the same for filters that `f` equals where `P` holds, and keep it. -/
structure Agree (f : Filter) (P : Monitor → Prop) (change change' : Criterion → Operation Bool) : Prop where
  frame : ∀ m journal, P m → P { m with journal }
  same : ∀ g m, f.equals g = true → P m → change (.filter g) m = change' (.filter g) m
  kept : ∀ g m, f.equals g = true → P m → P (change (.filter g) m).2

namespace Agree
variable {P : Monitor → Prop} {change change' : Criterion → Operation Bool} (h : Agree f P change change')
include h

theorem run {r : Reaction} (hr : r.AimsAt f) (hm : P m) :
    r.run change m = r.run change' m ∧ P (r.run change m).2 := by
  induction r generalizing m with
  | done => exact ⟨rfl, hm⟩
  | fail cause => exact ⟨rfl, hm⟩
  | note record next ih => exact ih hr (h.frame m _ hm)
  | refilter c next ih =>
    obtain ⟨⟨g, rfl, hg⟩, hnext⟩ := hr
    obtain ⟨hrest, hkept⟩ := ih _ (hnext _) (h.frame _ _ (h.kept g m hg hm))
    refine ⟨?_, hkept⟩
    rw [Reaction.run, Reaction.run, ← h.same g m hg hm]
    exact hrest

theorem deliver {ds : List (String × Handler × Event)} (hds : ∀ d ∈ ds, d.2.1.AimsAt f) (hm : P m) :
    deliver change ds m = deliver change' ds m := by
  induction ds generalizing m with
  | nil => rfl
  | cons d rest ih =>
    obtain ⟨name, handler, event⟩ := d
    have hreaction : (handler.react m.cache m.journal event).AimsAt f := hds _ List.mem_cons_self _ _ _
    have called : P (m.write (.delivery ⟨name, event, m.cache⟩)) := h.frame _ _ hm
    obtain ⟨hrun, hkept⟩ := h.run hreaction called
    rw [Monitor.deliver, Monitor.deliver, ← hrun]
    split
    · rename_i n hn
      rw [hn] at hkept
      exact ih (fun d hd => hds d (List.mem_cons_of_mem _ hd)) hkept
    · rfl

theorem reconcile (haims : m.AimsAt f) (hm : P (m.withCache m.cache.reconciled.1)) :
    reconcile change m = reconcile change' m := by
  unfold Monitor.reconcile
  cases hc : m.cache.reconcile with
  | error cause => rfl
  | ok result =>
    have hresult : m.cache.reconciled = result := by rw [Cache.reconciled, hc]
    rw [hresult] at hm
    obtain ⟨notes, htrack, -⟩ := @Noted.track m result.1 result.2
    refine h.deliver (fun d hd => haims _ (mem_plan.mp hd).1) ?_
    rw [htrack]
    exact h.frame _ _ hm

end Agree

theorem reached_of_filter {c : Cache} (hg : f.equals g = true) :
    ({ c with criterion := .filter g }.reconciled.1).Reached f :=
  ⟨g, Cache.reconciled_criterion, hg⟩

theorem agree_reached (hf : f.HasTexts) :
    Agree f (fun m => m.cache.Reached f) (refilterAt holds (depth + 1)) (refilterAt holds 1) where
  frame _ _ hm := hm
  same g m hg hm := by rw [refilterAt_reached hf hg hm, refilterAt_reached hf hg hm]
  kept g m hg hm := by
    rw [refilterAt_reached hf hg hm]
    exact hm

theorem install_agree (hf : f.HasTexts) (hg : f.equals g = true) (haims : m.AimsAt f) :
    install (refilterAt holds (depth + 1)) g m = install (refilterAt holds 1) g m :=
  install_congr ((agree_reached hf).reconcile haims (reached_of_filter (c := m.cache) hg))

theorem refilterAt_handlers {equal : Filter → Criterion → Bool} {c : Criterion} :
    (refilterAt equal depth c m).2.handlers = m.handlers :=
  (refilterAt_grows c m trivial).grown.handlers

theorem agree_aimed (hf : f.HasTexts) :
    Agree f (AimsAt f) (refilterAt holds (depth + 2)) (refilterAt holds 2) where
  frame _ _ hm := hm
  same g m hg hm := by
    by_cases hreached : m.cache.Reached f
    · rw [refilterAt_reached hf hg hreached, refilterAt_reached hf hg hreached]
    · -- The filter is in place before the events of the change go out, so nothing is nested deeper.
      rw [refilterAt_not_reached hf hg hreached, refilterAt_not_reached hf hg hreached, install_agree hf hg hm]
  kept _ _ _ hm := hm.congr refilterAt_handlers

/-- An update whose handlers all aim at `f` does the same whatever the limit of the nesting is, from two on. -/
theorem perform_agree (hf : f.HasTexts) (haims : m.AimsAt f) {u : Update} :
    u.perform holds (depth + 2) m = u.perform holds 2 m ∧ u.result holds (depth + 2) m = u.result holds 2 m := by
  have hreconcile (m : Monitor) (haims : m.AimsAt f) :
      reconcile (refilterAt holds (depth + 2)) m = reconcile (refilterAt holds 2) m :=
    (agree_aimed hf).reconcile haims haims
  cases u with
  | sync objects broken =>
    have hskipped : (logSkipped objects m).AimsAt f := haims.congr Noted.logSkipped.handlers
    have same : syncVia (refilterAt holds (depth + 2)) objects broken m =
        syncVia (refilterAt holds 2) objects broken m := by
      unfold syncVia
      cases broken with
      | some cause => rfl
      | none => exact hreconcile _ hskipped
    exact ⟨congrArg Prod.snd same, congrArg Prod.fst same⟩
  | refilter c =>
    have same : refilterAt holds (depth + 2 + 1) c m = refilterAt holds (2 + 1) c m := by
      cases c with
      | foreign v => rfl
      | unconditional => rfl
      | filter g =>
        rw [refilterAt, refilterAt]
        exact if_congr Iff.rfl rfl (install_congr (hreconcile _ haims))
    exact ⟨congrArg Prod.snd same, congrArg (fun result => result.1.map fun _ => ()) same⟩

/-! ### What is delivered -/

/-- From `m` to `n` events are delivered, and the changes of the filter that handlers ask for are skipped. -/
structure Unmoved (m n : Monitor) (made : List (String × Event)) : Prop extends Delivered m n made where
  answers : ∃ k, n.answers = m.answers ++ List.replicate k (.ok false)

/-- Of the deliveries that an operation asks for the first ones are made, all of them if it returned. -/
structure Part (asked made : List (String × Event)) (returned : Prop) : Prop where
  first : made <+: asked
  whole : returned → made = asked

/-- From `m` to `n` deliveries are made, and in between the filter `g` is put in, with this result and these
deliveries of the events of the change. All other changes of the filter are skipped. -/
structure Turned (g : Filter) (result : Except Failure Bool) (inner : List (String × Event)) (m n : Monitor)
    (made : List (String × Event)) : Prop where
  cache : n.cache = { m.cache with criterion := .filter g }.reconciled.1
  handlers : n.handlers = m.handlers
  effective : result ≠ .ok false
  events : Part (announced m.handlers { m.cache with criterion := .filter g }.reconciled.2) inner (result = .ok true)
  published : ∃ before after, made = before ++ after ∧ n.published = m.published ++ (before ++ inner ++ after)
  answers : ∃ inside after,
    n.answers = m.answers ++ (List.replicate inside (.ok false) ++ result :: List.replicate after (.ok false))

/-- What deliveries come to that handlers disturb by changes of the filter to filters that `f` equals. -/
inductive Settled (f : Filter) (m n : Monitor) (made : List (String × Event)) : Prop where
  /-- No change is taken in. There is none, or the filter equals `f` already. -/
  | unmoved (h : Unmoved m n made) (hm : m.cache.Reached f ∨ n.answers = m.answers)
  /-- One change is taken in, to a filter that equals `f`. -/
  | turned {g : Filter} {result : Except Failure Bool} {inner : List (String × Event)}
    (h : Turned g result inner m n made) (hg : f.equals g = true) (hm : ¬ m.cache.Reached f)

namespace Unmoved

theorem of_noted (h : Noted m n) : Unmoved m n [] where
  cache := h.cache
  handlers := h.handlers
  published := by rw [h.published, List.append_nil]
  answers := ⟨0, by rw [h.answers, List.replicate_zero, List.append_nil]⟩

theorem delivery {name : String} {event : Event} :
    Unmoved m (m.write (.delivery ⟨name, event, m.cache⟩)) [(name, event)] where
  cache := rfl
  handlers := rfl
  published := published_write_delivery
  answers := ⟨0, by rw [answers_write_delivery, List.replicate_zero, List.append_nil]⟩

theorem trans (h₁ : Unmoved m n a) (h₂ : Unmoved n o b) : Unmoved m o (a ++ b) where
  cache := h₂.cache.trans h₁.cache
  handlers := h₂.handlers.trans h₁.handlers
  published := by rw [h₂.published, h₁.published, List.append_assoc]
  answers := by
    obtain ⟨k₁, hk₁⟩ := h₁.answers
    obtain ⟨k₂, hk₂⟩ := h₂.answers
    exact ⟨k₁ + k₂, by rw [hk₂, hk₁, List.append_assoc, List.replicate_append_replicate]⟩

theorem turned (h₁ : Unmoved m n a) (hnone : n.answers = m.answers) (h₂ : Turned g result inner n o b) :
    Turned g result inner m o (a ++ b) where
  cache := by rw [h₂.cache, h₁.cache]
  handlers := h₂.handlers.trans h₁.handlers
  effective := h₂.effective
  events := by
    rw [← h₁.cache, ← h₁.handlers]
    exact h₂.events
  published := by
    obtain ⟨before, after, rfl, hpublished⟩ := h₂.published
    refine ⟨a ++ before, after, (List.append_assoc ..).symm, ?_⟩
    rw [hpublished, h₁.published, List.append_assoc, List.append_assoc a, List.append_assoc a]
  answers := hnone ▸ h₂.answers

end Unmoved

theorem Turned.unmoved (h₁ : Turned g result inner m n a) (h₂ : Unmoved n o b) :
    Turned g result inner m o (a ++ b) where
  cache := h₂.cache.trans h₁.cache
  handlers := h₂.handlers.trans h₁.handlers
  effective := h₁.effective
  events := h₁.events
  published := by
    obtain ⟨before, after, rfl, hpublished⟩ := h₁.published
    refine ⟨before, after ++ b, List.append_assoc .., ?_⟩
    rw [h₂.published, hpublished, List.append_assoc, List.append_assoc (before ++ inner)]
  answers := by
    obtain ⟨inside, after, hanswers⟩ := h₁.answers
    obtain ⟨k, hk⟩ := h₂.answers
    refine ⟨inside, after + k, ?_⟩
    rw [hk, hanswers, List.append_assoc, List.append_assoc, List.cons_append, List.replicate_append_replicate]

theorem Turned.reached (h : Turned g result inner m n a) (hg : f.equals g = true) : n.cache.Reached f :=
  h.cache ▸ reached_of_filter hg

namespace Settled

theorem handlers (h : Settled f m n a) : n.handlers = m.handlers := by
  cases h with
  | unmoved h => exact h.handlers
  | turned h => exact h.handlers

theorem trans (h₁ : Settled f m n a) (h₂ : Settled f n o b) : Settled f m o (a ++ b) := by
  cases h₁ with
  | unmoved h₁ hm =>
    cases h₂ with
    | unmoved h₂ hn =>
      refine .unmoved (h₁.trans h₂) ?_
      rcases hm with hm | hm
      · exact .inl hm
      · exact hn.imp (fun hn => h₁.cache ▸ hn) fun hn => hn.trans hm
    | turned h₂ hg hn =>
      rw [h₁.cache] at hn
      exact .turned (h₁.turned (hm.resolve_left hn) h₂) hg hn
  | turned h₁ hg hm =>
    cases h₂ with
    | unmoved h₂ hn => exact .turned (h₁.unmoved h₂) hg hm
    | turned h₂ hg' hn =>
      -- Once a change is taken in, the filter equals `f`.
      exact absurd (h₁.reached hg) hn

theorem of_noted (h : Noted m n) : Settled f m n [] :=
  .unmoved (.of_noted h) (.inr h.answers)

/-- Of all changes of the filter that handlers ask for, one at most is not skipped. -/
theorem answers (h : Settled f m n a) :
    ∃ new, n.answers = m.answers ++ new ∧ new.countP (fun result => result ≠ .ok false) ≤ 1 := by
  have skips (k : Nat) : (List.replicate k (.ok false)).countP
      (fun result : Except Failure Bool => result ≠ .ok false) = 0 := by
    simp [List.countP_replicate]
  cases h with
  | unmoved h =>
    obtain ⟨k, hk⟩ := h.answers
    exact ⟨_, hk, by rw [skips]; exact Nat.zero_le 1⟩
  | turned h =>
    obtain ⟨inside, after, hanswers⟩ := h.answers
    refine ⟨_, hanswers, Nat.le_of_eq ?_⟩
    rw [List.countP_append, List.countP_cons, skips, skips]
    simp [h.effective]

theorem reached (h : Settled f m n a) (hasked : n.answers ≠ m.answers) : n.cache.Reached f := by
  cases h with
  | unmoved h hm => exact h.cache ▸ hm.resolve_right hasked
  | turned h hg => exact h.reached hg

end Settled

/-- A relation that goes along with all that handlers do that aim at `f`, and with the events that they get. -/
structure Follows (f : Filter) (change : Criterion → Operation Bool)
    (R : Monitor → Monitor → List (String × Event) → Prop) : Prop where
  noted : ∀ {m n}, Noted m n → R m n []
  delivery : ∀ {m : Monitor} {name event}, R m (m.write (.delivery ⟨name, event, m.cache⟩)) [(name, event)]
  trans : ∀ {m n o a b}, R m n a → R n o b → R m o (a ++ b)
  call : ∀ g m, f.equals g = true → R m ((change (.filter g) m).2.write
    (.answer ⟨(change (.filter g) m).1, (change (.filter g) m).2.cache⟩)) []

namespace Follows
variable {change : Criterion → Operation Bool} {R : Monitor → Monitor → List (String × Event) → Prop}
  (h : Follows f change R)
include h

theorem run {r : Reaction} (hr : r.AimsAt f) : R m (r.run change m).2 [] := by
  induction r generalizing m with
  | done => exact h.noted (.refl m)
  | fail cause => exact h.noted (.refl m)
  | note record next ih => exact h.trans (h.noted .record) (ih hr)
  | refilter c next ih =>
    obtain ⟨⟨g, rfl, hg⟩, hnext⟩ := hr
    exact h.trans (h.call g m hg) (ih _ (hnext _))

theorem deliver {ds : List (String × Handler × Event)} (hds : ∀ d ∈ ds, d.2.1.AimsAt f) :
    ∃ made, Part (ds.map fun d => (d.1, d.2.2)) made ((deliver change ds m).1 = .ok ()) ∧
      R m (deliver change ds m).2 made := by
  induction ds generalizing m with
  | nil => exact ⟨[], ⟨List.prefix_rfl, fun _ => rfl⟩, h.noted (.refl m)⟩
  | cons d rest ih =>
    have reacted : R m _ [(d.1, d.2.2)] :=
      h.trans h.delivery (h.run (hds d List.mem_cons_self m.cache m.journal d.2.2))
    rw [Monitor.deliver]
    split
    · rename_i n hn
      rw [hn] at reacted
      obtain ⟨made, hmade, hrest⟩ := @ih n fun d hd => hds d (List.mem_cons_of_mem _ hd)
      refine ⟨(d.1, d.2.2) :: made, ⟨(List.prefix_cons_inj _).mpr hmade.first, fun hok => ?_⟩, h.trans reacted hrest⟩
      rw [hmade.whole hok, List.map_cons]
    · rename_i cause n hn
      rw [hn] at reacted
      exact ⟨[(d.1, d.2.2)], ⟨(List.prefix_cons_inj _).mpr List.nil_prefix, fun hok => by cases hok⟩, reacted⟩

theorem reconcile (haims : m.AimsAt f) :
    ∃ made, Part (announced m.handlers m.cache.reconciled.2) made ((reconcile change m).1 = .ok ()) ∧
      R (m.withCache m.cache.reconciled.1) (reconcile change m).2 made := by
  rcases @reconcile_cases change m with ⟨cause, -, hcache, hreconcile⟩ | ⟨n, tracked, -, hreconcile⟩
  · rw [hcache, hreconcile]
    exact ⟨[], ⟨List.nil_prefix, nofun⟩, h.noted (.refl m)⟩
  · rw [hreconcile]
    have hds : ∀ d ∈ plan m.handlers m.cache.reconciled.2, d.2.1.AimsAt f := fun d hd => haims _ (mem_plan.mp hd).1
    obtain ⟨made, hmade, hdeliver⟩ := h.deliver (m := n) hds
    rw [plan_published] at hmade
    exact ⟨made, hmade, h.trans (h.noted tracked) hdeliver⟩

end Follows

theorem unmoved_follows (hf : f.HasTexts) :
    Follows f (refilterAt holds (depth + 1)) fun m n made => m.cache.Reached f → Unmoved m n made where
  noted h _ := .of_noted h
  delivery _ := .delivery
  trans h₁ h₂ hm := (h₁ hm).trans (h₂ ((h₁ hm).cache ▸ hm))
  call g m hg hm := by
    rw [refilterAt_reached hf hg hm]
    exact ⟨⟨rfl, rfl, published_write_answer.trans (Noted.log.published.trans (List.append_nil _).symm)⟩, 1,
      answers_write_answer.trans (congrArg (· ++ _) Noted.log.answers)⟩

theorem install_turned (hf : f.HasTexts) (hg : f.equals g = true) (haims : m.AimsAt f) :
    ∃ inner, Turned g (install (refilterAt holds (depth + 1)) g m).1 inner m
      ((install (refilterAt holds (depth + 1)) g m).2.write (.answer ⟨(install (refilterAt holds (depth + 1)) g m).1,
        (install (refilterAt holds (depth + 1)) g m).2.cache⟩)) [] := by
  rw [install_eq]
  have aims : (m.putIn g).AimsAt f := haims
  have follows : Follows f (refilterAt holds (depth + 1)) _ := unmoved_follows hf
  obtain ⟨inner, hinner, hunmoved⟩ := follows.reconcile aims
  -- What handlers ask for while the events of the change go out is answered before the change itself.
  have unmoved := hunmoved (reached_of_filter (c := m.cache) hg)
  obtain ⟨k, hk⟩ := unmoved.answers
  have logged : Noted m (m.log .info .cache
    ("refiltering cache: " ++ m.cache.criterion.literal ++ " -> " ++ g.literal)) := .log
  refine ⟨inner, unmoved.cache, unmoved.handlers, ?_, ⟨hinner.first, fun hok => hinner.whole ?_⟩,
    ⟨[], [], rfl, ?_⟩, k, 0, ?_⟩
  · cases (reconcile (refilterAt holds (depth + 1)) (m.putIn g)).1 <;> nofun
  · cases hreturned : (reconcile (refilterAt holds (depth + 1)) (m.putIn g)).1 with
    | ok => rfl
    | error cause => rw [hreturned] at hok; cases hok
  · rw [published_write_answer, unmoved.published, List.append_nil, List.nil_append]
    exact congrArg (· ++ inner) logged.published
  · rw [answers_write_answer, hk, List.append_assoc]
    exact congrArg (· ++ _) logged.answers

theorem settled_follows (hf : f.HasTexts) :
    Follows f (refilterAt holds (depth + 2)) fun m n made => m.AimsAt f → Settled f m n made where
  noted h _ := .of_noted h
  delivery _ := .unmoved .delivery (.inr answers_write_delivery)
  trans h₁ h₂ haims := (h₁ haims).trans (h₂ (haims.congr (h₁ haims).handlers))
  call g m hg haims := by
    by_cases hm : m.cache.Reached f
    · exact .unmoved ((unmoved_follows hf).call g m hg hm) (.inl hm)
    · rw [refilterAt_not_reached hf hg hm]
      obtain ⟨inner, hturned⟩ := install_turned hf hg haims
      exact .turned hturned hg hm

theorem perform_settled (hf : f.HasTexts) (haims : m.AimsAt f) (depth : Nat) (u : Update) :
    ∃ made, Part (announced m.handlers (u.apply holds m.cache).2) made (u.result holds (depth + 2) m = .ok ()) ∧
      Settled f (m.withCache (u.apply holds m.cache).1) (u.perform holds (depth + 2) m) made := by
  rcases @perform_cases holds (depth + 2) u m with ⟨hnoted, happly⟩ | ⟨n, c, hnoted, -, happly, hperform, hresult⟩
  · rw [happly]
    exact ⟨[], ⟨List.nil_prefix, fun _ => rfl⟩, .of_noted hnoted⟩
  · rw [happly, hperform, hresult]
    have haims' : (n.withCache c).AimsAt f := haims.congr hnoted.handlers
    have follows : Follows f (refilterAt holds (depth + 2)) _ := settled_follows hf
    obtain ⟨made, hmade, hsettled⟩ := follows.reconcile haims'
    have logged : Noted (m.withCache c.reconciled.1) (n.withCache c.reconciled.1) := by
      obtain ⟨notes, rfl, hrecords⟩ := hnoted
      exact ⟨notes, rfl, hrecords⟩
    refine ⟨made, ?_, (Settled.of_noted logged).trans (hsettled haims')⟩
    rw [← hnoted.handlers]
    exact hmade

/-- Where all handlers change the filter only to filters that equal one filter of texts, every update ends: from two
on, the limit of the nesting makes no difference. Its own events are delivered, up to a failure, with those
of one change from inside in between at most; of the changes that handlers ask for, one at most is not
skipped. If there is such a change, the filter equals that one filter in the end. -/
theorem aimed_changes_settle {u : Update} (hf : f.HasTexts) (haims : ∀ entry ∈ m.handlers, entry.2.AimsAt f)
    (hdepth : 2 ≤ depth) (hn : u.perform holds depth m = n) :
    (n = u.perform holds 2 m ∧ u.result holds depth m = u.result holds 2 m) ∧
    (∃ made, Part (announced m.handlers (u.apply holds m.cache).2) made (u.result holds depth m = .ok ()) ∧
      Settled f (m.withCache (u.apply holds m.cache).1) n made) ∧
    (∃ new, n.answers = m.answers ++ new ∧ new.countP (fun result => result ≠ .ok false) ≤ 1) ∧
    (n.answers ≠ m.answers → ∃ g, n.cache.criterion = .filter g ∧ g.equals f = true) := by
  obtain ⟨depth, rfl⟩ := Nat.exists_eq_add_of_le' hdepth
  subst hn
  obtain ⟨made, hmade, settled⟩ := perform_settled hf haims depth u
  refine ⟨perform_agree hf haims, ⟨made, hmade, settled⟩, settled.answers, fun hasked => ?_⟩
  obtain ⟨g, hg, hequals⟩ := settled.reached hasked
  exact ⟨g, hg, hf.equals_symm hequals⟩

/-- Changes the filter whatever it is told. -/
def insisting (g : Filter) : Handler :=
  ⟨fun _ _ _ => .refilter (.filter g) fun _ => .done⟩

theorem insisting_aimsAt (hg : f.equals g = true) : (insisting g).AimsAt f :=
  fun _ _ _ => ⟨⟨g, rfl, hg⟩, fun _ => trivial⟩

/-- Two handlers change the filter on every event, to filters that name the same pairs in different orders. The
first of them is answered first inside the change that it asks for. -/
theorem aimed_changes_settle_reordered :
    let a : Value := .object (.str "a") (.str "") [(.str "x", .str "1"), (.str "y", .str "2")] (.str "Pod")
    let b : Value := .object (.str "b") (.str "") [] (.str "Pod")
    let f : Filter := .labels [(.str "x", .str "1"), (.str "y", .str "2")]
    let g : Filter := .labels [(.str "y", .str "2"), (.str "x", .str "1")]
    let m := fresh (.filter .null) [("one", insisting f), ("two", insisting g)]
    let n := (Update.sync [a, b] none).perform holds (nestingLimit - 1) m
    n.answers = [.ok false, .ok false, .ok true, .ok false, .ok false, .ok false] ∧
      Table.keys n.cache.tracked = [⟨"", "a"⟩] ∧ ∃ g, n.cache.criterion = .filter g ∧ g.equals f = true := by
  intro a b f g m n
  have texts : f.HasTexts := by
    rintro _ ⟨⟩
    exact ⟨by simp, by simp⟩
  have aims : ∀ entry ∈ m.handlers, entry.2.AimsAt f := by
    simp only [m, fresh, List.forall_mem_cons]
    exact ⟨insisting_aimsAt (by decide +kernel), insisting_aimsAt (by decide +kernel), List.forall_mem_nil _⟩
  obtain ⟨⟨same, -⟩, -, -, reached⟩ := aimed_changes_settle (n := n) texts aims (by decide) rfl
  have asked : n.answers = [.ok false, .ok false, .ok true, .ok false, .ok false, .ok false] := by
    rw [same]
    decide +kernel
  have before : m.answers = [] := rfl
  exact ⟨asked, by rw [same]; decide +kernel, reached (by rw [asked, before]; exact List.cons_ne_nil _ _)⟩

/-- Handlers that want different filters undo the changes of one another up to the limit. -/
example :
    let a : Value := .object (.str "a") (.str "") [] (.str "Pod")
    let m := fresh (.filter .null) [("one", insisting .all), ("two", insisting .null)]
    (.error .nestedTooDeep) ∈ ((Update.sync [a] none).perform holds 9 m).answers := by
  decide +kernel

end Aimed

end Monitor

end ObjectWatch
