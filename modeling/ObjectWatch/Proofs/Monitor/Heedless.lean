import ObjectWatch.Proofs.Watcher

/-! Handlers that do not go by all that the journal says. Two monitors that differ in their journals only, and there
    in nothing that a handler goes by, do the same: whatever is asked of both, they answer the same, and what is
    written down meanwhile is written to both journals. -/

namespace ObjectWatch

/-- A relation between journals that holds on when the same entry is written to both. -/
def Growing (R : List Entry → List Entry → Prop) : Prop :=
  ∀ j k e, R j k → R (j ++ [e]) (k ++ [e])

/-- A handler that makes no difference between journals that `R` relates. -/
def Handler.Heedless (R : List Entry → List Entry → Prop) (h : Handler) : Prop :=
  ∀ c j k event, R j k → h.react c j event = h.react c k event

namespace Monitor

/-- Two monitors with one cache and with the same handlers, which make no difference between their journals. -/
structure Alike (R : List Entry → List Entry → Prop) (m n : Monitor) : Prop where
  cache : n.cache = m.cache
  handlers : n.handlers = m.handlers
  journal : R m.journal n.journal
  heedless : ∀ entry ∈ m.handlers, entry.2.Heedless R

/-- An operation comes to the same on two monitors: it answers the same, and it leaves them alike. -/
structure SameEnd {α : Type} (R : List Entry → List Entry → Prop) (x y : Except Failure α × Monitor) : Prop where
  result : y.1 = x.1
  alike : Alike R x.2 y.2

section Heedless
variable {R : List Entry → List Entry → Prop} {m n : Monitor} {change : Criterion → Operation Bool}

namespace Alike

theorem withCache {c : Cache} (h : Alike R m n) : Alike R (m.withCache c) (n.withCache c) where
  cache := rfl
  handlers := h.handlers
  journal := h.journal
  heedless := h.heedless

variable (hR : Growing R)
include hR

theorem write {e : Entry} (h : Alike R m n) : Alike R (m.write e) (n.write e) where
  cache := h.cache
  handlers := h.handlers
  journal := hR _ _ e h.journal
  heedless := h.heedless

theorem log {level : Level} {source : Source} {message : String} (h : Alike R m n) :
    Alike R (m.log level source message) (n.log level source message) :=
  h.write hR

theorem track {c : Cache} {events : List Event} (h : Alike R m n) :
    Alike R (m.track c events) (n.track c events) := by
  unfold Monitor.track
  simp only
  split
  · exact h.withCache
  · exact h.withCache.log hR

theorem logSkipped {objects : List Value} (h : Alike R m n) :
    Alike R (logSkipped objects m) (logSkipped objects n) := by
  unfold Monitor.logSkipped
  induction objects generalizing m n with
  | nil => exact h
  | cons v rest ih =>
    rw [List.foldl_cons, List.foldl_cons]
    split
    · exact ih h
    · exact ih (h.log hR)

theorem logLeftOut {items : List Value} (h : Alike R m n) : Alike R (logLeftOut items m) (logLeftOut items n) := by
  unfold Monitor.logLeftOut
  induction Listing.skippedOf items generalizing m n with
  | nil => exact h
  | cons skipped rest ih => exact ih (h.log hR)

end Alike

variable (hR : Growing R)
include hR

/-! ### Operations -/

theorem run_alike (hchange : ∀ c m n, Alike R m n → SameEnd R (change c m) (change c n)) {r : Reaction}
    (h : Alike R m n) : SameEnd R (r.run change m) (r.run change n) := by
  induction r generalizing m n with
  | done => exact ⟨rfl, h⟩
  | fail cause => exact ⟨rfl, h⟩
  | note r next ih => exact ih (h.write hR)
  | refilter c next ih =>
    have changed := hchange c m n h
    rw [Reaction.run, Reaction.run]
    simp only
    rw [changed.result, changed.alike.cache]
    exact ih _ (changed.alike.write hR)

theorem deliver_alike (hchange : ∀ c m n, Alike R m n → SameEnd R (change c m) (change c n))
    {ds : List (String × Handler × Event)} (hds : ∀ d ∈ ds, d.2.1.Heedless R) (h : Alike R m n) :
    SameEnd R (deliver change ds m) (deliver change ds n) := by
  induction ds generalizing m n with
  | nil => exact ⟨rfl, h⟩
  | cons d rest ih =>
    obtain ⟨name, handler, event⟩ := d
    obtain ⟨hhandler, hrest⟩ := List.forall_mem_cons.mp hds
    have reaction : handler.react n.cache n.journal event = handler.react m.cache m.journal event := by
      rw [h.cache]
      exact (hhandler m.cache m.journal n.journal event h.journal).symm
    have reacted := run_alike hR hchange (r := handler.react m.cache m.journal event)
      (h.write hR (e := .delivery ⟨name, event, m.cache⟩))
    rw [deliver, deliver, reaction, h.cache]
    -- Both reactions end in the same way, so either both deliveries go on or both stop.
    cases hm : (handler.react m.cache m.journal event).run change (m.write (.delivery ⟨name, event, m.cache⟩)) with
    | mk result o =>
      cases hn : (handler.react m.cache m.journal event).run change (n.write (.delivery ⟨name, event, m.cache⟩)) with
      | mk result' o' =>
        rw [hm, hn] at reacted
        obtain ⟨hresult, halike⟩ := reacted
        have hresult : result' = result := hresult
        subst hresult
        cases result' with
        | ok _ => exact ih hrest halike
        | error cause => exact ⟨rfl, halike⟩

theorem reconcile_alike (hchange : ∀ c m n, Alike R m n → SameEnd R (change c m) (change c n)) (h : Alike R m n) :
    SameEnd R (reconcile change m) (reconcile change n) := by
  unfold reconcile
  rw [h.cache, h.handlers]
  cases m.cache.reconcile with
  | error cause => exact ⟨rfl, h⟩
  | ok result =>
    refine deliver_alike hR hchange (fun d hd => ?_) (h.track hR)
    exact h.heedless _ (mem_plan.mp hd).1

theorem install_alike (hchange : ∀ c m n, Alike R m n → SameEnd R (change c m) (change c n)) {f : Filter}
    (h : Alike R m n) : SameEnd R (install change f m) (install change f n) where
  result := by
    rw [install_fst, install_fst, h.cache]
    exact congrArg _ (reconcile_alike hR hchange (h.log hR).withCache).result
  alike := by
    rw [install_snd, install_snd, h.cache]
    exact (reconcile_alike hR hchange (h.log hR).withCache).alike

theorem refilterAt_alike {equal : Filter → Criterion → Bool} {depth : Nat} :
    ∀ c m n, Alike R m n → SameEnd R (refilterAt equal depth c m) (refilterAt equal depth c n) := by
  induction depth with
  | zero => exact fun _ _ _ h => ⟨rfl, h⟩
  | succ depth ih =>
    intro c m n h
    cases c with
    | foreign v => exact ⟨rfl, h⟩
    | unconditional => exact ⟨rfl, h⟩
    | filter f =>
      rw [refilterAt, refilterAt, h.cache]
      split
      · exact ⟨rfl, h.log hR⟩
      · exact install_alike hR ih h

theorem syncVia_alike (hchange : ∀ c m n, Alike R m n → SameEnd R (change c m) (change c n)) {objects : List Value}
    {broken : Option Failure} (h : Alike R m n) :
    SameEnd R (syncVia change objects broken m) (syncVia change objects broken n) := by
  have skipped : Alike R (logSkipped objects m) (logSkipped objects n) := h.logSkipped hR
  unfold syncVia
  cases broken with
  | some cause => exact ⟨rfl, skipped⟩
  | none =>
    simp only
    rw [skipped.cache]
    exact reconcile_alike hR hchange skipped.withCache

/-- A poll comes to the same on monitors whose journals differ in nothing that a handler goes by. -/
theorem pollVia_alike {load : Loader} {path : String} {file : File} (h : Alike R m n) :
    SameEnd R (pollVia load path file m) (pollVia load path file n) := by
  unfold pollVia
  cases file.read with
  | error cause =>
    cases cause with
    | notFound => exact ⟨rfl, h.log hR⟩
    | isDirectory => exact ⟨rfl, h⟩
    | notUtf8 => exact ⟨rfl, h⟩
  | ok text =>
    simp only
    cases load text with
    | error cause =>
      cases cause with
      | malformed => exact ⟨rfl, h.log hR⟩
      | noSuchCharacter code => exact ⟨rfl, h⟩
      | scalar cause => exact ⟨rfl, h⟩
    | ok payload =>
      rcases Listing.gives_or_refused payload with ⟨items, hitems⟩ | ⟨cause, hrefused⟩
      · simp only [takeIn_of_gives hitems]
        exact syncVia_alike hR (refilterAt_alike hR) (h.logLeftOut hR)
      · simp only [takeIn_of_refused hrefused]
        exact ⟨rfl, h.log hR⟩

end Heedless

end Monitor

end ObjectWatch
