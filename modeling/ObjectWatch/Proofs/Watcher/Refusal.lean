import ObjectWatch.Proofs.Watcher

/-! Requests that fail. Either a handler failed, which ends the request there, or the request is refused, and
    whatever can be refused is checked before the first change: a listing is gone through before it is taken
    in, a filter is compared before it is put in, a file is loaded before its listing is passed on. The one
    thing that comes up too late is a criterion that is no filter, which only the first object shows. -/

namespace ObjectWatch

/-- A criterion that has a verdict on objects: a filter, or one that passes every object. -/
def Criterion.Usable (c : Criterion) : Prop :=
  ∀ v, c ≠ .foreign v

/-- What can be asked of a cache, of its handlers and of its watcher. -/
inductive Request where
  /-- Goes through a listing that breaks off with a failure or is complete. -/
  | sync (objects : List Value) (broken : Option Failure)
  | syncValue (v : Value)
  | refilter (c : Criterion)
  | register (name : String) (h : Handler)
  | unregister (name : String)
  | handle (event : Event)
  | handleValue (v : Value)
  | poll (file : File)

namespace Request

def perform (load : Loader) (path : String) : Request → Operation Unit
  | sync objects broken => Monitor.syncVia Monitor.nested objects broken
  | syncValue v => Monitor.syncValue v
  | refilter c => fun m => ((Monitor.refilter c m).1.map fun _ => (), (Monitor.refilter c m).2)
  | register name h => Monitor.register name h
  | unregister name => fun m => (.ok (), m.unregister name)
  | handle event => Monitor.handle event
  | handleValue v => Monitor.handleValue v
  | poll file => Monitor.pollVia load path file

/-- The complete listing that a request gives to the cache. -/
def listed? (load : Loader) : Request → Option (List Value)
  | sync objects none => some objects
  | syncValue v => v.iterate?
  | poll file => file.listed? load
  | _ => none

/-- The requests that are refused: listings that break off or are none, criteria that cannot be compared, names
that are taken, values that are no events, and files that are there and cannot be read or loaded. -/
inductive Refused (load : Loader) (m : Monitor) : Request → Prop where
  | broken {objects : List Value} {cause : Failure} : Refused load m (sync objects (some cause))
  | notIterable {v : Value} (hv : v.iterate? = none) : Refused load m (syncValue v)
  | incomparable {c : Criterion} (hc : ∀ f, c ≠ .filter f) : Refused load m (refilter c)
  | taken {name : String} {h : Handler} (hname : Table.has name m.handlers = true) :
    Refused load m (register name h)
  | notEvent {v : Value} : Refused load m (handleValue v)
  | unreadable {file : File} {e : FileError} (hread : file.read = .error e) (he : e ≠ .notFound) :
    Refused load m (poll file)
  | unloadable {file : File} {text : List Char} {e : Yaml.Error} (hread : file.read = .ok text)
    (hload : load text = .error e) : Refused load m (poll file)

end Request

namespace Monitor
open Cache
variable {load : Loader} {path : String} {change : Criterion → Operation Bool} {m n : Monitor} {cause : Failure}

/-- The monitor after requests, one after the other, returned or failed. -/
def requestAll (load : Loader) (path : String) (rs : List Request) (m : Monitor) : Monitor :=
  rs.foldl (fun m r => (r.perform load path m).2) m

/-- A handler that is called some time after `m` fails, and nothing happens from then on. -/
def Raised (change : Criterion → Operation Bool) (cause : Failure) (m n : Monitor) : Prop :=
  ∃ k event, ∃ entry ∈ m.handlers, Grown (fun _ => True) m k ∧
    (entry.2.react k.cache k.journal event).run change (k.write (.delivery ⟨entry.1, event, k.cache⟩)) =
      (.error cause, n)

theorem Raised.after {o : Monitor} (hgrown : Grown (fun _ => True) m o) (h : Raised change cause o n) :
    Raised change cause m n := by
  obtain ⟨k, event, entry, hentry, hk, hrun⟩ := h
  exact ⟨k, event, entry, hgrown.handlers ▸ hentry, hgrown.trans hk, hrun⟩

/-- Handlers that never fail raise nothing. -/
theorem not_raised_of_calm (h : ∀ entry ∈ m.handlers, entry.2.Calm) : ¬ Raised change cause m n := by
  rintro ⟨k, event, entry, hentry, -, hrun⟩
  obtain ⟨o, ho, -⟩ := run_calm (h entry hentry k.cache k.journal event)
  cases ho.symm.trans hrun

/-! ### Why an operation fails -/

/-- Deliveries fail when a handler does. -/
theorem deliver_error (hchange : ∀ c m, True → Kept (fun _ => True) m (change c m).2)
    {ds : List (String × Handler × Event)} (hds : ∀ d ∈ ds, (d.1, d.2.1) ∈ m.handlers)
    (h : deliver change ds m = (.error cause, n)) : Raised change cause m n := by
  induction ds generalizing m with
  | nil => cases h
  | cons d rest ih =>
    rw [deliver] at h
    split at h
    · rename_i k hk
      have grown : Grown (fun _ => True) m k := write_grows.trans (run_grows hchange hk)
      exact .after grown (ih (fun d hd => grown.handlers ▸ hds d (List.mem_cons_of_mem _ hd)) h)
    · rename_i cause' k hk
      cases h
      exact ⟨m, d.2.2, (d.1, d.2.1), hds d List.mem_cons_self, .of_eq rfl rfl, hk⟩

theorem foreign_of_reconcile_error {c : Cache} {e : AccessError} (h : c.reconcile = .error e) :
    ∃ v, c.criterion = .foreign v := by
  unfold Cache.reconcile at h
  cases hc : c.criterion with
  | filter f =>
    rw [hc] at h
    cases h
  | unconditional =>
    rw [hc] at h
    cases h
  | foreign v => exact ⟨v, rfl⟩

/-- A reconciliation with a filter fails when a handler does. -/
theorem reconcile_error (hchange : ∀ c m, True → Kept (fun _ => True) m (change c m).2)
    (husable : m.cache.criterion.Usable) (h : reconcile change m = (.error cause, n)) :
    Raised change cause m n := by
  rcases @reconcile_cases change m with ⟨e, hcache, -, -⟩ | ⟨o, tracked, -, hreconcile⟩
  · obtain ⟨v, hv⟩ := foreign_of_reconcile_error hcache
    exact absurd hv (husable v)
  · rw [hreconcile] at h
    have grown : Grown (fun _ => True) m o := .trans .withCache (.of_noted tracked)
    exact .after grown (deliver_error hchange (fun d hd => grown.handlers ▸ (mem_plan.mp hd).1) h)

/-- Taking in a complete listing with a filter fails when a handler does. -/
theorem sync_error (hchange : ∀ c m, True → Kept (fun _ => True) m (change c m).2) {objects : List Value}
    (husable : m.cache.criterion.Usable) (h : syncVia change objects none m = (.error cause, n)) :
    Raised change cause m n := by
  have skipped : Noted m (logSkipped objects m) := .logSkipped
  have taken : Grown (fun _ => True) m ((logSkipped objects m).withCache
    { (logSkipped objects m).cache with listing := index objects }) := .trans (.of_noted skipped) .withCache
  rw [← skipped.cache] at husable
  exact .after taken (reconcile_error hchange husable h)

theorem refilterAt_usable {depth : Nat} : ∀ c m, m.cache.criterion.Usable →
    Kept (fun c => c.criterion.Usable) m (refilterAt holds depth c m).2 :=
  refilterAt_kept (P := fun c => c.criterion.Usable) fun f c _ v => by
    rw [reconciled_criterion]
    nofun

theorem syncVia_usable {objects : List Value} {broken : Option Failure} (hm : m.cache.criterion.Usable) :
    (syncVia nested objects broken m).2.cache.criterion.Usable := by
  have taken : { m.cache with listing := index objects }.reconciled.1.criterion.Usable := by
    rw [reconciled_criterion]
    exact hm
  exact (syncVia_kept (P := fun c => c.criterion.Usable) refilterAt_usable (fun _ => hm) fun _ => taken).cache

theorem perform_usable {r : Request} (hm : m.cache.criterion.Usable) :
    (r.perform load path m).2.cache.criterion.Usable := by
  cases r with
  | sync objects broken => exact syncVia_usable hm
  | syncValue v =>
    rw [Request.perform, syncValue]
    cases v.iterate? with
    | some objects => exact syncVia_usable hm
    | none => exact syncVia_usable hm
  | refilter c => exact (refilterAt_usable c m hm).cache
  | register name handler => exact register_cache.symm ▸ hm
  | unregister name => exact hm
  | handle event => exact (deliver_kept (P := fun c => c.criterion.Usable) refilterAt_usable m hm).cache
  | handleValue v => exact hm
  | poll file =>
    rw [Request.perform]
    rcases @pollVia_cases load path file m with ⟨objects, n, -, hnoted, hpoll⟩ | ⟨-, hnoted⟩
    · rw [hpoll]
      exact syncVia_usable (hnoted.cache ▸ hm)
    · rw [hnoted.cache]
      exact hm

theorem requestAll_usable {rs : List Request} (hm : m.cache.criterion.Usable) :
    (requestAll load path rs m).cache.criterion.Usable := by
  induction rs generalizing m with
  | nil => exact hm
  | cons r rs ih => exact ih (perform_usable hm)

section Runs
variable {cr : Criterion} {handlers : List (String × Handler)} {rs : List Request}

/-- A criterion that is no filter shows only when the first object of a listing is put to it, and by then the listing
is taken in. -/
theorem sync_of_foreign {v : Value} {objects : List Value} (hv : m.cache.criterion = .foreign v)
    (hobjects : index objects ≠ []) : (sync objects m).1 = .error (.access (v.callError "accept")) ∧
      (sync objects m).2.cache = { m.cache with listing := index objects } := by
  have skipped : Noted m (logSkipped objects m) := .logSkipped
  have refused : ({ m.cache with listing := index objects } : Cache).reconcile = .error (v.callError "accept") := by
    rw [Cache.reconcile, hv, Criterion.select, List.isEmpty_eq_false_iff.mpr hobjects]
    rfl
  have step : sync objects m =
      reconcile nested ((logSkipped objects m).withCache { m.cache with listing := index objects }) := by
    rw [← skipped.cache]
    rfl
  have failed : reconcile nested ((logSkipped objects m).withCache { m.cache with listing := index objects }) =
      (.error (.access (v.callError "accept")),
        (logSkipped objects m).withCache { m.cache with listing := index objects }) := by
    unfold reconcile
    simp only [withCache, refused]
  rw [step, failed]
  exact ⟨rfl, rfl⟩

/-- The criterion is a number, and the listing has an object. The request fails, no handler does, and what the cache
holds as its listing is another one. -/
theorem refused_after_change :
    let a : Value := .object (.str "a") (.str "") [] (.str "")
    let m := fresh (.foreign (.int 5)) [("map", .silent)]
    let r : Request := .sync [a] none
    ∃ cause n, r.perform Yaml.load "objects" m = (.error cause, n) ∧ ¬ Raised nested cause m n ∧ ¬ Noted m n := by
  intro a m r
  have listed : index [a] ≠ [] := by decide +kernel
  obtain ⟨hresult, hcache⟩ := @sync_of_foreign m (.int 5) [a] rfl listed
  have calm : ∀ entry ∈ m.handlers, entry.2.Calm := List.forall_mem_singleton.mpr Handler.silent_calm
  refine ⟨_, _, Prod.ext hresult rfl, not_raised_of_calm calm, fun hnoted => ?_⟩
  exact listed (congrArg Cache.listing (hcache.symm.trans hnoted.cache))

end Runs

end Monitor

end ObjectWatch
