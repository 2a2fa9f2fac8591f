import ObjectWatch.Proofs.Listing
import ObjectWatch.Proofs.Monitor.Failing
import ObjectWatch.Proofs.Monitor.Listing
import ObjectWatch.Session

/-! Watching a file that changes between the polls. A poll that finds a listing makes the cache exact for its
    objects; any other poll only logs. So what is tracked depends on the last listing that a poll found, and a
    listing that says the same as that one publishes nothing. -/

namespace ObjectWatch

/-- The objects of a file that is there, can be read and loaded, and holds a listing. -/
def File.listed? (load : Loader) (file : File) : Option (List Value) := do
  let text ← file.read.toOption
  let payload ← (load text).toOption
  let items ← (Listing.items payload).toOption
  some (Listing.objectsOf items)

/-- The objects of the last of the files that hold a listing, or else those before. -/
def lastFound (load : Loader) (before : List Value) (files : List File) : List Value :=
  (files.filterMap (File.listed? load)).getLast?.getD before

inductive WatchStep where
  | change (next : File)
  | poll

def WatchStep.perform (load : Loader) (path : String) : WatchStep → File × Monitor → File × Monitor
  | change next, s => (next, s.2)
  | poll, s => (s.1, (Monitor.pollVia load path s.1 s.2).2)

def watchAll (load : Loader) (path : String) (steps : List WatchStep) (s : File × Monitor) : File × Monitor :=
  steps.foldl (fun s step => step.perform load path s) s

/-- The files that the polls find. -/
def polled : File → List WatchStep → List File
  | _, [] => []
  | _, .change next :: rest => polled next rest
  | file, .poll :: rest => file :: polled file rest

section Listings
variable {load : Loader} {file : File} {files : List File} {before objects items : List Value} {v : Value}

theorem lastFound_cons :
    lastFound load before (file :: files) = lastFound load ((file.listed? load).getD before) files := by
  rw [lastFound, lastFound]
  cases hfile : file.listed? load with
  | none => rw [List.filterMap_cons_none hfile, Option.getD_none]
  | some objects => rw [List.filterMap_cons_some hfile, List.getLast?_cons, Option.getD_some, Option.getD_some]

theorem typed_of_mem_objectsOf (h : v ∈ Listing.objectsOf items) : v.Typed := by
  obtain ⟨item, -, hitem⟩ := Listing.mem_objectsOf.mp h
  exact Value.typed_of_ofManifest hitem

theorem typed_of_listed (h : file.listed? load = some objects) : ∀ v ∈ objects, v.Typed := by
  simp only [File.listed?, Option.bind_eq_bind, Option.bind_eq_some_iff, Option.some.injEq] at h
  obtain ⟨text, -, payload, -, items, -, rfl⟩ := h
  exact fun v hv => typed_of_mem_objectsOf hv

end Listings

namespace Monitor
open Cache
variable {load : Loader} {path : String} {file : File} {m n : Monitor} {before objects items : List Value}
  {steps : List WatchStep} {journal : List Entry}

/-! ### One poll -/

theorem Noted.logLeftOut : Noted m (logLeftOut items m) := by
  unfold Monitor.logLeftOut
  induction Listing.skippedOf items generalizing m with
  | nil => exact .refl m
  | cons skipped rest ih => exact Noted.log.trans ih

/-- A poll that finds a listing takes it in, and any other one only logs. -/
theorem pollVia_cases :
    (∃ objects n, file.listed? load = some objects ∧ Noted m n ∧ pollVia load path file m = sync objects n) ∨
    (file.listed? load = none ∧ Noted m (pollVia load path file m).2) := by
  unfold pollVia File.listed?
  cases file.read with
  | error cause =>
    refine .inr ⟨rfl, ?_⟩
    cases cause with
    | notFound => exact .log
    | isDirectory => exact .refl m
    | notUtf8 => exact .refl m
  | ok text =>
    cases hload : load text with
    | error cause =>
      refine .inr ⟨by simp [hload, Except.toOption], ?_⟩
      simp only [hload]
      cases cause with
      | malformed => exact .log
      | noSuchCharacter code => exact .refl m
      | scalar cause => exact .refl m
    | ok payload =>
      cases hitems : Listing.items payload with
      | error cause =>
        refine .inr ⟨by simp [hload, hitems, Except.toOption], ?_⟩
        simp only [hload, takeIn_of_refused (Listing.items_eq_error_iff.mp hitems)]
        exact .log
      | ok items =>
        refine .inl ⟨Listing.objectsOf items, logLeftOut items m, ?_, .logLeftOut, ?_⟩
        · simp [hload, hitems, Except.toOption]
        · simp only [hload, takeIn_of_gives (Listing.items_eq_ok_iff.mp hitems)]

/-- A poll makes the cache exact for the listing that it finds, if it finds one. -/
theorem poll_exact (hm : Exact before m.cache) :
    Exact ((file.listed? load).getD before) (pollVia load path file m).2.cache := by
  rcases @pollVia_cases load path file m with ⟨objects, n, hlisted, hnoted, hpoll⟩ | ⟨hlisted, hnoted⟩
  · rw [hlisted, hpoll]
    have hn : Exact before n.cache := hnoted.cache ▸ hm
    exact (update_exact (u := .sync objects none) hn).cache
  · rw [hlisted, hnoted.cache]
    exact hm

theorem poll_grows : Grown (fun _ => True) m (pollVia load path file m).2 := by
  rcases @pollVia_cases load path file m with ⟨objects, n, -, hnoted, hpoll⟩ | ⟨-, hnoted⟩
  · rw [hpoll]
    exact (Grown.of_noted hnoted).trans (perform_grows (u := .sync objects none))
  · exact .of_noted hnoted

/-- A poll that finds no listing, or one that says the same as the last one, publishes nothing. -/
theorem poll_silent (hm : Exact before m.cache) (htyped : ∀ v ∈ before, v.Typed)
    (hsame : ∀ objects, file.listed? load = some objects → ListedAlike before objects) :
    (pollVia load path file m).2.published = m.published := by
  rcases @pollVia_cases load path file m with ⟨objects, n, hlisted, hnoted, hpoll⟩ | ⟨-, hnoted⟩
  · have silent : (sync objects n).2.published = n.published := sync_silent (hnoted.cache ▸ hm)
      (listsTexts_of_typed htyped) (listsTexts_of_typed (typed_of_listed hlisted)) (hsame objects hlisted)
    rw [hpoll, silent]
    exact hnoted.published
  · exact hnoted.published

/-- A poll does not change the filter if no handler does. -/
theorem poll_criterion (hdirect : ReactedIn Reaction.Direct m.handlers journal)
    (hgrown : (pollVia load path file m).2.journal <+: journal) :
    (pollVia load path file m).2.cache.criterion = m.cache.criterion := by
  rcases @pollVia_cases load path file m with ⟨objects, n, -, hnoted, hpoll⟩ | ⟨-, hnoted⟩
  · rw [hpoll] at hgrown ⊢
    have cut := perform_direct (u := .sync objects none) (hnoted.handlers ▸ hdirect) hgrown
    have hcriterion := reconciled_criterion (c := { n.cache with listing := index objects })
    have hnotes : n.cache.criterion = m.cache.criterion := congrArg Cache.criterion hnoted.cache
    exact (congrArg Cache.criterion cut.cache).trans (hcriterion.trans hnotes)
  · rw [hnoted.cache]

/-! ### Runs of polls -/

theorem watchAll_exact (hm : Exact before m.cache) (htyped : ∀ v ∈ before, v.Typed) :
    Exact (lastFound load before (polled file steps)) (watchAll load path steps (file, m)).2.cache ∧
      ∀ v ∈ lastFound load before (polled file steps), v.Typed := by
  induction steps generalizing before file m with
  | nil => exact ⟨hm, htyped⟩
  | cons step steps ih =>
    cases step with
    | change next => exact ih hm htyped
    | poll =>
      have htyped' : ∀ v ∈ (file.listed? load).getD before, v.Typed := by
        cases hlisted : file.listed? load with
        | none => exact htyped
        | some objects => exact typed_of_listed hlisted
      rw [polled, lastFound_cons]
      exact ih (poll_exact hm) htyped'

theorem watchAll_grows : Grown (fun _ => True) m (watchAll load path steps (file, m)).2 := by
  induction steps generalizing file m with
  | nil => exact .of_eq rfl rfl
  | cons step steps ih =>
    cases step with
    | change next => exact ih
    | poll => exact poll_grows.trans ih

theorem watchAll_criterion (hdirect : ReactedIn Reaction.Direct m.handlers journal)
    (hgrown : (watchAll load path steps (file, m)).2.journal <+: journal) :
    (watchAll load path steps (file, m)).2.cache.criterion = m.cache.criterion := by
  induction steps generalizing file m with
  | nil => rfl
  | cons step steps ih =>
    cases step with
    | change next => exact ih hdirect hgrown
    | poll =>
      have rest : Grown (fun _ => True) (pollVia load path file m).2
        (watchAll load path steps (file, (pollVia load path file m).2)).2 := watchAll_grows
      have hhandlers : (pollVia load path file m).2.handlers = m.handlers := poll_grows.handlers
      exact (ih (hhandlers ▸ hdirect) hgrown).trans (poll_criterion hdirect (rest.journal_le.trans hgrown))

section Runs
variable {cr : Criterion} {handlers : List (String × Handler)} {s : File × Monitor}

/-- A watcher tracks under an identity the last object that has it in the last listing that a poll found, if
its filter passes it, and nothing before there was a listing. The filter is the one it began with, unless a
handler changes it. A poll that finds no listing publishes nothing, nor does one that finds a listing which
says the same as the last one. -/
theorem watched_tracks_last_listing (hs : watchAll load path steps (file, fresh cr handlers) = s) :
    (∀ id, Table.get? id s.2.cache.tracked =
      (lastNamed id (lastFound load [] (polled file steps))).filter s.2.cache.criterion.accepts) ∧
    (ReactedIn Reaction.Direct handlers s.2.journal → s.2.cache.criterion = cr.initial) ∧
    ((∀ objects, s.1.listed? load = some objects → ListedAlike (lastFound load [] (polled file steps)) objects) →
      (pollVia load path s.1 s.2).2.published = s.2.published) := by
  subst hs
  have start : ∀ v ∈ ([] : List Value), v.Typed := fun v hv => absurd hv List.not_mem_nil
  obtain ⟨hexact, htyped⟩ := @watchAll_exact load path file (fresh cr handlers) [] steps .fresh start
  refine ⟨fun id => hexact.get?_tracked, fun hdirect => ?_, fun hsame => poll_silent hexact htyped hsame⟩
  exact watchAll_criterion (m := fresh cr handlers) hdirect List.prefix_rfl

/-- Two items of the listing have one name, and one is no manifest. Then the file is emptied, and removed. -/
theorem watched_tracks_last_listing_gone :
    let octets (text : String) : List UInt8 := text.toList.map fun c => UInt8.ofNat c.toNat
    let listing : File := .regular (octets "- metadata:\n    name: a\n- kind: Pod\n  metadata:\n    name: a\n- 1\n")
    let steps : List WatchStep := [.poll, .change (.regular []), .poll, .change .missing]
    let s := watchAll Yaml.load "objects" steps (listing, fresh (.filter .null) [("map", Handler.silent)])
    ((Table.get? ⟨"", "a"⟩ s.2.cache.tracked).any fun v => v.equal (.object (.str "a") (.str "") [] (.str "Pod"))) = true ∧
      (poll "objects" s.1 s.2).2.published = s.2.published := by
  intro octets listing steps s
  have run : watchAll Yaml.load "objects" steps (listing, fresh (.filter .null) [("map", Handler.silent)]) = s := rfl
  obtain ⟨htracked, -, hsilent⟩ := watched_tracks_last_listing run
  have missing : s.1.listed? Yaml.load = none := rfl
  refine ⟨?_, hsilent fun objects hobjects => ?_⟩
  · rw [htracked]
    decide +kernel
  · rw [missing] at hobjects
    cases hobjects

end Runs

end Monitor

end ObjectWatch
