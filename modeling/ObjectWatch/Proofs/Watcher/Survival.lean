import ObjectWatch.Proofs.Watcher.Refusal

/-! What a poll makes of a file that is there. A file whose text can be loaded, or is found malformed, does not
    end the polling: it is taken in, or skipped with a warning. Octets that are no text, and a text with a
    scalar that has no value, are not skipped but end the poll with a failure. -/

namespace ObjectWatch

/-- A file with a text that can be loaded or is malformed. -/
def File.Loadable (load : Loader) (file : File) : Prop :=
  ∃ text, file.read = .ok text ∧ ∀ e, load text = .error e → e = .malformed

namespace Monitor
variable {load : Loader} {path : String} {octets : List UInt8} {m n : Monitor}

/-- A failure to read a file as a text, or to load the text other than by finding it malformed. -/
def Escaping (cause : Failure) : Prop :=
  cause = .file .notUtf8 ∨ ∃ e, e ≠ .malformed ∧ cause = .yaml e

/-- A poll takes the listing of a file in. -/
def Taken (load : Loader) (path : String) (file : File) (m : Monitor) : Prop :=
  ∃ objects o, file.listed? load = some objects ∧ Noted m o ∧ pollVia load path file m = sync objects o

/-- A poll finds no listing in a file and only gives a warning. -/
def Skipped (load : Loader) (path : String) (file : File) (m : Monitor) : Prop :=
  file.listed? load = none ∧ ∃ message, pollVia load path file m = (.ok (), m.log .warning .file message)

theorem taken_or_skipped {file : File} {text : List Char} {payload : Value} (hread : file.read = .ok text)
    (hload : load text = .ok payload) : Taken load path file m ∨ Skipped load path file m := by
  have hpoll : pollVia load path file m = takeIn path payload m := by
    unfold pollVia
    simp only [hread, hload]
  cases hitems : Listing.items payload with
  | error cause =>
    rw [takeIn_of_refused (Listing.items_eq_error_iff.mp hitems)] at hpoll
    exact .inr ⟨by simp [File.listed?, hread, hload, hitems, Except.toOption], _, hpoll⟩
  | ok items =>
    rw [takeIn_of_gives (Listing.items_eq_ok_iff.mp hitems)] at hpoll
    exact .inl ⟨Listing.objectsOf items, logLeftOut items m,
      by simp [File.listed?, hread, hload, hitems, Except.toOption], .logLeftOut, hpoll⟩

theorem read_regular : (File.regular octets).read = .error .notUtf8 ∨
    ∃ text, (File.regular octets).read = .ok text := by
  rw [File.read]
  cases Text.decodeUtf8? octets with
  | none => exact .inl rfl
  | some cs => exact .inr ⟨_, rfl⟩

/-- A file that is there is taken in or skipped, or it ends the poll before anything happens. -/
theorem pollVia_regular : ((File.regular octets).Loadable load ∧
      (Taken load path (.regular octets) m ∨ Skipped load path (.regular octets) m)) ∨
    (¬ (File.regular octets).Loadable load ∧
      ∃ cause, Escaping cause ∧ pollVia load path (.regular octets) m = (.error cause, m)) := by
  rcases @read_regular octets with hread | ⟨text, hread⟩
  · refine .inr ⟨?_, .file .notUtf8, .inl rfl, ?_⟩
    · rintro ⟨text, htext, -⟩
      cases hread.symm.trans htext
    · unfold pollVia
      simp only [hread]
  · cases hload : load text with
    | ok payload =>
      refine .inl ⟨⟨text, hread, fun e he => ?_⟩, taken_or_skipped hread hload⟩
      cases hload.symm.trans he
    | error e =>
      have unlisted : (File.regular octets).listed? load = none := by
        simp [File.listed?, hread, hload, Except.toOption]
      have unloadable (he : e ≠ .malformed) : ¬ (File.regular octets).Loadable load := by
        rintro ⟨text', htext, hall⟩
        cases hread.symm.trans htext
        exact he (hall e hload)
      unfold Skipped pollVia
      simp only [hread, hload]
      cases e with
      | malformed => exact .inl ⟨⟨text, hread, fun e he => (Except.error.inj (hload.symm.trans he)).symm⟩,
          .inr ⟨unlisted, _, rfl⟩⟩
      | noSuchCharacter code =>
        have he : Yaml.Error.noSuchCharacter code ≠ .malformed := fun h => by cases h
        exact .inr ⟨unloadable he, _, .inr ⟨_, he, rfl⟩, rfl⟩
      | scalar cause =>
        have he : Yaml.Error.scalar cause ≠ .malformed := fun h => by cases h
        exact .inr ⟨unloadable he, _, .inr ⟨_, he, rfl⟩, rfl⟩

section Runs
variable {cr : Criterion} {handlers : List (String × Handler)} {rs : List Request} {result : Except Failure Unit}

/-- Whatever was requested before, a poll of a file that is there, during which no handler fails, returns
exactly if the file can be loaded or is malformed. Then the listing is taken in, or there is none and the poll is
skipped with a warning. If it does not return, it fails with what reading or loading the file fails with, and
nothing else has happened. -/
theorem poll_returns_iff_loadable (hm : requestAll load path rs (fresh cr handlers) = m) (hcr : cr.initial.Usable)
    (hn : pollVia load path (.regular octets) m = (result, n)) (hraised : ∀ cause, ¬ Raised nested cause m n) :
    (result = .ok () ↔ (File.regular octets).Loadable load) ∧
    (result = .ok () → Taken load path (.regular octets) m ∨ Skipped load path (.regular octets) m) ∧
    (∀ cause, result = .error cause → Escaping cause ∧ n = m) := by
  rcases @pollVia_regular load path octets m with ⟨hloadable, hdone⟩ | ⟨hloadable, cause, hescaping, hfailed⟩
  · have returned : result = .ok () := by
      cases result with
      | ok _ => rfl
      | error cause =>
        rcases hdone with ⟨objects, o, -, hnoted, hpoll⟩ | ⟨-, message, hpoll⟩
        · have husable : o.cache.criterion.Usable := hnoted.cache ▸ hm ▸ requestAll_usable (m := fresh cr handlers) hcr
          have failed : syncVia nested objects none o = (.error cause, n) := hpoll.symm.trans hn
          exact absurd (.after (.of_noted hnoted) (sync_error refilterAt_grows husable failed)) (hraised cause)
        · cases hn.symm.trans hpoll
    refine ⟨iff_of_true returned hloadable, fun _ => hdone, fun cause hcause => ?_⟩
    cases returned.symm.trans hcause
  · cases hn.symm.trans hfailed
    refine ⟨iff_of_false nofun hloadable, nofun, fun cause' hcause => ?_⟩
    cases hcause
    exact ⟨hescaping, rfl⟩

/-- A listing of one object and a text, with a handler that is told of the object. -/
theorem poll_returns_iff_loadable_listing :
    let file : File := .regular ("- metadata:\n    name: a\n- b\n".toList.map fun c => UInt8.ofNat c.toNat)
    let m := fresh (.filter .null) [("map", Handler.silent)]
    (poll "objects" file m).1 = .ok () ∧ file.Loadable Yaml.load ∧
      (Taken Yaml.load "objects" file m ∨ Skipped Yaml.load "objects" file m) := by
  intro file m
  have calm : ∀ entry ∈ m.handlers, entry.2.Calm := List.forall_mem_singleton.mpr Handler.silent_calm
  have returned : (poll "objects" file m).1 = .ok () := by decide +kernel
  refine ⟨returned, ?_⟩
  cases hn : pollVia Yaml.load "objects" file m with
  | mk result n =>
    have run : requestAll Yaml.load "objects" [] m = m := rfl
    have hresult : result = .ok () := (congrArg Prod.fst hn).symm.trans returned
    obtain ⟨hloadable, hdone, -⟩ := poll_returns_iff_loadable run (fun v hv => by cases hv) hn fun _ =>
      not_raised_of_calm calm
    exact ⟨hloadable.mp hresult, hdone hresult⟩

/-- A date that there is not, and octets that are no text: neither poll returns. -/
theorem poll_broken_off :
    let octets (text : String) : List UInt8 := text.toList.map fun c => UInt8.ofNat c.toNat
    let dated : File := .regular (octets "- metadata:\n    name: a\n  created: 2024-02-30\n")
    let m := fresh (.filter .null) [("map", Handler.silent)]
    (poll "objects" dated m).1 = .error (.yaml (.scalar .noSuchMoment)) ∧
      (poll "objects" (.regular [0xff]) m).1 = .error (.file .notUtf8) := by
  decide +kernel

end Runs

end Monitor

end ObjectWatch
