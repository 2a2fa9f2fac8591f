import ObjectWatch.Proofs.Filter.Grammar
import ObjectWatch.Session

/-! Settings that are refused. What is wrong with settings is an invalid value, with two exceptions in the
    entries of the watchers: a path that is no text, and an interval that is neither a number nor something that
    could spell one, or too large a number. The first of these that is reached fails as a wrong type or as out of
    range. -/

namespace ObjectWatch

namespace Settings

/-- A value that neither is a number nor could spell one, or an integer that no double is near to. -/
inductive NoInterval : Value → Prop where
  | other {v : Value} (hnumber : v.number? = none) (htext : ∀ s, v ≠ .str s) (hoctets : ∀ os, v ≠ .octets os) :
    NoInterval v
  | large {i : Int} (h : Binary64.ofInt? i = none) : NoInterval (.int i)

/-- The type of an entry; without one, it is that of a watcher of files. -/
def typeOf (entry : Value) : Value :=
  (entry.entry? "type").getD (.str "file")

/-- An entry whose type has a text, with a path that is no text, or with an interval that is none. -/
inductive Mistyped (entry : Value) : Prop where
  | path (hmapping : entry.isMapping = true) (htype : (typeOf entry).hasText = true)
    (hpath : ∀ s, (entry.entry? "path").getD (.str ".") ≠ .str s)
  | interval {s : String} (hmapping : entry.isMapping = true) (htype : (typeOf entry).hasText = true)
    (hpath : (entry.entry? "path").getD (.str ".") = .str s)
    (hinterval : NoInterval ((entry.entry? "interval").getD defaultInterval))

/-- A mapping with a filter section that is read and a list of entries for the watchers. -/
structure Watching (data : Value) (entries : List Value) : Prop where
  mapping : data.isMapping = true
  filter : ∃ f, Filter.ofSection (data.get "filter") = .ok f
  watchers : ((data.entry? "watchers").getD (.list [])).items? = some entries

/-- Settings in which a mistyped entry for a watcher is reached: whatever is before it is read. -/
def ReachesMistyped (data : Value) : Prop :=
  ∃ before entry after, Watching data (before ++ entry :: after) ∧ (∀ b ∈ before, ∃ w, watcher b = .ok w) ∧
    Mistyped entry

/-- What a mistyped entry fails with. -/
def Misfit (e : SettingsError) : Prop :=
  e.kind = .wrongType ∨ e.kind = .outOfRange

instance {e : SettingsError} : Decidable (Misfit e) :=
  inferInstanceAs (Decidable (_ ∨ _))

variable {v entry data : Value} {entries : List Value} {e : SettingsError}

theorem Misfit.not_isInvalid (h : Misfit e) : e.kind.isInvalid = false := by
  rcases h with h | h <;> rw [h] <;> rfl

/-! ### Entries -/

theorem interval_of_noInterval (h : NoInterval v) : ∃ e, interval v = .error e ∧ Misfit e := by
  cases h with
  | large h =>
    rw [interval, h]
    exact ⟨_, rfl, by decide⟩
  | other hnumber htext hoctets =>
    cases v with
    | bool b => cases hnumber
    | int i => cases hnumber
    | float x => cases hnumber
    | str s => exact absurd rfl (htext s)
    | octets os => exact absurd rfl (hoctets os)
    | _ => exact ⟨_, rfl, by decide⟩

theorem kind_of_interval (h : interval v = .error e) : e.kind.isInvalid = true ∨ NoInterval v := by
  cases v with
  | bool b => cases h
  | float x => cases h
  | int i =>
    rw [interval] at h
    cases hi : Binary64.ofInt? i with
    | none => exact .inr (.large hi)
    | some x =>
      rw [hi] at h
      cases h
  | str s =>
    rw [interval] at h
    cases hs : Binary64.ofText? s with
    | none =>
      rw [hs] at h
      cases h
      exact .inl rfl
    | some x =>
      rw [hs] at h
      cases h
  | octets os =>
    rw [interval] at h
    cases hos : Binary64.ofOctets? os with
    | none =>
      rw [hos] at h
      cases h
      exact .inl rfl
    | some x =>
      rw [hos] at h
      cases h
  | _ => exact .inr (.other rfl nofun nofun)

theorem watcher_of_mistyped (h : Mistyped entry) : ∃ e, watcher entry = .error e ∧ Misfit e := by
  cases h with
  | path hmapping htype hpath =>
    have read : ((entry.entry? "type").getD (.str "file")).text? = .ok _ := Value.text?_of_hasText htype
    refine ⟨.pathNotText, ?_, by decide⟩
    unfold watcher
    rw [hmapping, read]
    generalize (entry.entry? "path").getD (.str ".") = path at hpath
    cases path <;> first | rfl | exact absurd rfl (hpath _)
  | interval hmapping htype hpath hinterval =>
    have read : ((entry.entry? "type").getD (.str "file")).text? = .ok _ := Value.text?_of_hasText htype
    obtain ⟨e, he, hmisfit⟩ := interval_of_noInterval hinterval
    refine ⟨e, ?_, hmisfit⟩
    unfold watcher
    rw [hmapping, read, hpath, he]
    rfl

theorem kind_of_watcher (h : watcher entry = .error e) : e.kind.isInvalid = true ∨ Mistyped entry := by
  unfold watcher at h
  cases hmapping : entry.isMapping with
  | false =>
    rw [hmapping] at h
    cases h
    exact .inl rfl
  | true =>
  rw [hmapping, Bool.not_true, if_neg Bool.false_ne_true] at h
  rcases bind_eq_error_iff.mp h with htype | ⟨type, htype, h⟩
  · obtain ⟨cause, -, rfl⟩ := mapError_eq_error_iff.mp htype
    exact .inl rfl
  have htype : (typeOf entry).hasText = true := (Value.text?_eq_ok_iff.mp (mapError_eq_ok_iff.mp htype)).1
  split at h
  · rename_i s hpath
    rcases bind_eq_error_iff.mp h with hinterval | ⟨x, -, h⟩
    · exact (kind_of_interval hinterval).imp_right (.interval hmapping htype hpath)
    · cases h
  · rename_i hpath
    exact .inr (.path hmapping htype hpath)

/-! ### Settings -/

/-- What comes of a mapping: its filter section is read, and then its watchers. -/
theorem ofValue_of_isMapping (h : data.isMapping = true) : ofValue data =
    ((Filter.ofSection (data.get "filter")).mapError .filter >>= fun filter =>
      match ((data.entry? "watchers").getD (.list [])).items? with
      | some entries => (entries.mapM watcher).map ({ filter, watchers := · })
      | none => .error .watchersNotList) := by
  unfold ofValue
  split
  · cases h
  · simp only [h, Bool.not_true, Bool.false_eq_true, if_false]
    refine congrArg (_ >>= ·) (funext fun filter => ?_)
    cases ((data.entry? "watchers").getD (.list [])).items? with
    | none => rfl
    | some entries => cases hentries : entries.mapM watcher <;> simp only [hentries] <;> rfl

theorem ofValue_of_reachesMistyped (h : ReachesMistyped data) : ∃ e, ofValue data = .error e ∧ Misfit e := by
  obtain ⟨before, entry, after, hwatching, hbefore, hentry⟩ := h
  obtain ⟨e, he, hmisfit⟩ := watcher_of_mistyped hentry
  obtain ⟨f, hf⟩ := hwatching.filter
  have refused : (before ++ entry :: after).mapM watcher = .error e :=
    mapM_eq_error.mpr ⟨before, entry, after, rfl, hbefore, he⟩
  refine ⟨e, ?_, hmisfit⟩
  rw [ofValue_of_isMapping hwatching.mapping, hf, hwatching.watchers]
  exact map_eq_error_iff.mpr refused

theorem kind_of_ofValue (h : ofValue data = .error e) : e.kind.isInvalid = true ∨ ReachesMistyped data := by
  cases hmapping : data.isMapping with
  | false =>
    unfold ofValue at h
    split at h
    · cases h
    · simp only [hmapping] at h
      cases h
      exact .inl rfl
  | true =>
  rw [ofValue_of_isMapping hmapping] at h
  rcases bind_eq_error_iff.mp h with hfilter | ⟨f, hfilter, h⟩
  · obtain ⟨cause, hcause, rfl⟩ := mapError_eq_error_iff.mp hfilter
    exact .inl (Filter.isInvalid_of_ofSection hcause)
  split at h
  · rename_i entries hwatchers
    obtain ⟨before, entry, after, rfl, hbefore, hentry⟩ := mapM_eq_error.mp (map_eq_error_iff.mp h)
    refine (kind_of_watcher hentry).imp_right fun hmistyped => ?_
    exact ⟨before, entry, after, ⟨hmapping, ⟨f, mapError_eq_ok_iff.mp hfilter⟩, hwatchers⟩, hbefore, hmistyped⟩
  · cases h
    exact .inl rfl

theorem kind_of_ofValue_iff (h : ofValue data = .error e) : e.kind.isInvalid = true ↔ ¬ ReachesMistyped data := by
  refine ⟨fun hinvalid hreaches => ?_, (kind_of_ofValue h).resolve_right⟩
  obtain ⟨e', he', hmisfit⟩ := ofValue_of_reachesMistyped hreaches
  cases h.symm.trans he'
  exact Bool.false_ne_true (hmisfit.not_isInvalid.symm.trans hinvalid)

end Settings

namespace Session
open Settings
variable {file : File} {text : List Char} {data : Value} {load : Loader}

theorem loadVia_of_loaded (hread : file.read = .ok text) (hload : load text = .ok data) :
    loadVia load file = (Settings.ofValue data).mapError .settings := by
  have step : loadVia load file = (file.read.mapError Failure.file >>= fun text =>
      (load text).mapError Failure.yaml >>= fun data => (Settings.ofValue data).mapError .settings) := rfl
  have loaded : loadVia load file =
      ((load text).mapError Failure.yaml >>= fun data => (Settings.ofValue data).mapError .settings) := by
    rw [step, hread]
    rfl
  rw [loaded, hload]
  rfl

/-- Where the text of the settings gives a value, settings that are refused are refused as an invalid value,
unless a mistyped entry for a watcher is reached; and where one is reached, they are refused as a wrong type or as
out of range. -/
theorem load_refuses_invalid_iff (hread : file.read = .ok text) (hload : load text = .ok data) :
    (∀ cause, loadVia load file = .error cause → (cause.kind.isInvalid = true ↔ ¬ ReachesMistyped data)) ∧
    (ReachesMistyped data →
      ∃ cause, loadVia load file = .error cause ∧ (cause.kind = .wrongType ∨ cause.kind = .outOfRange)) := by
  rw [loadVia_of_loaded hread hload]
  refine ⟨fun cause hcause => ?_, fun hreaches => ?_⟩
  · obtain ⟨e, he, rfl⟩ := mapError_eq_error_iff.mp hcause
    exact kind_of_ofValue_iff he
  · obtain ⟨e, he, hmisfit⟩ := ofValue_of_reachesMistyped hreaches
    exact ⟨.settings e, mapError_eq_error_iff.mpr ⟨e, he, rfl⟩, hmisfit⟩

/-- The entry for a watcher has an interval that spells no number. -/
theorem load_refuses_invalid_iff_spelled :
    let file : File := .regular ("watchers:\n  - interval: often\n".toList.map fun c => UInt8.ofNat c.toNat)
    ((loadVia Yaml.load file).map fun _ => ()) = .error (.settings (.badInterval "often")) ∧
      ∃ text data, file.read = .ok text ∧ Yaml.load text = .ok data ∧ ¬ ReachesMistyped data := by
  intro file
  have refused : ((loadVia Yaml.load file).map fun _ => ()) = .error (.settings (.badInterval "often")) := by
    decide +kernel
  have loaded : (file.read.toOption.any fun text => (Yaml.load text).isOk) = true := by decide +kernel
  refine ⟨refused, ?_⟩
  cases hread : file.read with
  | error e =>
    rw [hread] at loaded
    cases loaded
  | ok text =>
    rw [hread] at loaded
    have loaded : (Yaml.load text).isOk = true := loaded
    cases hload : Yaml.load text with
    | error e =>
      rw [hload] at loaded
      cases loaded
    | ok data =>
      cases hcause : loadVia Yaml.load file with
      | ok s =>
        rw [hcause] at refused
        cases refused
      | error cause =>
        rw [hcause] at refused
        cases refused
        exact ⟨text, data, rfl, hload, ((load_refuses_invalid_iff hread hload).1 _ hcause).mp rfl⟩

/-- The path of a watcher is a number: the settings are refused, and not as an invalid value. -/
theorem load_refuses_mistyped :
    let file : File := .regular ("watchers:\n  - path: 5\n".toList.map fun c => UInt8.ofNat c.toNat)
    (file.read.toOption.any fun text => (Yaml.load text).isOk) = true ∧
      ((loadVia Yaml.load file).map fun _ => ()) = .error (.settings .pathNotText) ∧
      (Failure.settings .pathNotText).kind.isInvalid = false := by
  decide +kernel

end Session

end ObjectWatch
