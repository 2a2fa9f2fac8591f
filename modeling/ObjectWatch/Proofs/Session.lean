import ObjectWatch.Proofs.Filter.Grammar
import ObjectWatch.Proofs.Watcher.Loop
import ObjectWatch.Session

/-! Runs of the program with several watchers. Each watcher is polled first with a cache of its own and the handlers
    of all, which no poll changes, and the handler that logs does not go by the journal; so a watcher logs what it
    would log alone, whatever the others do, fail with or leave behind. A change of one file shows only in the records
    of the watchers that read it. -/

namespace ObjectWatch

/-! ### Files -/

namespace Files

/-- Puts a file in a place, instead of what is there. The directories that are there stay. -/
def change (p : Path) (file : File) (fs : Files) : Files :=
  (p, file) :: fs

/-- The directories in which a file is to lie are there. -/
def Housed (fs : Files) (p : Path) : Prop :=
  ∀ k < p.parts.length, fs.entry p.root (p.parts.take k) = .directory

instance (fs : Files) (p : Path) : Decidable (fs.Housed p) :=
  inferInstanceAs (Decidable (∀ k < p.parts.length, fs.entry p.root (p.parts.take k) = .directory))

/-- A path does not lead to the place that is changed, nor through it while there is a directory. -/
structure Elsewhere (fs : Files) (p : Path) (file : File) (path : Path) : Prop where
  ends : path.root = p.root → fs.walk path.root [] path.parts ≠ some p.parts
  passes : ∀ k < path.parts.length, path.root = p.root → fs.walk path.root [] (path.parts.take k) = some p.parts →
    fs.entry p.root p.parts ≠ .directory ∧ file ≠ .directory

/-- Where one part leads from a place. -/
def next (root : String) (place : List String) (part : String) : List String :=
  if part ≠ ".." then place ++ [part]
  else if place.getLast?.any (· ≠ "..") then place.dropLast
  else if root = "" then place ++ [part]
  else place

/-- There is something under a path below these parts. -/
def liesBelow (root : String) (parts : List String) (other : Path × File) : Bool :=
  other.2 != .missing && other.1.root == root && parts.isPrefixOf other.1.parts

section Change
variable {fs : Files} {p path : Path} {file : File} {root part : String} {place parts rest : List String}

theorem walk_cons : fs.walk root place (part :: rest) =
    if fs.entry root place ≠ .directory then none else fs.walk root (next root place part) rest := by
  rw [walk, next]
  split_ifs <;> rfl

theorem entry_of_find {other : Path × File} (h : fs.find? (·.1 == ⟨root, parts⟩) = some other) :
    fs.entry root parts = other.2 := by
  unfold entry
  rw [h]

theorem entry_of_not_find (h : fs.find? (·.1 == ⟨root, parts⟩) = none) :
    fs.entry root parts =
      if parts.all (· == "..") || fs.any (liesBelow root parts) then .directory else .missing := by
  unfold entry
  rw [h]
  rfl

theorem entry_change_self : (fs.change p file).entry p.root p.parts = file :=
  entry_of_find (List.find?_cons_of_pos (beq_self_eq_true p))

theorem entry_change_of_ne (hhoused : fs.Housed p) (hne : p ≠ ⟨root, parts⟩) :
    (fs.change p file).entry root parts = fs.entry root parts := by
  have later : (fs.change p file).find? (·.1 == ⟨root, parts⟩) = fs.find? (·.1 == ⟨root, parts⟩) :=
    List.find?_cons_of_neg (by simpa using hne)
  cases hfind : fs.find? (·.1 == ⟨root, parts⟩) with
  | some other => rw [entry_of_find hfind, entry_of_find (later.trans hfind)]
  | none =>
    rw [entry_of_not_find (later.trans hfind), entry_of_not_find hfind, change, List.any_cons]
    cases hbelow : liesBelow root parts (p, file) with
    | false => rw [Bool.false_or]
    | true =>
      -- What the place is changed to lies in this one, which is a directory already.
      simp only [liesBelow, Bool.and_eq_true, bne_iff_ne, beq_iff_eq, List.isPrefixOf_iff_prefix] at hbelow
      obtain ⟨⟨-, rfl⟩, hbegins⟩ := hbelow
      have shorter : parts.length < p.parts.length := by
        refine lt_of_le_of_ne hbegins.length_le fun h => hne ?_
        rw [hbegins.eq_of_length h]
      have directory := hhoused parts.length shorter
      rw [← List.prefix_iff_eq_take.mp hbegins] at directory
      rw [entry_of_not_find hfind] at directory
      rw [directory, Bool.true_or, Bool.or_true, if_pos rfl]

/-- A change of a file leaves ways as they are that do not pass it where it is a directory. -/
theorem walk_change (hhoused : fs.Housed p)
    (hpasses : ∀ k < parts.length, root = p.root → fs.walk root place (parts.take k) = some p.parts →
      fs.entry p.root p.parts ≠ .directory ∧ file ≠ .directory) :
    (fs.change p file).walk root place parts = fs.walk root place parts := by
  induction parts generalizing place with
  | nil => rfl
  | cons part rest ih =>
    rw [walk_cons, walk_cons]
    by_cases hp : p = ⟨root, place⟩
    · -- There is no way on from here, neither before the change nor after it.
      subst hp
      obtain ⟨hbefore, hafter⟩ := hpasses 0 (Nat.zero_lt_succ _) rfl rfl
      rw [if_pos hbefore, if_pos]
      exact entry_change_self.trans_ne hafter
    · rw [entry_change_of_ne hhoused hp]
      split
      · rfl
      · rename_i hdirectory
        refine ih fun k hk hroot hwalk => hpasses (k + 1) (Nat.succ_lt_succ hk) hroot ?_
        rw [List.take_succ_cons, walk_cons, if_neg hdirectory]
        exact hwalk

/-- Who reads another file finds it as it was. -/
theorem find_change (hhoused : fs.Housed p) (h : fs.Elsewhere p file path) :
    (fs.change p file).find path = fs.find path := by
  rw [find, find, walk_change hhoused h.passes]
  cases hwalk : fs.walk path.root [] path.parts with
  | none => rfl
  | some parts =>
    refine entry_change_of_ne hhoused ?_
    rintro rfl
    exact h.ends rfl hwalk

end Change

end Files

/-! ### Watchers -/

namespace Session

/-- The record of a first poll that failed. -/
def failedPoll (w : WatcherSettings) (cause : Failure) : Record :=
  { level := .error, source := .program, message := "initial poll failed for watcher " ++ w.path.text,
    failure := some cause }

/-- The poll of a watcher alone. -/
def pollAlone (load : Loader) (s : Settings) (w : WatcherSettings) (file : File) : Except Failure Unit × Monitor :=
  Monitor.pollVia load w.path.text file (Monitor.fresh (.filter s.filter) [(handlerName, .logging)])

/-- What a watcher logs when it is polled alone, and one record if the poll fails. -/
def pollRecords (load : Loader) (verbose : Bool) (s : Settings) (w : WatcherSettings) (file : File) : List Record :=
  shown verbose (pollAlone load s w file).2.journal ++ reported (failedPoll w) (pollAlone load s w file).1

/-- The record with which a run of the program begins. -/
def usingFilter (s : Settings) : Record :=
  { level := .info, source := .program, message := "using filter " ++ s.filter.literal }

section Watchers
variable {load : Loader} {s : Settings} {w : WatcherSettings} {file : File} {verbose : Bool} {c : Shared}
  {j k : List Entry} {before rest : List WatcherSettings} {files : List (WatcherSettings × File)}
  {find : WatcherSettings → File}

theorem shown_append : shown verbose (j ++ k) = shown verbose j ++ shown verbose k := by
  unfold shown
  rw [List.filterMap_append, List.filter_append]

theorem shown_reported {result : Except Failure Unit} :
    shown verbose ((reported (failedPoll w) result).map .record) = reported (failedPoll w) result := by
  cases result with
  | ok _ => rfl
  | error cause => exact List.filter_cons_of_pos (Bool.or_true _)

theorem firstPoll_eq : firstPoll load s w file c = (Monitor.pollVia load w.path.text file (c.monitor s)).2.report
    (failedPoll w) (Monitor.pollVia load w.path.text file (c.monitor s)).1 :=
  Monitor.pollSafely_eq

/-- A first poll leaves the handlers of all watchers alone, whether it fails or not. -/
theorem firstPoll_handlers : (firstPoll load s w file c).handlers = c.handlers := by
  have polled : (Monitor.pollVia load w.path.text file (c.monitor s)).2.handlers = c.handlers :=
    Monitor.poll_grows.handlers
  rw [firstPoll_eq, Monitor.report_handlers, polled]

/-- So do the first polls of all watchers, one after the other. -/
theorem pollAll_handlers : (pollAll load s files c).2.handlers = c.handlers := by
  induction files generalizing c with
  | nil => rfl
  | cons entry rest ih =>
    rw [pollAll]
    split
    · rfl
    · exact ih.trans firstPoll_handlers

/-- What was written before has no part in a first poll, which writes what the poll alone writes. -/
theorem shown_firstPoll (hc : c.handlers = [(handlerName, .logging)]) :
    shown verbose (firstPoll load s w file c).journal =
      shown verbose c.journal ++ pollRecords load verbose s w file := by
  have growing : Growing fun j k => k = c.journal ++ j := by
    rintro j k e rfl
    exact List.append_assoc ..
  have alike : Monitor.Alike (fun j k => k = c.journal ++ j)
      (Monitor.fresh (.filter s.filter) [(handlerName, .logging)]) (c.monitor s) :=
    ⟨rfl, hc, (List.append_nil _).symm, List.forall_mem_singleton.mpr fun _ _ _ _ _ => rfl⟩
  have polled : Monitor.SameEnd (fun j k => k = c.journal ++ j) (pollAlone load s w file)
    (Monitor.pollVia load w.path.text file (c.monitor s)) := Monitor.pollVia_alike growing alike
  rw [firstPoll_eq, Monitor.report_journal, polled.alike.journal, polled.result, shown_append, shown_append,
    shown_reported, List.append_assoc, pollRecords]

/-- The first watchers of a list are polled one after the other if they are of the right type, and each of them finds
the handlers that the first one found. -/
theorem pollAll_append (hbefore : ∀ w ∈ before, w.type = fileWatcher) (hc : c.handlers = [(handlerName, .logging)]) :
    ∃ c', pollAll load s ((before ++ rest).map fun w => (w, find w)) c =
        pollAll load s (rest.map fun w => (w, find w)) c' ∧
      shown verbose c'.journal =
        shown verbose c.journal ++ before.flatMap fun w => pollRecords load verbose s w (find w) := by
  induction before generalizing c with
  | nil => exact ⟨c, rfl, (List.append_nil _).symm⟩
  | cons w before ih =>
    obtain ⟨hw, hrest⟩ := List.forall_mem_cons.mp hbefore
    have hnext : (Shared.after (firstPoll load s w (find w) c)).handlers = [(handlerName, .logging)] :=
      firstPoll_handlers.trans hc
    obtain ⟨c', hpoll, hshown⟩ := ih hrest hnext
    refine ⟨c', ?_, ?_⟩
    · rw [List.cons_append, List.map_cons, pollAll, if_neg (not_not_intro hw)]
      exact hpoll
    · have first : shown verbose (Shared.after (firstPoll load s w (find w) c)).journal = _ := shown_firstPoll hc
      rw [hshown, first, List.flatMap_cons, List.append_assoc]

/-- The program begins with the record of the filter, and then the first watchers are polled. -/
theorem startWith_append (hbefore : ∀ w ∈ before, w.type = fileWatcher) :
    ∃ c, startWith load s ((before ++ rest).map fun w => (w, find w)) =
        pollAll load s (rest.map fun w => (w, find w)) c ∧
      shown verbose c.journal = usingFilter s :: before.flatMap fun w => pollRecords load verbose s w (find w) := by
  obtain ⟨c, hpoll, hshown⟩ := @pollAll_append load s verbose (start s) before rest find hbefore rfl
  have first : shown verbose (start s).journal = [usingFilter s] := List.filter_cons_of_pos (Bool.or_true _)
  exact ⟨c, hpoll, hshown.trans (congrArg (· ++ _) first)⟩

end Watchers

section Runs
variable {load : Loader} {args : List String} {a : Arguments} {fs : Files} {ending : Ending} {s : Settings}
  {w : WatcherSettings} {before after : List WatcherSettings}

section Loaded
variable (hargs : Arguments.parse args = .ok a) (hload : loadVia load (fs.find (Path.ofText a.config)) = .ok s)
include hargs hload

theorem run_file_watchers (honce : a.once = true) (hfile : ∀ w ∈ s.watchers, w.type = fileWatcher) :
    runVia load args fs ending =
      (.exit 0, usingFilter s :: s.watchers.flatMap fun w => pollRecords load a.verbose s w (fs.find w.path)) := by
  obtain ⟨c, hstart, hshown⟩ :=
    @startWith_append load s a.verbose s.watchers [] (fun w => fs.find w.path) hfile
  rw [List.append_nil] at hstart
  unfold runVia runWith
  simp only [hargs, hload, hstart, List.map_nil, pollAll, honce, if_true, hshown]

theorem run_other_watcher (hwatchers : s.watchers = before ++ w :: after)
    (hbefore : ∀ v ∈ before, v.type = fileWatcher) (hw : w.type ≠ fileWatcher) :
    runVia load args fs ending = (.failed (.unsupportedWatcher w.type),
      usingFilter s :: before.flatMap fun v => pollRecords load a.verbose s v (fs.find v.path)) := by
  obtain ⟨c, hstart, hshown⟩ :=
    @startWith_append load s a.verbose before (w :: after) (fun w => fs.find w.path) hbefore
  rw [← hwatchers, List.map_cons, pollAll, if_pos hw] at hstart
  unfold runVia runWith
  simp only [hargs, hload, hstart, hshown]

end Loaded

/-- Where the settings can be loaded and every watcher is of the type that there is, the program polls each once
and exits with 0, and it logs its filter and then, watcher by watcher, what each logs when it is polled alone. If
one file that is not the settings changes, the watchers that read other files log what they did, and the program
exits with 0 as before. The first watcher of another type ends the program, as an invalid value that is named, after
the records of those before it. -/
theorem run_isolates_watchers (hargs : Arguments.parse args = .ok a)
    (hload : loadVia load (fs.find (Path.ofText a.config)) = .ok s) :
    (a.once = true → (∀ w ∈ s.watchers, w.type = fileWatcher) →
      runVia load args fs ending =
        (.exit 0, usingFilter s :: s.watchers.flatMap fun w => pollRecords load a.verbose s w (fs.find w.path)) ∧
      ∀ p file, fs.Housed p → fs.Elsewhere p file (Path.ofText a.config) → ∃ records : WatcherSettings → List Record,
        runVia load args (fs.change p file) ending = (.exit 0, usingFilter s :: s.watchers.flatMap records) ∧
        ∀ w, fs.Elsewhere p file w.path → records w = pollRecords load a.verbose s w (fs.find w.path)) ∧
    ∀ before w after, s.watchers = before ++ w :: after → (∀ v ∈ before, v.type = fileWatcher) →
      w.type ≠ fileWatcher → ∃ cause, runVia load args fs ending = (.failed cause,
          usingFilter s :: before.flatMap fun v => pollRecords load a.verbose s v (fs.find v.path)) ∧
        cause.kind = .invalidValue ∧ cause.message = "unsupported watcher type '" ++ w.type ++ "'" := by
  refine ⟨fun honce hfile => ⟨run_file_watchers hargs hload honce hfile, fun p file hhoused hconfig => ?_⟩,
    fun before w after hwatchers hbefore hw => ⟨_, run_other_watcher hargs hload hwatchers hbefore hw, rfl, rfl⟩⟩
  refine ⟨fun w => pollRecords load a.verbose s w ((fs.change p file).find w.path), ?_, fun w hw => ?_⟩
  · rw [← Files.find_change hhoused hconfig] at hload
    exact run_file_watchers hargs hload honce hfile
  · exact congrArg (pollRecords load a.verbose s w) (Files.find_change hhoused hw)

/-- Two watchers share a file, and the file of the one between them stops being a directory and is then no text. In
the other settings the second watcher is of another type. -/
theorem run_isolates_watchers_shared :
    let octets (text : String) : List UInt8 := text.toList.map fun c => UInt8.ofNat c.toNat
    let listing : File := .regular (octets "- metadata:\n    name: a\n")
    let files (settings : String) : Files :=
      [(⟨"", ["watch"]⟩, .regular (octets settings)), (⟨"", ["a"]⟩, listing), (⟨"", ["b"]⟩, .directory)]
    let shared := files "watchers:\n- path: a\n- path: b\n- path: ./a\n"
    let other := files "watchers:\n- path: a\n- type: api\n"
    let args := ["--once", "--config", "watch"]
    (∃ s records, runVia Yaml.load args (shared.change ⟨"", ["b"]⟩ (.regular [0xff])) .preset =
        (.exit 0, usingFilter s :: s.watchers.flatMap records) ∧
      ∀ w, w.path = ⟨"", ["a"]⟩ → records w = pollRecords Yaml.load false s w listing) ∧
    ∃ s w cause, runVia Yaml.load args other .preset =
      (.failed cause, usingFilter s :: pollRecords Yaml.load false s w listing) ∧
        cause.message = "unsupported watcher type 'api'" := by
  intro octets listing files shared other args
  have parsed : Arguments.parse args = .ok ⟨"watch", false, true⟩ := by decide +kernel
  constructor
  · have loaded : ((loadVia Yaml.load (shared.find (Path.ofText "watch"))).map fun s =>
        s.watchers.all (·.type = fileWatcher)) = .ok true := by
      decide +kernel
    obtain ⟨s, hload, hfile⟩ := map_eq_ok_iff.mp loaded
    obtain ⟨-, changed⟩ := (run_isolates_watchers parsed hload).1 rfl (by simpa using hfile)
    obtain ⟨records, hrun, hsame⟩ :=
      changed ⟨"", ["b"]⟩ (.regular [0xff]) (by decide +kernel) ⟨by decide +kernel, by decide +kernel⟩
    refine ⟨s, records, hrun, fun w hw => (hsame w ?_).trans (by rw [hw]; rfl)⟩
    rw [hw]
    exact ⟨by decide +kernel, by decide +kernel⟩
  · have loaded : ((loadVia Yaml.load (other.find (Path.ofText "watch"))).map fun s =>
        s.watchers.map fun w => (w.type, w.path)) = .ok [("file", ⟨"", ["a"]⟩), ("api", ⟨"", []⟩)] := by
      decide +kernel
    obtain ⟨s, hload, hwatchers⟩ := map_eq_ok_iff.mp loaded
    obtain ⟨w, after, hs, hw, hafter⟩ := List.map_eq_cons_iff.mp hwatchers
    obtain ⟨v, after, rfl, hv, -⟩ := List.map_eq_cons_iff.mp hafter
    obtain ⟨-, hpath⟩ := Prod.mk.inj hw
    obtain ⟨htype, -⟩ := Prod.mk.inj hv
    obtain ⟨cause, hrun, -, hmessage⟩ := (run_isolates_watchers parsed hload).2 [w] v after hs
      (List.forall_mem_singleton.mpr (congrArg Prod.fst hw)) (by rw [htype]; decide)
    refine ⟨s, w, cause, hrun.trans ?_, hmessage.trans ?_⟩
    · rw [List.flatMap_singleton, hpath]
      rfl
    · rw [htype]
      rfl

end Runs

end Session

end ObjectWatch
