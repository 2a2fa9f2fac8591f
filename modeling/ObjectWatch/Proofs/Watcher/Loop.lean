import ObjectWatch.Proofs.Monitor.Heedless

/-! The polling loop, one step after the other. It tests whether it was told to stop, polls, and waits; a poll that
    fails does not end it but leaves a record. While it waits the file changes, and with the last change it is told
    to stop. So it comes to polls by hand with a change of the file after each, and handlers that do not go by the
    records of failed rounds are told the same if nothing is written down of a failure. -/

namespace ObjectWatch

/-- The records of a poll whose failure is swallowed: one if it failed. -/
def reported (note : Failure → Record) : Except Failure Unit → List Record
  | .ok _ => []
  | .error cause => [note cause]

namespace Monitor

/-- Swallows a failure and leaves a record of it. -/
def report (note : Failure → Record) (result : Except Failure Unit) (m : Monitor) : Monitor :=
  match result with
  | .ok _ => m
  | .error cause => m.write (.record (note cause))

section Report
variable {load : Loader} {note : Failure → Record} {result : Except Failure Unit} {level : Level} {source : Source}
  {message path : String} {file : File} {m : Monitor}

theorem report_journal : (m.report note result).journal = m.journal ++ (reported note result).map .record := by
  cases result with
  | ok _ => exact (List.append_nil _).symm
  | error cause => rfl

theorem report_handlers : (m.report note result).handlers = m.handlers := by
  cases result <;> rfl

theorem pollSafely_eq : pollSafely load level source message path file m =
    (pollVia load path file m).2.report (fun cause => { level, source, message, failure := some cause })
      (pollVia load path file m).1 := by
  unfold pollSafely
  split <;> rename_i h <;> rw [h] <;> rfl

end Report

end Monitor

/-- What the loop writes down of a poll that failed. -/
def failedRound (cause : Failure) : Record :=
  { level := .error, source := .file, message := Monitor.roundFailed, failure := some cause }

/-- How a poll ended, and what was written into the journal meanwhile. -/
structure Polled where
  result : Except Failure Unit
  written : List Entry

namespace Polled

def failure? (p : Polled) : Option Failure :=
  match p.result with
  | .ok _ => none
  | .error cause => some cause

/-- What a round of the loop writes: what the poll does, and one record if it failed. -/
def entries (p : Polled) : List Entry :=
  p.written ++ (reported failedRound p.result).map .record

end Polled

/-- As `WatchStep.perform`, with a record of each poll that fails. -/
def WatchStep.performReporting (load : Loader) (path : String) : WatchStep → File × Monitor → File × Monitor
  | change next, s => (next, s.2)
  | poll, s => (s.1, (Monitor.pollVia load path s.1 s.2).2.report failedRound (Monitor.pollVia load path s.1 s.2).1)

def watchReporting (load : Loader) (path : String) (steps : List WatchStep) (s : File × Monitor) : File × Monitor :=
  steps.foldl (fun s step => step.performReporting load path s) s

/-- The loop by hand: a poll, and then the file changes to the next of these states. -/
def rounds (contents : List File) : List WatchStep :=
  contents.flatMap fun next => [.poll, .change next]

/-! ### Steps of the loop -/

inductive Place where
  | test
  | wait

/-- The loop at a moment: where it is, whether it was told to stop, the states that the file has yet to take,
and the file and the monitor. -/
structure Loop where
  place : Place
  stopped : Bool
  coming : List File
  file : File
  monitor : Monitor

/-- What the loop does in one step. -/
inductive Act where
  | poll (p : Polled)
  | wait

def Act.entries : Act → List Entry
  | poll p => p.entries
  | wait => []

namespace Loop

/-- Only a loop without any round to make is told to stop from the start. -/
def start (contents : List File) (s : File × Monitor) : Loop :=
  ⟨.test, contents.isEmpty, contents, s.1, s.2⟩

def ended (s : File × Monitor) : Loop :=
  ⟨.test, true, [], s.1, s.2⟩

inductive Step (load : Loader) (path : String) : Loop → Act → Loop → Prop where
  | poll {coming : List File} {file : File} {m n : Monitor} {p : Polled}
    (polled : Monitor.pollVia load path file m = (p.result, n)) (written : n.journal = m.journal ++ p.written) :
    Step load path ⟨.test, false, coming, file, m⟩ (.poll p) ⟨.wait, false, coming, file, n.report failedRound p.result⟩
  | wait {stopped : Bool} {next file : File} {coming : List File} {m : Monitor} :
    Step load path ⟨.wait, stopped, next :: coming, file, m⟩ .wait ⟨.test, stopped || coming.isEmpty, coming, next, m⟩

/-- The loop runs to its end, which it comes to by the test alone. -/
inductive Runs (load : Loader) (path : String) : Loop → List Act → Loop → Prop where
  | stop {coming : List File} {file : File} {m : Monitor} :
    Runs load path ⟨.test, true, coming, file, m⟩ [] ⟨.test, true, coming, file, m⟩
  | step {s t u : Loop} {act : Act} {acts : List Act} (stepped : Step load path s act t)
    (run : Runs load path t acts u) : Runs load path s (act :: acts) u

section Run
variable {load : Loader} {path : String} {s t u : Loop} {act : Act} {acts : List Act} {contents coming : List File}
  {file : File} {m n : Monitor}

theorem Step.journal (h : Step load path s act t) : t.monitor.journal = s.monitor.journal ++ act.entries := by
  cases h with
  | poll polled written => exact Monitor.report_journal.trans (written ▸ List.append_assoc ..)
  | wait => exact (List.append_nil _).symm

/-- What a run writes is what its steps write, in their order. -/
theorem Runs.journal (h : Runs load path s acts u) :
    u.monitor.journal = s.monitor.journal ++ acts.flatMap Act.entries := by
  induction h with
  | stop => exact (List.append_nil _).symm
  | step stepped run ih => rw [ih, stepped.journal, List.flatMap_cons, List.append_assoc]

theorem runs_stopped : Runs load path ⟨.test, true, coming, file, m⟩ acts u ↔
    acts = [] ∧ u = ⟨.test, true, coming, file, m⟩ := by
  constructor
  · intro h
    cases h with
    | stop => exact ⟨rfl, rfl⟩
    | step stepped run => cases stepped
  · rintro ⟨rfl, rfl⟩
    exact .stop

/-- What the poll of a file comes to. -/
def polledAt (load : Loader) (path : String) (file : File) (m : Monitor) : Polled :=
  ⟨(Monitor.pollVia load path file m).1, (Monitor.pollVia load path file m).2.journal.drop m.journal.length⟩

theorem polledAt_written :
    (Monitor.pollVia load path file m).2.journal = m.journal ++ (polledAt load path file m).written := by
  have grown : Monitor.Grown (fun _ => True) m (Monitor.pollVia load path file m).2 := Monitor.poll_grows
  obtain ⟨new, hnew, -⟩ := grown.journal
  rw [polledAt, hnew, List.drop_left]

theorem polledAt_unique {p : Polled} (polled : Monitor.pollVia load path file m = (p.result, n))
    (written : n.journal = m.journal ++ p.written) : p = polledAt load path file m := by
  have hwritten := @polledAt_written load path file m
  rw [polled, written] at hwritten
  have hresult : p.result = (polledAt load path file m).result := (congrArg Prod.fst polled).symm
  cases p
  exact congrArg₂ Polled.mk hresult (List.append_cancel_left hwritten)

/-- A round of the loop is a poll and a wait. -/
theorem runs_round {next : File} : Runs load path ⟨.test, false, next :: coming, file, m⟩ acts u ↔
    ∃ rest, acts = .poll (polledAt load path file m) :: .wait :: rest ∧ Runs load path
      (start coming (next, Monitor.pollSafely load .error .file Monitor.roundFailed path file m)) rest u := by
  rw [Monitor.pollSafely_eq]
  constructor
  · intro h
    cases h with
    | step stepped run =>
      cases stepped with
      | poll polled written =>
        cases run with
        | step stepped run =>
          cases stepped with
          | wait =>
            obtain rfl := polledAt_unique polled written
            rw [polled]
            exact ⟨_, rfl, run⟩
  · rintro ⟨rest, rfl, run⟩
    exact .step (.poll rfl polledAt_written) (.step .wait run)

/-- What the polls of the loop come to. -/
def polls (load : Loader) (path : String) : List File → File → Monitor → List Polled
  | [], _, _ => []
  | next :: rest, file, m =>
    polledAt load path file m ::
      polls load path rest next (Monitor.pollSafely load .error .file Monitor.roundFailed path file m)

theorem polls_length : (polls load path contents file m).length = contents.length := by
  induction contents generalizing file m with
  | nil => rfl
  | cons next rest ih => exact congrArg (· + 1) ih

theorem runs_start : Runs load path (start contents (file, m)) acts u ↔
    acts = (polls load path contents file m).flatMap (fun p => [.poll p, .wait]) ∧
      u = ended (Monitor.watchVia load path contents file m).2 := by
  induction contents generalizing file m acts with
  | nil => exact runs_stopped
  | cons next rest ih =>
    refine runs_round.trans ⟨?_, ?_⟩
    · rintro ⟨acts, rfl, run⟩
      obtain ⟨rfl, rfl⟩ := ih.mp run
      exact ⟨rfl, rfl⟩
    · rintro ⟨rfl, rfl⟩
      exact ⟨_, rfl, ih.mpr ⟨rfl, rfl⟩⟩

theorem watch_journal : (Monitor.watchVia load path contents file m).2.2.journal =
    m.journal ++ (polls load path contents file m).flatMap Polled.entries := by
  have run : Runs load path (start contents (file, m)) _ _ := runs_start.mpr ⟨rfl, rfl⟩
  have round (p : Polled) : [Act.poll p, .wait].flatMap Act.entries = p.entries := List.append_nil _
  have written := run.journal
  simp only [List.flatMap_assoc, round] at written
  exact written

end Run

end Loop

/-! ### The loop by hand -/

/-- A journal that has one record of each of these failed rounds more than another. -/
inductive Interleaved : List Failure → List Entry → List Entry → Prop where
  | nil : Interleaved [] [] []
  | entry {causes : List Failure} {j k : List Entry} {e : Entry} (h : Interleaved causes j k) :
    Interleaved causes (j ++ [e]) (k ++ [e])
  | report {causes : List Failure} {j k : List Entry} {cause : Failure} (h : Interleaved causes j k) :
    Interleaved (causes ++ [cause]) j (k ++ [.record (failedRound cause)])

namespace Interleaved
variable {causes : List Failure} {j k : List Entry}

theorem refl : Interleaved [] j j := by
  induction j using List.reverseRecOn with
  | nil => exact .nil
  | append_singleton j e ih => exact .entry ih

theorem growing : Growing (Interleaved causes) :=
  fun _ _ _ => .entry

/-- What is read off a journal without its records is the same. -/
theorem filterMap_eq {α : Type} {p : Entry → Option α} (hp : ∀ r, p (.record r) = none) (h : Interleaved causes j k) :
    k.filterMap p = j.filterMap p := by
  induction h with
  | nil => rfl
  | entry h ih => rw [List.filterMap_append, List.filterMap_append, ih]
  | report h ih => rw [List.filterMap_append, ih, List.filterMap_cons_none (hp _), List.filterMap_nil, List.append_nil]

end Interleaved

/-- A handler that does not go by the records of failed rounds. -/
def Handler.Unreported (h : Handler) : Prop :=
  ∀ causes, h.Heedless (Interleaved causes)

/-- A watcher is as another one, apart from a record of each of these failed rounds. -/
structure SameButReports (causes : List Failure) (s t : File × Monitor) : Prop where
  file : t.1 = s.1
  cache : t.2.cache = s.2.cache
  published : t.2.published = s.2.published
  journal : Interleaved causes s.2.journal t.2.journal

namespace Loop
variable {load : Loader} {path : String} {contents : List File} {file : File} {m n : Monitor} {causes : List Failure}

theorem watch_waits : (Monitor.watchVia load path contents file m).1 = contents.length := by
  induction contents generalizing file m with
  | nil => rfl
  | cons next rest ih => exact congrArg (· + 1) ih

theorem watch_reporting :
    (Monitor.watchVia load path contents file m).2 = watchReporting load path (rounds contents) (file, m) := by
  induction contents generalizing file m with
  | nil => rfl
  | cons next rest ih =>
    have round : watchReporting load path (rounds (next :: rest)) (file, m) = watchReporting load path (rounds rest)
      (next, (Monitor.pollVia load path file m).2.report failedRound (polledAt load path file m).result) := rfl
    rw [round]
    exact Monitor.pollSafely_eq ▸ ih

/-- A failure that is swallowed leaves two monitors alike, with one more record between their journals. -/
theorem alike_report (hunreported : ∀ entry ∈ m.handlers, entry.2.Unreported) {p : Polled}
    (h : Monitor.Alike (Interleaved causes) m n) :
    Monitor.Alike (Interleaved (causes ++ p.failure?.toList)) m (n.report failedRound p.result) := by
  obtain ⟨result, written⟩ := p
  cases result with
  | ok _ => exact (List.append_nil causes).symm ▸ h
  | error cause => exact ⟨h.cache, h.handlers, h.journal.report, fun entry hentry => hunreported entry hentry _⟩

theorem watch_unreported (hunreported : ∀ entry ∈ m.handlers, entry.2.Unreported)
    (h : Monitor.Alike (Interleaved causes) m n) :
    SameButReports (causes ++ (polls load path contents file n).filterMap Polled.failure?)
      (watchAll load path (rounds contents) (file, m)) (Monitor.watchVia load path contents file n).2 := by
  -- The polls of the two begin with monitors that are alike, each with the failures before it in between.
  induction contents generalizing causes file m n with
  | nil =>
    exact ⟨rfl, h.cache, h.journal.filterMap_eq fun _ => rfl, (List.append_nil causes).symm ▸ h.journal⟩
  | cons next rest ih =>
    have polled : Monitor.SameEnd (Interleaved causes) (Monitor.pollVia load path file m)
        (Monitor.pollVia load path file n) :=
      Monitor.pollVia_alike Interleaved.growing h
    have hhandlers : (Monitor.pollVia load path file m).2.handlers = m.handlers := Monitor.poll_grows.handlers
    have hunreported' : ∀ entry ∈ (Monitor.pollVia load path file m).2.handlers, entry.2.Unreported :=
      hhandlers ▸ hunreported
    have swallowed := alike_report hunreported' (p := polledAt load path file n) polled.alike
    have failures : (polls load path (next :: rest) file n).filterMap Polled.failure? =
        (polledAt load path file n).failure?.toList ++ (polls load path rest next
          (Monitor.pollSafely load .error .file Monitor.roundFailed path file n)).filterMap Polled.failure? := by
      rw [polls, List.filterMap_cons]
      cases (polledAt load path file n).failure? <;> rfl
    rw [failures, ← List.append_assoc]
    exact ih hunreported' (Monitor.pollSafely_eq ▸ swallowed)

/-- From any state of a watcher the loop has one run, with a poll and a wait in turn for each state that the file
takes, and ends with what `watch` gives. It writes what the polls write and one record for each that fails, and it
comes to the polls and changes by hand where every failure is swallowed with such a record. If no handler goes by
these records, it comes to the same cache and the same published events as without them. Told to stop before the
first test, the loop does nothing. -/
theorem loop_polls_by_hand (load : Loader) (path : String) (contents : List File) (file : File) (m : Monitor) :
    (∃ polls : List Polled, polls.length = contents.length ∧
      (∀ acts u, Runs load path (start contents (file, m)) acts u ↔
        acts = polls.flatMap (fun p => [.poll p, .wait]) ∧ u = ended (Monitor.watchVia load path contents file m).2) ∧
      (Monitor.watchVia load path contents file m).2.2.journal = m.journal ++ polls.flatMap Polled.entries ∧
      ((∀ entry ∈ m.handlers, entry.2.Unreported) →
        SameButReports (polls.filterMap Polled.failure?) (watchAll load path (rounds contents) (file, m))
          (Monitor.watchVia load path contents file m).2)) ∧
    (Monitor.watchVia load path contents file m).1 = contents.length ∧
    (Monitor.watchVia load path contents file m).2 = watchReporting load path (rounds contents) (file, m) ∧
    ∀ acts u, Runs load path ⟨.test, true, contents, file, m⟩ acts u ↔
      acts = [] ∧ u = ⟨.test, true, contents, file, m⟩ := by
  refine ⟨⟨polls load path contents file m, polls_length, fun _ _ => runs_start, watch_journal, fun hunreported => ?_⟩,
    watch_waits, watch_reporting, fun _ _ => runs_stopped⟩
  exact watch_unreported hunreported ⟨rfl, rfl, .refl, fun entry hentry => hunreported entry hentry []⟩

/-- A handler fails on the first object, and then the file is no text, and then a directory. -/
theorem loop_polls_by_hand_failing :
    let octets (text : String) : List UInt8 := text.toList.map fun c => UInt8.ofNat c.toNat
    let listing : File := .regular (octets "- metadata:\n    name: a\n- metadata:\n    name: b\n")
    let m := Monitor.fresh (.filter .null) [("map", .silent), ("bad", Monitor.failingOn ⟨"", "a"⟩)]
    let contents : List File := [.regular [0xff], .directory, .missing]
    let s := (Monitor.watch "objects" contents listing m).2
    (∃ causes, SameButReports causes (watchAll Yaml.load "objects" (rounds contents) (listing, m)) s) ∧
      (s.2.journal.filterMap Entry.record?).filterMap Record.failure =
        [.handler "handler failed", .file .notUtf8, .file .isDirectory] ∧
      Table.keys s.2.cache.tracked = [⟨"", "a"⟩, ⟨"", "b"⟩] := by
  intro octets listing m contents s
  have unreported : ∀ entry ∈ m.handlers, entry.2.Unreported := by
    refine List.forall_mem_cons.mpr ⟨?_, List.forall_mem_singleton.mpr ?_⟩ <;> exact fun _ _ _ _ _ _ => rfl
  obtain ⟨⟨polls, -, -, -, same⟩, -⟩ := loop_polls_by_hand Yaml.load "objects" contents listing m
  exact ⟨⟨_, same unreported⟩, by decide +kernel, by decide +kernel⟩

end Loop

end ObjectWatch
