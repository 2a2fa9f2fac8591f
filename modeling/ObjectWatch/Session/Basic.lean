import ObjectWatch.Arguments
import ObjectWatch.Watcher

/-!
A run of the program: the settings are read, every file is polled once, and unless that is all that was asked
for the program waits until it is stopped. What the value of a text is, is left to a loader.
-/

namespace ObjectWatch

inductive Ending where
  /-- It was told to stop before it began to wait. -/
  | preset
  | signal (number : Nat)
  | interrupt
  deriving DecidableEq, Repr

inductive Outcome where
  | exit (code : Nat)
  | failed (cause : Failure)
  deriving DecidableEq, Repr

/-- The files of the working directory under their normal paths. -/
abbrev Files := List (Path × File)

namespace Files

/-- What there is at a place. The directories above the files, the working directory and those above it
exist. -/
def entry (fs : Files) (root : String) (parts : List String) : File :=
  match fs.find? (·.1 == ⟨root, parts⟩) with
  | some (_, file) => file
  | none =>
    if parts.all (· == "..") || fs.any fun other =>
      other.2 != .missing && other.1.root == root && parts.isPrefixOf other.1.parts then .directory
    else .missing

/-- Follows the parts of a path from a place, through directories only. -/
def walk (fs : Files) (root : String) : List String → List String → Option (List String)
  | place, [] => some place
  | place, part :: rest =>
    if fs.entry root place ≠ .directory then none
    else if part ≠ ".." then walk fs root (place ++ [part]) rest
    else if place.getLast?.any (· ≠ "..") then walk fs root place.dropLast rest
    else if root = "" then walk fs root (place ++ [part]) rest
    else walk fs root place rest

def find (fs : Files) (p : Path) : File :=
  match fs.walk p.root [] p.parts with
  | some parts => fs.entry p.root parts
  | none => .missing

end Files

namespace Session

def handlerName : String := "log"

/-- What the watchers of a run have in common: the handlers, to which each of their caches publishes, and the
journal. -/
structure Shared where
  handlers : List (String × Handler)
  journal : List Entry

/-- A cache of its own for each watcher, with the handlers of all. -/
def Shared.monitor (c : Shared) (s : Settings) : Monitor :=
  { Monitor.fresh (.filter s.filter) c.handlers with journal := c.journal }

/-- What a watcher leaves to the others. -/
def Shared.after (m : Monitor) : Shared :=
  { handlers := m.handlers, journal := m.journal }

def firstPoll (load : Loader) (s : Settings) (w : WatcherSettings) (file : File) (c : Shared) : Monitor :=
  (c.monitor s).pollSafely load .error .program
    ("initial poll failed for watcher " ++ w.path.text) w.path.text file

def fileWatcher : String := "file"

/-- Polls watchers with their files one after the other, up to the first watcher of another type. -/
def pollAll (load : Loader) (s : Settings) : List (WatcherSettings × File) → Shared → Option Failure × Shared
  | [], c => (none, c)
  | (w, file) :: rest, c =>
    if w.type ≠ fileWatcher then (some (.unsupportedWatcher w.type), c)
    else pollAll load s rest (.after (firstPoll load s w file c))

/-- The record of a message of the program itself. -/
def said (level : Level) (message : String) : Entry :=
  .record { level, source := .program, message }

def idling (s : Settings) : List Entry :=
  if s.watchers.isEmpty then [said .warning "no watchers configured; watcher will idle"] else []

def waiting (s : Settings) (ending : Ending) : List Entry :=
  idling s
    ++ (match ending with
      | .signal number => [said .info ("received signal " ++ toString number ++ ", shutting down")]
      | .preset | .interrupt => [])
    ++ [said .info "kcache watcher stopped"]

def loadVia (load : Loader) (file : File) : Except Failure Settings := do
  let text ← file.read.mapError .file
  let data ← (load text).mapError .yaml
  (Settings.ofValue data).mapError .settings

/-- What the watchers of a run begin with: the handler that logs, and the record of the filter. -/
def start (s : Settings) : Shared :=
  { handlers := [(handlerName, .logging)], journal := [said .info ("using filter " ++ s.filter.literal)] }

/-- Runs with settings and the files of its watchers up to the point where the program would wait. -/
def startWith (load : Loader) (s : Settings) (files : List (WatcherSettings × File)) : Option Failure × Shared :=
  pollAll load s files (start s)

def runWith (load : Loader) (a : Arguments) (fs : Files) (ending : Ending) : Outcome × List Entry :=
  match loadVia load (fs.find (Path.ofText a.config)) with
  | .error cause => (.failed cause, [])
  | .ok s => match startWith load s (s.watchers.map fun w => (w, fs.find w.path)) with
    | (some cause, c) => (.failed cause, c.journal)
    | (none, c) => (.exit 0, if a.once then c.journal else c.journal ++ waiting s ending)

def isShown (verbose : Bool) (r : Record) : Bool :=
  verbose || r.level ≠ .debug

def shown (verbose : Bool) (journal : List Entry) : List Record :=
  (journal.filterMap Entry.record?).filter (isShown verbose)

/-- Runs the program: how it ends, and the log records that it shows. -/
def runVia (load : Loader) (args : List String) (fs : Files) (ending : Ending) : Outcome × List Record :=
  match Arguments.parse args with
  | .error .help => (.exit 0, [])
  | .error .usage => (.exit 2, [])
  | .ok a =>
    let (outcome, journal) := runWith load a fs ending
    (outcome, shown a.verbose journal)

end Session

end ObjectWatch
