import ObjectWatch.Session

/-!
The program on the files of the system. It decides nothing itself: files are read as they are found and given
to a session, and the records of the session are written to standard error.
-/

namespace ObjectWatch.Program

/-- The word for a level, filled up to eight characters. -/
def levelText : Level → String
  | .debug => "DEBUG   "
  | .info => "INFO    "
  | .warning => "WARNING "
  | .error => "ERROR   "

def sourceText : Source → String
  | .cache => "cache"
  | .handlers => "handlers"
  | .file => "file"
  | .program => "program"

def line (r : Record) : String :=
  let failure := match r.failure with
    | some cause => if cause.message = "" then "" else ": " ++ cause.message
    | none => ""
  levelText r.level ++ " | " ++ sourceText r.source ++ " | " ++ r.message ++ failure

def usage : String :=
  "usage: objectwatch [-h] [--config CONFIG] [--verbose] [--once]"

/-- The whole milliseconds of a number of seconds. -/
def milliseconds : Binary64 → Nat
  | .finite false units => units * 1000 / Nat.pow 2 1074
  | .infinite false => Nat.pow 2 31
  | _ => 0

def readFile (path : Path) : IO File := do
  try
    let place ← IO.FS.realPath path.text
    if ← place.isDir then pure .directory
    else pure (.regular (← IO.FS.readBinFile place).toList)
  catch _ => pure .missing

def write (verbose : Bool) (journal : List Entry) : IO Unit := do
  for r in Session.shown verbose journal do
    IO.eprintln (line r)

partial def keepPolling (verbose : Bool) (w : WatcherSettings) (m : Monitor) : IO Unit := do
  let file ← readFile w.path
  let m := { m with journal := [] }.pollSafely Yaml.load .error .file Monitor.roundFailed w.path.text file
  write verbose m.journal
  IO.sleep (UInt32.ofNat (milliseconds w.interval))
  keepPolling verbose w m

partial def idle : IO Unit := do
  IO.sleep 1000
  idle

def fail (cause : Failure) : IO UInt32 := do
  IO.eprintln (if cause.message = "" then "failed" else "failed: " ++ cause.message)
  pure 1

def run (a : Arguments) : IO UInt32 := do
  match Session.load (← readFile (Path.ofText a.config)) with
  | .error cause => fail cause
  | .ok s =>
    let files ← s.watchers.mapM fun w => do pure (w, ← readFile w.path)
    let (failure, shared) := Session.startWith Yaml.load s files
    write a.verbose shared.journal
    match failure with
    | some cause => fail cause
    | none =>
      if !a.once then
        write a.verbose (Session.idling s)
        for (w, file) in files do
          discard (IO.asTask (keepPolling a.verbose w (Session.firstPoll Yaml.load s w file shared)))
        idle
      pure 0

end ObjectWatch.Program

/-- Watches the files that the settings name. -/
def main (args : List String) : IO UInt32 := do
  match ObjectWatch.Arguments.parse args with
  | .error .help =>
    IO.println ObjectWatch.Program.usage
    pure 0
  | .error .usage =>
    IO.eprintln ObjectWatch.Program.usage
    pure 2
  | .ok a => ObjectWatch.Program.run a
