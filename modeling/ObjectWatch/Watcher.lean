import ObjectWatch.Monitor

/-!
Watching a file: a poll reads the file as it is found and gives its objects to the cache. A file that is
missing, is no YAML or holds no listing leaves the cache as it is; what else goes wrong ends the poll with a
failure. The polling loop logs such failures and goes on. What the value of a text is, is left to a loader.
-/

namespace ObjectWatch

/-- Gives the value of a text, or why there is none. -/
abbrev Loader := List Char → Except Yaml.Error Value

namespace Monitor

def logLeftOut (items : List Value) (m : Monitor) : Monitor :=
  (Listing.skippedOf items).foldl (fun m s => m.log .debug .file s.message) m

/-- Makes objects of items, one after the other. An item that is no mapping, or an invalid value as a manifest, is
logged and left out; any other failure ends it. -/
def gather : List Value → Operation (List Value)
  | [], m => (.ok [], m)
  | item :: rest, m => match Listing.objectOf item with
    | .ok object =>
      let (result, m) := gather rest m
      (result.map (object :: ·), m)
    | .error (.notMapping item) => gather rest (m.log .debug .file (Listing.Skipped.notMapping item).message)
    | .error (.refused cause) =>
      if cause.kind.isInvalid then gather rest (m.log .debug .file (Listing.Skipped.refused cause).message)
      else (.error (.manifest cause), m)

/-- The objects that a payload holds. -/
def extract (payload : Value) : Operation (List Value) := fun m =>
  match Listing.items payload with
  | .error cause => (.error (.listing cause), m)
  | .ok items => gather items m

/-- Takes the objects of a payload in. A payload that is an invalid value is logged and makes no difference. -/
def takeIn (path : String) (payload : Value) : Operation Unit := fun m =>
  match extract payload m with
  | (.ok objects, m) => sync objects m
  | (.error cause, m) =>
    if cause.kind.isInvalid then
      (.ok (), m.log .warning .file ("invalid objects file " ++ path ++ ": " ++ cause.message))
    else (.error cause, m)

section Loading
variable (load : Loader)

/-- A poll where `load` gives the value of a text. -/
def pollVia (path : String) (file : File) : Operation Unit := fun m =>
  match file.read with
  | .error .notFound => (.ok (), m.log .debug .file ("objects file " ++ path ++ " does not exist yet"))
  | .error cause => (.error (.file cause), m)
  | .ok text => match load text with
    | .error .malformed =>
      (.ok (), m.log .warning .file ("failed to parse objects file " ++ path ++ ": <yaml>"))
    | .error cause => (.error (.yaml cause), m)
    | .ok payload => takeIn path payload m

def pollSafely (level : Level) (source : Source) (message path : String) (file : File) (m : Monitor) :
    Monitor :=
  match pollVia load path file m with
  | (.ok (), m) => m
  | (.error cause, m) => m.write (.record { level, source, message, failure := some cause })

def roundFailed : String := "file watcher encountered an error"

/-- The polling loop: a poll and then a wait, during which the file changes to the next of the given states,
until these are used up. Gives the number of waits, the last state and the monitor. -/
def watchVia (path : String) : List File → File → Monitor → Nat × File × Monitor
  | [], file, m => (0, file, m)
  | next :: rest, file, m =>
    let m := pollSafely load .error .file roundFailed path file m
    let (waits, file, m) := watchVia path rest next m
    (waits + 1, file, m)

end Loading

end Monitor

end ObjectWatch
