import ObjectWatch.Filter.Config
import ObjectWatch.Number.Reading
import ObjectWatch.Path

/-!
The settings of the program: a filter, and the files to watch with the type of watcher and the interval of
each.
-/

namespace ObjectWatch

inductive SettingsError where
  | notMapping
  | filter (cause : SectionError)
  | watchersNotList
  | watcherNotMapping
  /-- The type of a watcher has no text. -/
  | text (cause : TextError)
  | pathNotText
  /-- A text that spells no number. -/
  | badInterval (s : String)
  /-- Octets that spell no number. -/
  | badOctets (os : List UInt8)
  | intervalTooLarge
  | intervalNotNumber
  deriving DecidableEq, Repr

namespace SettingsError

def notNumberMessage (shown : String) : String :=
  "could not convert string to float: " ++ shown

def message : SettingsError → String
  | notMapping => "Watch configuration must be a mapping"
  | filter cause => cause.message
  | watchersNotList => "'watchers' section must be a list"
  | watcherNotMapping => "watcher entries must be mappings"
  | badInterval s => notNumberMessage (Text.quoted s)
  | badOctets os => notNumberMessage (Text.quotedOctets os)
  | text _ | pathNotText | intervalTooLarge | intervalNotNumber => ""

def kind : SettingsError → Failure.Kind
  | filter cause => cause.kind
  | pathNotText | intervalNotNumber => .wrongType
  | intervalTooLarge => .outOfRange
  | notMapping | watchersNotList | watcherNotMapping | text _ | badInterval _ | badOctets _ => .invalidValue

end SettingsError

structure WatcherSettings where
  type : String
  path : Path
  interval : Binary64
  deriving DecidableEq, Repr

structure Settings where
  filter : Filter
  watchers : List WatcherSettings

namespace Settings

def interval : Value → Except SettingsError Binary64
  | .bool b => .ok (.ofRatio false (if b then 1 else 0) 1)
  | .int i => (Binary64.ofInt? i).elim (.error .intervalTooLarge) .ok
  | .float x => .ok x
  | .str s => (Binary64.ofText? s).elim (.error (.badInterval s)) .ok
  | .octets os => (Binary64.ofOctets? os).elim (.error (.badOctets os)) .ok
  | _ => .error .intervalNotNumber

/-- The seconds between two polls unless the settings say otherwise. -/
def defaultInterval : Value :=
  .float (.ofRatio false 5 1)

def watcher (entry : Value) : Except SettingsError WatcherSettings :=
  if !entry.isMapping then .error .watcherNotMapping
  else do
    let type ← ((entry.entry? "type").getD (.str "file")).text?.mapError .text
    match (entry.entry? "path").getD (.str ".") with
    | .str path =>
      let interval ← interval ((entry.entry? "interval").getD defaultInterval)
      .ok { type, path := Path.ofText path, interval }
    | _ => .error .pathNotText

/-- The settings that a value describes; null describes the default ones. -/
def ofValue (data : Value) : Except SettingsError Settings :=
  let data := match data with
    | .null => Value.mapping []
    | v => v
  if !data.isMapping then .error .notMapping
  else do
    let filter ← (Filter.ofSection (data.get "filter")).mapError .filter
    match ((data.entry? "watchers").getD (.list [])).items? with
    | some entries => .ok { filter, watchers := ← entries.mapM watcher }
    | none => .error .watchersNotList

end Settings

end ObjectWatch
