import ObjectWatch.File
import ObjectWatch.Filter.Config
import ObjectWatch.Listing
import ObjectWatch.Settings
import ObjectWatch.Yaml.Error

/-!
Everything that an operation can fail with, its kind, and its wording where it has one of its own.
-/

namespace ObjectWatch

/-- Why an operation failed. -/
inductive Failure where
  | identity (cause : IdentityError)
  | target (cause : TargetError)
  | manifest (cause : ManifestError)
  | filter (cause : SectionError)
  | listing (cause : ListingError)
  | settings (cause : SettingsError)
  | yaml (cause : Yaml.Error)
  | file (cause : FileError)
  | access (cause : AccessError)
  /-- A value that holds nothing to go through was given for a listing. -/
  | notIterable
  | handlerTaken (name : String)
  | notEvent (className : String)
  | unsupportedWatcher (type : String)
  | handler (said : String)
  /-- Handlers changed the filter from inside one another without an end. -/
  | nestedTooDeep
  deriving DecidableEq, Repr

namespace Failure

def scalarKind : Yaml.ScalarError → Kind
  | .noSuchMoment | .noInteger | .noDouble _ => .invalidValue
  | .emptyNumber => .noIndex
  | .noBool => .noKey
  | .noTimestamp => .noAttribute
  | .notText => .wrongType

/-- The numbers below this one count as codes of characters, whether there is one of that code or not. -/
def codeLimit : Nat := Nat.pow 2 31

def kind : Failure → Kind
  | identity cause => cause.kind
  | target .noPairs => .wrongType
  | target .notPair => .invalidValue
  | manifest cause => cause.kind
  | filter cause => cause.kind
  | listing cause => cause.kind
  | settings cause => cause.kind
  | yaml .malformed => .malformedText
  | yaml (.noSuchCharacter code) => if code < codeLimit then .invalidValue else .outOfRange
  | yaml (.scalar cause) => scalarKind cause
  | file .notFound => .notFound
  | file .isDirectory => .isDirectory
  | file .notUtf8 => .undecodable
  | access cause => cause.kind
  | notIterable => .wrongType
  | handlerTaken _ => .invalidValue
  | notEvent _ => .wrongType
  | unsupportedWatcher _ => .invalidValue
  | handler _ => .running
  | nestedTooDeep => .nesting

def message : Failure → String
  | identity cause => cause.message
  | manifest (.text _) => ""
  | manifest cause => cause.message
  | filter cause => cause.message
  | listing cause => cause.message
  | settings cause => cause.message
  | yaml (.scalar (.noDouble s)) => SettingsError.notNumberMessage (Text.quoted s)
  | handlerTaken name => "handler '" ++ name ++ "' already registered"
  | notEvent className => "Unsupported event type: <class '" ++ className ++ "'>"
  | unsupportedWatcher type => "unsupported watcher type '" ++ type ++ "'"
  | handler said => said
  | target _ | yaml _ | file _ | access _ | notIterable | nestedTooDeep => ""

end Failure

end ObjectWatch
