import ObjectWatch.Failure.Kind
import ObjectWatch.Resource

/-!
Turning a decoded manifest into a typed object, all of whose fields are texts. Names, namespaces and kinds
take their plain text, labels and selectors their label text; a part of another shape than expected counts
as empty, except for the metadata and the name, without which a manifest is refused. So is one with a part that
has no text.
-/

namespace ObjectWatch

/-- Why asking a value for what it does not offer fails. -/
inductive AccessError where
  | missing
  /-- It has, but the attribute is data. -/
  | notCallable
  deriving DecidableEq, Repr

def AccessError.kind : AccessError → Failure.Kind
  | missing => .noAttribute
  | notCallable => .wrongType

/-- Why calling an attribute fails: no value offers one that can be called. -/
def Value.callError (v : Value) (key : String) : AccessError :=
  if (v.attribute? key).isSome then .notCallable else .missing

inductive ManifestError where
  /-- It is no mapping. -/
  | access (cause : AccessError)
  | noMetadata
  | noName
  | text (cause : TextError)
  deriving DecidableEq, Repr

namespace ManifestError

def message : ManifestError → String
  | access _ => ""
  | noMetadata => "manifest missing 'metadata' mapping"
  | noName => "manifest metadata missing 'name'"
  | text cause => cause.message

def kind : ManifestError → Failure.Kind
  | access cause => cause.kind
  | noMetadata | noName | text _ => .invalidValue

end ManifestError

/-- The typed object with the parts of a manifest in text form. -/
def Value.typedObject (manifest : Value) : Except TextError Value := do
  let metadata := manifest.get "metadata"
  let name ← (metadata.get "name").text?
  let ns ← ((metadata.get "namespace").orElse (.str "")).text?
  let labels ← (metadata.get "labels").labelTable?
  let kind ← ((manifest.get "kind").orElse (.str "")).text?
  if kind = serviceKind then
    let spec := manifest.get "spec"
    let selector ← if spec.isMapping then (spec.get "selector").labelTable? else .ok []
    .ok (.service (.str name) (.str ns) labels (.str serviceKind) selector)
  else .ok (.object (.str name) (.str ns) labels (.str kind))

def Value.ofManifest (manifest : Value) : Except ManifestError Value :=
  if !manifest.isMapping then .error (.access (manifest.callError "get"))
  else
    let metadata := manifest.get "metadata"
    if !metadata.isMapping then .error .noMetadata
    else if !(metadata.get "name").truthy then .error .noName
    else manifest.typedObject.mapError .text

end ObjectWatch
