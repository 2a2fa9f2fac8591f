import ObjectWatch.Filter

/-!
Filters written as configuration sections: a mapping with a `type` and, as the type asks, a `match` or a
list of `names`. `Filter.ofSection` reads a section and `Filter.toSection` writes one.
-/

namespace ObjectWatch

/-- Why a section is refused. -/
inductive SectionError where
  | notMapping
  | unsupported (type : String)
  | matchNotMapping
  | matchNotScalar (key : String)
  | namesNotList
  | badName (cause : IdentityError)
  /-- What reading the names failed with, if it was no invalid value. -/
  | names (cause : IdentityError)
  /-- The type, or a part of the match, has no text. -/
  | text (cause : TextError)
  deriving DecidableEq, Repr

namespace SectionError

def message : SectionError → String
  | notMapping => "filter section must be a mapping"
  | unsupported type => "unsupported filter type '" ++ type ++ "'"
  | matchNotMapping => "filter 'match' must be a mapping"
  | matchNotScalar key => "filter 'match' value for '" ++ key ++ "' must be a scalar"
  | namesNotList => "filter 'names' must be a list"
  | badName cause => cause.message
  | names _ | text _ => ""

/-- Sections are refused as such, but only where a fault is looked for: a missing text is not. -/
def kind : SectionError → Failure.Kind
  | names cause => cause.kind
  | text _ => .invalidValue
  | notMapping | unsupported _ | matchNotMapping | matchNotScalar _ | namesNotList | badName _ => .invalidSection

/-- What is wrong with a section of which the names cannot be read. -/
def ofNames (cause : IdentityError) : SectionError :=
  if cause.kind.isInvalid then badName cause else names cause

end SectionError

namespace Filter

/-- The types that a section may name. -/
inductive Variant where
  | null
  | all
  | labels
  | serviceFor
  | names
  deriving DecidableEq, Repr

namespace Variant

def name : Variant → String
  | null => "null"
  | all => "all"
  | labels => "labels"
  | serviceFor => "service_for"
  | names => "nsname"

/-- Case is ignored in the name of a type, and `-` stands for `_`. All names are ASCII, and no other
character becomes one of their letters in lower case. -/
def canonical (s : String) : String :=
  String.ofList (s.toList.map fun c => if c = '-' then '_' else c.toLower)

def ofName? (s : String) : Option Variant :=
  [null, all, labels, serviceFor, names].find? fun variant => variant.name == canonical s

end Variant

/-- A pair of a match in text form. -/
def renderPair (pair : Value × Value) : Except SectionError (Value × Value) := do
  let key ← pair.1.text?.mapError .text
  if pair.2.isMapping || pair.2.isList then .error (.matchNotScalar key)
  else
    let label ← pair.2.label?.mapError .text
    .ok (.str key, .str label)

/-- The target that a match gives; of keys with the same text the last one gives the value. -/
def targetOf (entries : List (Value × Value)) : Except SectionError (List (Value × Value)) :=
  (entries.mapM renderPair).map Table.ofPairs

/-- The target that a section gives: its match, empty where there is none. -/
def sectionTarget (sec : Value) : Except SectionError (List (Value × Value)) :=
  match (sec.entry? "match").getD .null with
  | .null => .ok []
  | v => match v.entries? with
    | some entries => targetOf entries
    | none => .error .matchNotMapping

/-- The filter of the identities that the texts of some values spell. All texts are made before any is read. -/
def ofTexts (items : List Value) : Except IdentityError Filter :=
  match items.mapM Value.text? with
  | .ok texts => ofIdentities (texts.map .str)
  | .error cause => .error (.text cause)

/-- The identities that a section lists, each given by its text. -/
def sectionNames (sec : Value) : Except SectionError Filter :=
  match ((sec.entry? "names").getD (.list [])).items? with
  | some items => (ofTexts items).mapError .ofNames
  | none => .error .namesNotList

def ofVariant (sec : Value) : Variant → Except SectionError Filter
  | .null => .ok null
  | .all => .ok all
  | .labels => (sectionTarget sec).map labels
  | .serviceFor => (sectionTarget sec).map serviceFor
  | .names => sectionNames sec

/-- The filter that a section describes; a section that does not count as given describes the filter that
passes everything. -/
def ofSection (sec : Value) : Except SectionError Filter :=
  if !sec.truthy then .ok null
  else if !sec.isMapping then .error .notMapping
  else match ((sec.entry? "type").getD (.str Variant.null.name)).text? with
    | .error cause => .error (.text cause)
    | .ok type => match Variant.ofName? type with
      | some variant => ofVariant sec variant
      | none => .error (.unsupported (sec.get "type").text)

def toSection : Filter → Value
  | null => sectionOf .null []
  | all => sectionOf .all []
  | labels target => sectionOf .labels [(.str "match", .mapping target)]
  | serviceFor target => sectionOf .serviceFor [(.str "match", .mapping target)]
  | names ids => sectionOf .names [(.str "names", .list (ids.map fun id => .str id.text))]
where
  sectionOf (variant : Variant) (entries : List (Value × Value)) : Value :=
    .mapping ((.str "type", .str variant.name) :: entries)

end Filter

end ObjectWatch
