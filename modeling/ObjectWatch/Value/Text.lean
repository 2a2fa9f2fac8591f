import ObjectWatch.Number.Decimal
import ObjectWatch.Number.Shortest
import ObjectWatch.Value.Equality

/-!
The texts of a value. `Value.text` is the plain one, in which a text stands as it is; `Value.literal`
quotes texts and is used for the parts of a collection. `Value.label` is the text that a label or
selector value has: truth values in lower case and nothing for null.

These three write out every integer. The program does not: asked for the text of a value that has an integer
with too many digits in it, it fails. `Value.text?`, `Value.label?` and `Value.labelTable?` give what it gets.
-/

namespace ObjectWatch

/-- Why a value has no text. -/
inductive TextError where
  /-- An integer in it has more digits than are written. -/
  | tooManyDigits
  deriving DecidableEq, Repr

def TextError.message : TextError → String
  | tooManyDigits =>
    "Exceeds the limit (" ++ toString Decimal.mostDigits ++ " digits) for integer string conversion; "
      ++ "use sys.set_int_max_str_digits() to increase the limit"

namespace Value

def boolText (b : Bool) : String :=
  if b then "True" else "False"

/-- What a collection shows where it stands inside itself. -/
def knotText : Value → String
  | mapping _ => "\x7b...\x7d"
  | _ => "[...]"

mutual

/-- The quoted text, where the collections of the labels `inside` are being written. -/
def literalIn (inside : List (Nat × String)) : Value → String
  | null => "None"
  | bool b => boolText b
  | int i => toString i
  | float x => x.text
  | str s => Text.quoted s
  | octets os => Text.quotedOctets os
  | list items => "[" ++ literalItems inside items ++ "]"
  | tuple [v] => "(" ++ literalIn inside v ++ ",)"
  | tuple items => "(" ++ literalItems inside items ++ ")"
  | mapping entries => "\x7b" ++ literalEntries inside entries ++ "\x7d"
  | set [] => "set()"
  | set members => "\x7b" ++ literalItems inside members ++ "\x7d"
  | day d => d.literal
  | moment t => t.literal
  | identity n => n.literal
  | record fields => "namespace(" ++ literalFields inside fields ++ ")"
  | metadata name ns labels =>
    "ObjectMeta(name=" ++ literalIn inside name ++ ", namespace=" ++ literalIn inside ns
      ++ ", labels=mappingproxy(\x7b" ++ literalEntries inside labels ++ "\x7d))"
  | object name ns labels kind =>
    "Object(metadata=ObjectMeta(name=" ++ literalIn inside name ++ ", namespace=" ++ literalIn inside ns
      ++ ", labels=mappingproxy(\x7b" ++ literalEntries inside labels ++ "\x7d)), kind="
      ++ literalIn inside kind ++ ")"
  | service name ns labels kind selector =>
    "Service(metadata=ObjectMeta(name=" ++ literalIn inside name ++ ", namespace=" ++ literalIn inside ns
      ++ ", labels=mappingproxy(\x7b" ++ literalEntries inside labels ++ "\x7d)), kind="
      ++ literalIn inside kind ++ ", selector=mappingproxy(\x7b" ++ literalEntries inside selector
      ++ "\x7d))"
  | sealed shown _ => shown
  | knot label body =>
    match inside.find? (fun open' => open'.1 == label) with
    | some open' => open'.2
    | none => literalIn ((label, knotText body) :: inside) body
  | enclosing label => ((inside.find? fun open' => open'.1 == label).map (·.2)).getD "[...]"

def literalItems (inside : List (Nat × String)) : List Value → String
  | [] => ""
  | [v] => literalIn inside v
  | v :: rest => literalIn inside v ++ ", " ++ literalItems inside rest

def literalEntries (inside : List (Nat × String)) : List (Value × Value) → String
  | [] => ""
  | [(k, v)] => literalIn inside k ++ ": " ++ literalIn inside v
  | (k, v) :: rest =>
    literalIn inside k ++ ": " ++ literalIn inside v ++ ", " ++ literalEntries inside rest

/-- The attributes of an object; one without a name is not shown. -/
def literalFields (inside : List (Nat × String)) : List (String × Value) → String
  | [] => ""
  | (k, v) :: rest =>
    let shown := if k = "" then "" else k ++ "=" ++ literalIn inside v
    let more := literalFields inside rest
    if shown = "" then more else if more = "" then shown else shown ++ ", " ++ more

end

def literal (v : Value) : String :=
  literalIn [] v

def text : Value → String
  | str s => s
  | identity n => n.text
  | day d => d.text
  | moment t => t.text
  | v => v.literal

def label : Value → String
  | bool b => if b then "true" else "false"
  | null => ""
  | v => v.text

/-- The entries of a mapping in text form, none for any other value. Of keys with the same text the last
one gives the value. -/
def labelTable (v : Value) : List (Value × Value) :=
  Table.ofPairs ((v.entries?.getD []).map fun entry => (str entry.1.text, str entry.2.label))

/-! ### Values without a text -/

mutual

/-- Whether a value has a text: whether every integer that is written in it has one. -/
def hasText : Value → Bool
  | int i => Decimal.fits i
  | list items | tuple items | set items => hasTextItems items
  | mapping entries => hasTextEntries entries
  | record fields => hasTextFields fields
  | metadata name ns labels => hasText name && hasText ns && hasTextEntries labels
  | object name ns labels kind => hasText name && hasText ns && hasTextEntries labels && hasText kind
  | service name ns labels kind selector =>
    hasText name && hasText ns && hasTextEntries labels && hasText kind && hasTextEntries selector
  | knot _ body => hasText body
  | _ => true

def hasTextItems : List Value → Bool
  | [] => true
  | v :: rest => hasText v && hasTextItems rest

def hasTextEntries : List (Value × Value) → Bool
  | [] => true
  | (k, v) :: rest => hasText k && hasText v && hasTextEntries rest

/-- An attribute without a name is not written. -/
def hasTextFields : List (String × Value) → Bool
  | [] => true
  | (k, v) :: rest => (k == "" || hasText v) && hasTextFields rest

end

def text? (v : Value) : Except TextError String :=
  if v.hasText then .ok v.text else .error .tooManyDigits

def label? (v : Value) : Except TextError String :=
  if v.hasText then .ok v.label else .error .tooManyDigits

/-- All keys and values of a mapping have texts. -/
def entriesHaveTexts (v : Value) : Bool :=
  hasTextEntries (v.entries?.getD [])

def labelTable? (v : Value) : Except TextError (List (Value × Value)) :=
  if v.entriesHaveTexts then .ok v.labelTable else .error .tooManyDigits

end Value

end ObjectWatch
