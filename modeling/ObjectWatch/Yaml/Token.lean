/-!
The tokens of a text. Indentation is made explicit: a block collection begins with a token of its own and
ends with `blockEnd`, and a key that is recognised only by the `:` after it still has `key` before it.
-/

namespace ObjectWatch.Yaml

/-- What a line that starts with `%` declares. -/
inductive Directive where
  | version (major : Nat)
  | handle (name : String) (expansion : String)
  | other
  deriving DecidableEq, Repr

inductive Token where
  | directive (d : Directive)
  | documentStart
  | documentEnd
  | blockSequence
  | blockMapping
  | blockEnd
  | flowSequence
  | flowSequenceEnd
  | flowMapping
  | flowMappingEnd
  | blockEntry
  | flowEntry
  | key
  | value
  | alias (name : String)
  | anchor (name : String)
  /-- A tag: a suffix, after the expansion of a handle if there is one. -/
  | tag (handle : Option String) (suffix : String)
  /-- The text of a scalar, and whether it stood there without quotes or indicator. -/
  | scalar (text : String) (plain : Bool)
  deriving DecidableEq, Repr

end ObjectWatch.Yaml
