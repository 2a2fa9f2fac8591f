/-!
Why a text yields no value.
-/

namespace ObjectWatch.Yaml

/-- Why the text of a scalar yields no value of its type. -/
inductive ScalarError where
  | noSuchMoment
  | noInteger
  | noDouble (s : String)
  | emptyNumber
  | noBool
  | noTimestamp
  /-- A mapping with a default value in the place of a day or moment. -/
  | notText
  deriving DecidableEq, Repr

inductive Error where
  /-- It is not well formed, or holds what has no value. -/
  | malformed
  /-- An escape names no character by this number. -/
  | noSuchCharacter (code : Nat)
  | scalar (cause : ScalarError)
  deriving DecidableEq, Repr

end ObjectWatch.Yaml
