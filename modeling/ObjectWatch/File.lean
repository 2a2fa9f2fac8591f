import ObjectWatch.Text.Utf8

/-!
Files as they are found at one moment, and the text that is read off them.
-/

namespace ObjectWatch

/-- What there is under a path. -/
inductive File where
  | missing
  | directory
  | regular (octets : List UInt8)
  deriving DecidableEq, Repr, Inhabited

/-- Why a file cannot be read as text. -/
inductive FileError where
  | notFound
  | isDirectory
  | notUtf8
  deriving DecidableEq, Repr

namespace File

/-- The text of a file, with every line end a line feed. -/
def read : File → Except FileError (List Char)
  | missing => .error .notFound
  | directory => .error .isDirectory
  | regular octets => match Text.decodeUtf8? octets with
    | some cs => .ok (Text.normalizeLines cs)
    | none => .error .notUtf8

end File

end ObjectWatch
