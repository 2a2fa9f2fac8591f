/-!
What is wrong in general with what failed. Whoever goes on after a failure goes by this, not by the cause: a
listing goes on after an invalid value, and no further than that.
-/

namespace ObjectWatch.Failure

/-- What is wrong in general. -/
inductive Kind where
  | invalidValue
  /-- A section of the settings that describes no filter; an invalid value. -/
  | invalidSection
  /-- Octets that are no text; an invalid value. -/
  | undecodable
  | wrongType
  | noAttribute
  | outOfRange
  | noKey
  | noIndex
  | malformedText
  | notFound
  | isDirectory
  | running
  | nesting
  deriving DecidableEq, Repr

def Kind.isInvalid : Kind → Bool
  | .invalidValue | .invalidSection | .undecodable => true
  | _ => false

end ObjectWatch.Failure
