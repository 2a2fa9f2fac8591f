import ObjectWatch.Text.Quoted

/-!
Identities of objects: a namespace, empty for cluster-wide objects, and a name. The text of an identity
is `namespace/name`, or the bare name; identities are ordered by namespace and then by name, by code
point.
-/

namespace ObjectWatch

/-- What an object is addressed by; `ns` is its namespace. -/
structure Identity where
  ns : String
  name : String
  deriving DecidableEq, Repr, Inhabited

namespace Identity

/-- The identity that a text spells: at most one `/`, with something after it. -/
def parse? (s : String) : Option Identity :=
  let cs := s.toList
  match cs.dropWhile (· ≠ '/') with
  | [] => if cs.isEmpty then none else some ⟨"", s⟩
  | _ :: name =>
    if name.isEmpty || name.contains '/' then none
    else some ⟨String.ofList (cs.takeWhile (· ≠ '/')), String.ofList name⟩

def text (n : Identity) : String :=
  if n.ns = "" then n.name else n.ns ++ "/" ++ n.name

/-- The text of an identity with both parts named and quoted. -/
def literal (n : Identity) : String :=
  "NSName(namespace=" ++ Text.quoted n.ns ++ ", name=" ++ Text.quoted n.name ++ ")"

/-- By namespace, then by name. -/
def before (a b : Identity) : Bool :=
  decide (a.ns < b.ns) || (a.ns == b.ns && decide (a.name < b.name))

def insertSorted (n : Identity) : List Identity → List Identity
  | [] => [n]
  | m :: rest => if m.before n then m :: insertSorted n rest else n :: m :: rest

/-- The identities of a list in order, each as often as it occurs. -/
def sorted (ns : List Identity) : List Identity :=
  ns.foldr insertSorted []

/-- The identities of a list, each once, at its first place. -/
def distinct : List Identity → List Identity
  | [] => []
  | n :: rest => n :: (distinct rest).filter (· ≠ n)

end Identity

end ObjectWatch
