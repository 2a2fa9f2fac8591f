/-!
Paths in their normal form: parts between slashes, without empty parts and without `.`; `..` stays. A path
that begins with exactly two slashes keeps both.
-/

namespace ObjectWatch

/-- A path: the slashes in front and the parts. -/
structure Path where
  root : String
  parts : List String
  deriving DecidableEq, Repr, Inhabited

namespace Path

def split : List Char → List (List Char)
  | [] => [[]]
  | '/' :: rest => [] :: split rest
  | c :: rest => match split rest with
    | part :: parts => (c :: part) :: parts
    | [] => [[c]]

def ofText (s : String) : Path :=
  let cs := s.toList
  let slashes := (cs.takeWhile (· = '/')).length
  let root := if slashes = 0 then "" else if slashes = 2 then "//" else "/"
  { root, parts := ((split cs).map String.ofList).filter fun part => part ≠ "" && part ≠ "." }

def text (p : Path) : String :=
  let s := p.root ++ "/".intercalate p.parts
  if s = "" then "." else s

end Path

end ObjectWatch
