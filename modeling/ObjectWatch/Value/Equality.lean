import ObjectWatch.Value.Basic

/-!
Equality of values. `v == w` is equality as the members of a collection see it, the one that keys and
nested values are compared by; `Value.equal` is equality of two values on their own. They differ in one
case: no number is never equal to itself, but inside a collection the same one is found again.
Numbers are equal by what they count (`1`, `1.0` and `true` are one key), mappings whatever the order of
their entries, and values of two other kinds never.
-/

namespace ObjectWatch.Value

/-- What a value counts, if it is a number or a truth value. -/
def number? : Value → Option (Int ⊕ Binary64)
  | bool b => some (.inl (if b then 1 else 0))
  | int i => some (.inl i)
  | float x => some (.inr x)
  | _ => none

def sameNumber : Int ⊕ Binary64 → Int ⊕ Binary64 → Bool
  | .inl i, .inl j => i == j
  | .inl i, .inr y => y.equalInt i
  | .inr x, .inl j => x.equalInt j
  | .inr x, .inr y => x.equal y || x == y

def sameAtom : Value → Value → Bool
  | null, null => true
  | str s, str t => s == t
  | octets a, octets b => a == b
  | day d, day e => d == e
  | moment t, moment u => t.equal u
  | identity n, identity m => n == m
  | sealed _ a, sealed _ b => a == b
  | enclosing a, enclosing b => a == b
  | knot a _, knot b _ => a == b
  | v, w => match v.number?, w.number? with
    | some x, some y => sameNumber x y
    | _, _ => false

mutual

/-- Equality inside a collection. -/
def same : Value → Value → Bool
  | list xs, list ys => sameItems xs ys
  | tuple xs, tuple ys => sameItems xs ys
  | mapping es, mapping fs => es.length == fs.length && sameEntries fs es
  | set xs, set ys => xs.length == ys.length && sameMembers ys xs
  | record es, record fs => es.length == fs.length && sameFields fs es
  | metadata name ns labels, metadata name' ns' labels' =>
    same name name' && same ns ns' && (labels.length == labels'.length && sameEntries labels' labels)
  | object name ns labels kind, object name' ns' labels' kind' =>
    same name name' && same ns ns' && (labels.length == labels'.length && sameEntries labels' labels)
      && same kind kind'
  | service name ns labels kind selector, service name' ns' labels' kind' selector' =>
    same name name' && same ns ns' && (labels.length == labels'.length && sameEntries labels' labels)
      && same kind kind' && (selector.length == selector'.length && sameEntries selector' selector)
  | v, w => sameAtom v w
termination_by structural v => v

def sameItems : List Value → List Value → Bool
  | [], [] => true
  | x :: xs, y :: ys => same x y && sameItems xs ys
  | _, _ => false
termination_by structural vs => vs

/-- Whether every member of a list is found among the members `ys`. -/
def sameMembers (ys : List Value) : List Value → Bool
  | [] => true
  | x :: rest => (ys.any fun y => same x y) && sameMembers ys rest
termination_by structural vs => vs

/-- Whether every entry of a list is found among the entries `fs`. -/
def sameEntries (fs : List (Value × Value)) : List (Value × Value) → Bool
  | [] => true
  | (k, v) :: rest =>
    (match fs.find? (fun f => same k f.1) with
      | some f => same v f.2
      | none => false) && sameEntries fs rest
termination_by structural es => es

/-- Whether every attribute of a list is found among the attributes `fs`. -/
def sameFields (fs : List (String × Value)) : List (String × Value) → Bool
  | [] => true
  | (k, v) :: rest =>
    (match fs.find? (fun f => k == f.1) with
      | some f => same v f.2
      | none => false) && sameFields fs rest
termination_by structural es => es

end

instance : BEq Value := ⟨same⟩

/-- Equality of two values on their own. -/
def equal (v w : Value) : Bool :=
  !v.isNan && v == w

/-- The entry at a key, null where there is none, of a mapping, or the attribute of that name. -/
def get (v : Value) (key : String) : Value :=
  match v.entries? with
  | some entries => (Table.get? (str key) entries).getD null
  | none => (v.attribute? key).getD null

def entry? (v : Value) (key : String) : Option Value :=
  v.entries?.bind (Table.get? (str key))

mutual

/-- Whether a value may be a member of a set: lists, mappings, sets and what holds one may not. -/
def hashable : Value → Bool
  | tuple items => hashableItems items
  | list _ | mapping _ | set _ | record _ | metadata .. | object .. | service .. | knot .. | enclosing _ => false
  | _ => true

def hashableItems : List Value → Bool
  | [] => true
  | v :: rest => hashable v && hashableItems rest

end

end ObjectWatch.Value
