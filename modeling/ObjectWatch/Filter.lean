import ObjectWatch.Failure.Kind
import ObjectWatch.Resource

/-!
Filters: which objects pass, and when two filters are equal. A labels filter asks that the object carry
its target; a service filter turns the inclusion round and asks that the target carry the selector of a
service; a names filter lists identities.
-/

namespace ObjectWatch

/-- Whether every pair of `required` is among the entries of `current`. -/
def isSubset (required current : List (Value × Value)) : Bool :=
  required.all fun pair =>
    match Table.get? pair.1 current with
    | some value => value.equal pair.2
    | none => false

/-- A filter that can be compared with another. -/
inductive Filter where
  /-- Passes every object. -/
  | null
  /-- Passes none. -/
  | all
  /-- Passes objects whose labels include the target. -/
  | labels (target : List (Value × Value))
  /-- Passes services whose selector is not empty and included in the target, which is not empty. -/
  | serviceFor (target : List (Value × Value))
  /-- Passes objects of the given identities. -/
  | names (ids : List Identity)
  deriving Inhabited

namespace Filter

def accept : Filter → Value → Bool
  | null, _ => true
  | all, _ => false
  | labels target, v => target.isEmpty || isSubset target v.labels
  | serviceFor target, v =>
    match v.selector? with
    | some selector => !selector.isEmpty && !target.isEmpty && isSubset selector target
    | none => false
  | names ids, v =>
    match v.identity? with
    | some id => ids.contains id
    | none => false

/-- What comes of asking a filter about a value: as `accept`, if all that the filter has to read has a text. -/
def verdict : Filter → Value → Except TextError Bool
  | null, _ => .ok true
  | all, _ => .ok false
  | labels target, v => if target.isEmpty then .ok true else v.readLabels.map (isSubset target)
  | serviceFor target, v => v.readSelector.map fun selector? => match selector? with
    | some selector => !selector.isEmpty && !target.isEmpty && isSubset selector target
    | none => false
  | names ids, v => v.readIdentity.map fun id? => match id? with
    | some id => ids.contains id
    | none => false

/-- The same variant with the same content. -/
def equals : Filter → Filter → Bool
  | null, null => true
  | all, all => true
  | labels t, labels u => t.length == u.length && isSubset t u
  | serviceFor t, serviceFor u => Value.mapping t == Value.mapping u
  | names a, names b => a.all b.contains && b.all a.contains
  | _, _ => false

def target? : Filter → Option (List (Value × Value))
  | labels target | serviceFor target => some target
  | _ => none

/-- The identities of a names filter, each once and in order. -/
def ids? : Filter → Option (List Identity)
  | names ids => some (Identity.sorted (Identity.distinct ids))
  | _ => none

def literal : Filter → String
  | null => "NullFilter()"
  | all => "AllFilter()"
  | labels target => "LabelsFilter(" ++ (Value.mapping target).literal ++ ")"
  | serviceFor target => "ServiceForFilter(" ++ (Value.mapping target).literal ++ ")"
  | names ids =>
    let texts := (Identity.sorted (Identity.distinct ids)).map fun id => Text.quoted id.text
    "NSNameFilter([" ++ ", ".intercalate texts ++ "])"

/-- What a filter is put into a set by: its variant and the members of its content, if these may be
members of a set. -/
def key? : Filter → Option (String × List Value)
  | null => some ("NullFilter", [])
  | all => some ("AllFilter", [])
  | labels target => (pairs? target).map ("LabelsFilter", ·)
  | serviceFor target => (pairs? target).map ("ServiceForFilter", ·)
  | names ids => some ("NSNameFilter", ids.map .identity)
where
  /-- The pairs of a target as members of a set. -/
  pairs? (target : List (Value × Value)) : Option (List Value) :=
    let pairs := target.map fun pair => Value.tuple [pair.1, pair.2]
    if pairs.all Value.hashable then some pairs else none

/-- Equality of two keys: the same variant and the same set of members. -/
def sameKey (a b : String × List Value) : Bool :=
  a.1 == b.1 && a.2.all b.2.contains && b.2.all a.2.contains

/-- Puts a filter into a set of filters: an equal one with an equal key is kept in its place. -/
def insertNew (f : Filter) (kept : List Filter) : List Filter :=
  let found := kept.any fun g =>
    (match f.key?, g.key? with
      | some a, some b => sameKey a b
      | _, _ => false) && g.equals f
  if found then kept else kept ++ [f]

/-- The different filters of a list, none if one of them may not be put into a set. -/
def distinct? (fs : List Filter) : Option (List Filter) :=
  if fs.all fun f => f.key?.isSome then some (fs.foldl (fun kept f => insertNew f kept) []) else none

end Filter

/-- Why a value gives no target. -/
inductive TargetError where
  /-- It, or one of its members, has no parts. -/
  | noPairs
  /-- One of its members has other than two parts. -/
  | notPair
  deriving DecidableEq, Repr

/-- The target that a value gives: the entries of a mapping, or pairs one after the other. -/
def Filter.targetOfValue (v : Value) : Except TargetError (List (Value × Value)) :=
  match v.entries?, v.iterate? with
  | some entries, _ => .ok entries
  | none, none => .error .noPairs
  | none, some members => (members.mapM pairOf).map Table.ofPairs
where
  pairOf (member : Value) : Except TargetError (Value × Value) :=
    match member.iterate? with
    | some [key, value] => if key.hashable then .ok (key, value) else .error .noPairs
    | some _ => .error .notPair
    | none => .error .noPairs

/-- Why a list of identities is refused. -/
inductive IdentityError where
  | malformed (s : String)
  | unnamed (id : Identity)
  | notPair
  | noParts
  | text (cause : TextError)
  deriving DecidableEq, Repr

namespace IdentityError

def message : IdentityError → String
  | malformed s => "invalid namespace/name '" ++ s ++ "'"
  | unnamed id => "identity " ++ id.literal ++ " has an empty name"
  | notPair | noParts | text _ => ""

def kind : IdentityError → Failure.Kind
  | noParts => .wrongType
  | malformed _ | unnamed _ | notPair | text _ => .invalidValue

end IdentityError

namespace Identity

def ofParts (ns name : Value) : Except TextError Identity := do
  let ns ← ns.text?
  let name ← name.text?
  .ok ⟨ns, name⟩

/-- The identity that a text spells, or that the two parts of a collection give by their texts; an
identity stands for itself. -/
def ofValue : Value → Except IdentityError Identity
  | .identity n => .ok n
  | .str s => match parse? s with
    | some n => .ok n
    | none => .error (.malformed s)
  | v => match v.iterate? with
    | some [ns, name] => (ofParts ns name).mapError .text
    | some _ => .error .notPair
    | none => .error .noParts

/-- The same, refusing an identity without a name. -/
def named (v : Value) : Except IdentityError Identity :=
  match ofValue v with
  | .ok n => if n.name = "" then .error (.unnamed n) else .ok n
  | .error e => .error e

end Identity

/-- The names filter of a list of identities in any spelling; the first bad one decides the error. -/
def Filter.ofIdentities (vs : List Value) : Except IdentityError Filter :=
  (vs.mapM Identity.named).map .names

end ObjectWatch
