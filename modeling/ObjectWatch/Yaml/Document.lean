import ObjectWatch.Yaml.Node
import ObjectWatch.Yaml.Scalar
import ObjectWatch.Yaml.Token.Stream

/-!
The value of a text. Collections are built in rounds, all of one depth before any deeper one, so of several
faults the one at the least depth is found, and of those the first. In a mapping the entries taken in under
`<<` come first, its own entries after them, and a repeated key keeps its place and takes the last value.
-/

namespace ObjectWatch.Yaml

/-- An error and the round in which it is found. -/
structure Fault where
  round : Nat
  error : Error

namespace Fault

/-- The one that is found first; `a` comes before `b` in the text. -/
def earlier (a b : Fault) : Fault :=
  if b.round < a.round then b else a

/-- Joins two results, or gives the fault that is found first. -/
def both {α β γ : Type} (f : α → β → γ) : Except Fault α → Except Fault β → Except Fault γ
  | .ok a, .ok b => .ok (f a b)
  | .ok _, .error b => .error b
  | .error a, .ok _ => .error a
  | .error a, .error b => .error (earlier a b)

end Fault

mutual

/-- Whether a value stands inside the collection of a label that is not closed around it yet. -/
def mentions (label : Nat) : Value → Bool
  | .list items => mentionsItems label items
  | .mapping entries => mentionsEntries label entries
  | .knot _ body => mentions label body
  | .enclosing l => l == label
  | _ => false

def mentionsItems (label : Nat) : List Value → Bool
  | [] => false
  | v :: rest => mentions label v || mentionsItems label rest

def mentionsEntries (label : Nat) : List (Value × Value) → Bool
  | [] => false
  | (k, v) :: rest => mentions label k || mentions label v || mentionsEntries label rest

end

/-- Closes a collection: a knot if it contains itself. -/
def close (label : Nat) (v : Value) : Value :=
  if mentions label v then .knot label v else v

/-- The node that a node stands for: an alias for that of its anchor, any other for itself. -/
def Anchors.resolve (known : Anchors) : Node → Node
  | .alias anchor => (Table.get? anchor known).getD .empty
  | n => n

namespace Node

def tag? : Node → Option Tag
  | .scalar tag _ | .sequence tag _ _ | .mapping tag _ _ => some tag
  | .alias _ => none

/-! ### Entries that are taken in -/

def isMerge (n : Node) : Bool :=
  n.tag? = some .merge

/-- The values under merge keys, each with what else there is in the mapping but for it and those before it;
`own` is what comes before. -/
def merges (own : List (Node × Node)) : List (Node × Node) → List (Node × List (Node × Node))
  | [] => []
  | (k, v) :: rest => if isMerge k then (v, own ++ rest) :: merges own rest else merges (own ++ [(k, v)]) rest

/-- The pairs of a mapping with those that it takes in in front: those of a mapping, or those of a list of
mappings, where the first ones go last. A mapping that is being taken in itself counts for what is left
of it in `opened`. -/
def flatten (known : Anchors) :
    Nat → (opened : List (Nat × List (Node × Node))) → Nat → List (Node × Node) →
      Except Error (List (Node × Node))
  | 0, _, _, _ => .error .malformed
  | fuel + 1, opened, label, pairs => do
    let pairs := pairs.map fun pair => (known.resolve pair.1, pair.2)
    let taken ← (merges [] pairs).mapM fun (value, left) =>
      let opened := (label, left) :: opened
      let ofMapping : Node → Except Error (List (Node × Node))
        | .mapping _ label pairs => flatten known fuel opened label ((Table.get? label opened).getD pairs)
        | _ => .error .malformed
      match known.resolve value with
      | .sequence _ _ items =>
        (items.mapM fun n => ofMapping (known.resolve n)).map fun parts => parts.reverse.flatten
      | n => ofMapping n
    .ok (taken.flatten ++ pairs.filter fun pair => !isMerge pair.1)

/-! ### Values -/

mutual

/-- The text that a node gives as a scalar: its own, or that of the default value of a mapping. -/
def scalarText? (known : Anchors) : Node → Option String
  | .scalar _ s => some s
  | .mapping _ _ pairs => defaultText? known pairs
  | .sequence _ _ _ => none
  | .alias anchor => match Table.get? anchor known with
    | some (.scalar _ s) => some s
    | _ => none

def defaultText? (known : Anchors) : List (Node × Node) → Option String
  | [] => none
  | (k, v) :: rest =>
    if (known.resolve k).tag? = some .value then scalarText? known v else defaultText? known rest

end

/-- The value of a mapping whose tag names the type of a scalar. -/
def defaultValue (known : Anchors) (tag : Tag) (pairs : List (Node × Node)) : Except Error Value :=
  match defaultText? known pairs with
  | some s => if tag = .timestamp then .error (.scalar .notText) else tag.scalarValue s
  | none => .error .malformed

/-- The value of a key: only a scalar, or what stands for one, can be a key. -/
def keyValue (known : Anchors) : Node → Except Error Value
  | .scalar tag s => (keyTag tag).scalarValue s
  | .mapping tag _ pairs => defaultValue known (keyTag tag) pairs
  | _ => .error .malformed
where
  /-- The mark of a default value is a text where it is a key. -/
  keyTag (tag : Tag) : Tag :=
    if tag = .value then .str else tag

/-- The round in which a node whose tag names another type is found out: at once for a scalar type or none,
with the members for a type of collection. -/
def mismatchRound (tag : Tag) (round : Nat) : Nat :=
  if tag = .seq ∨ tag = .map then round + 1 else round

/-- The value of a node that is reached in a round, inside the collections of the labels `above`. -/
def build (known : Anchors) : Nat → Nat → (above : List Nat) → Node → Except Fault Value
  | 0, round, _, _ => .error ⟨round, .malformed⟩
  | fuel + 1, round, above, node =>
    match known.resolve node with
    | .scalar tag s => (tag.scalarValue s).mapError (⟨mismatchRound tag round, ·⟩)
    | .alias _ => .error ⟨round, .malformed⟩
    | .sequence tag label items =>
      if above.contains label then .ok (.enclosing label)
      else if tag ≠ .seq then .error ⟨mismatchRound tag round, .malformed⟩
      else
        let inside := build known fuel (round + 1) (label :: above)
        (items.foldr (fun n rest => Fault.both List.cons (inside n) rest) (.ok [])).map fun items =>
          close label (.list items)
    | .mapping tag label pairs =>
      if above.contains label then .ok (.enclosing label)
      else if tag ≠ .map then (defaultValue known tag pairs).mapError (⟨mismatchRound tag round, ·⟩)
      else match flatten known fuel [] label pairs with
        | .error e => .error ⟨round + 1, e⟩
        | .ok pairs =>
          let inside := build known fuel (round + 1) (label :: above)
          let entry (pair : Node × Node) : Except Fault (Value × Value) :=
            Fault.both Prod.mk ((keyValue known pair.1).mapError (⟨round + 1, ·⟩)) (inside pair.2)
          (pairs.foldr (fun pair rest => Fault.both List.cons (entry pair) rest) (.ok [])).map fun entries =>
            close label (.mapping (Table.ofPairs entries))

end Node

/-- The value of a text, null if it is empty. -/
def load (cs : List Char) : Except Error Value := do
  let tokens ← Token.ofText cs
  match ← Node.ofTokens tokens with
  | none => .ok .null
  | some (node, known) =>
    let bound := tokens.length + 2
    (node.build known (bound * bound) 0 []).mapError (·.error)

end ObjectWatch.Yaml
