import ObjectWatch.Yaml.Error
import ObjectWatch.Yaml.Tag
import ObjectWatch.Yaml.Token

/-!
The tree of nodes of a text, from its tokens. An anchor is given once, and an alias refers to the node of an
anchor before it, which may be a collection that it stands in.
-/

namespace ObjectWatch.Yaml

/-- A node. Each collection has a label of its own. -/
inductive Node where
  | scalar (tag : Tag) (text : String)
  | sequence (tag : Tag) (label : Nat) (items : List Node)
  | mapping (tag : Tag) (label : Nat) (pairs : List (Node × Node))
  | alias (anchor : String)
  deriving Inhabited

abbrev Anchors := List (String × Node)

namespace Node

/-- The empty scalar, which stands where a node is left out. -/
def empty : Node := .scalar .null ""

/-- The state of reading nodes: the tokens left, the nodes of the anchors, the number of collections so far,
and what the handles stand for. -/
structure Reader where
  tokens : List Token
  anchors : Anchors
  count : Nat
  handles : List (String × String)

namespace Reader

def head? (r : Reader) : Option Token :=
  r.tokens.head?

def drop (r : Reader) : Reader :=
  { r with tokens := r.tokens.tail }

def isGiven (r : Reader) (name : String) : Bool :=
  r.anchors.any (·.1 == name)

def anchored (r : Reader) (anchor : Option String) (node : Node) : Reader :=
  match anchor with
  | some name => { r with anchors := (name, node) :: r.anchors }
  | none => r

def fullTag (r : Reader) (handle : Option String) (suffix : String) : Except Error String :=
  match handle with
  | none => .ok suffix
  | some handle => match r.handles.find? (·.1 == handle) with
    | some (_, expansion) => .ok (expansion ++ suffix)
    | none => .error .malformed

/-- The anchor and the tag in front of a node, in either order and each at most once. -/
def properties (r : Reader) : Except Error (Option String × Option String × Reader) :=
  match r.tokens with
  | .anchor name :: .tag handle suffix :: rest => do
    .ok (some name, some (← r.fullTag handle suffix), { r with tokens := rest })
  | .anchor name :: rest => .ok (some name, none, { r with tokens := rest })
  | .tag handle suffix :: .anchor name :: rest => do
    .ok (some name, some (← r.fullTag handle suffix), { r with tokens := rest })
  | .tag handle suffix :: rest => do
    .ok (none, some (← r.fullTag handle suffix), { r with tokens := rest })
  | _ => .ok (none, none, r)

end Reader

/-- The tag that leaves the type open. -/
def openTag : String := "!"

/-- The type of a scalar: the tag that it carries, or the type of its form if it is plain or its tag leaves
the type open. -/
def scalarTag (tag : Option String) (plain : Bool) (text : String) : Tag :=
  match tag with
  | some name => if name = openTag then .ofPlain text.toList else .ofName name
  | none => if plain then .ofPlain text.toList else .str

def collectionTag (tag : Option String) (default : Tag) : Tag :=
  match tag with
  | some name => if name = openTag then default else .ofName name
  | none => default

/-- Whether the next token is one of those after which a node is left out. -/
def isLeftOut (r : Reader) (ends : List Token) : Bool :=
  r.head?.any ends.contains

mutual

/-- Reads a node. Block collections are read only where `block` allows, and a sequence whose dashes are
indented like the key before them only where `indentless` does. -/
def read : Nat → (block indentless : Bool) → Reader → Except Error (Node × Reader)
  | 0, _, _, _ => .error .malformed
  | fuel + 1, block, indentless, r =>
    match r.tokens with
    | .alias name :: _ => if r.isGiven name then .ok (.alias name, r.drop) else .error .malformed
    | _ => do
      let (anchor, tag, r) ← r.properties
      if anchor.any r.isGiven then Except.error .malformed
      let label := r.count
      let inside := { r.drop.anchored anchor empty with count := label + 1 }
      match r.head? with
      | some (.scalar text plain) =>
        let node := Node.scalar (scalarTag tag plain text) text
        .ok (node, r.drop.anchored anchor node)
      | some .flowSequence =>
        let (items, r) ← readFlowItems fuel true inside
        let node := Node.sequence (collectionTag tag .seq) label items
        .ok (node, r.anchored anchor node)
      | some .flowMapping =>
        let (pairs, r) ← readFlowPairs fuel true inside
        let node := Node.mapping (collectionTag tag .map) label pairs
        .ok (node, r.anchored anchor node)
      | next =>
        if indentless && next = some .blockEntry then
          let (items, r) ← readDashes fuel { inside with tokens := r.tokens }
          let node := Node.sequence (collectionTag tag .seq) label items
          .ok (node, r.anchored anchor node)
        else if block && next = some .blockSequence then
          let (items, r) ← readBlockItems fuel inside
          let node := Node.sequence (collectionTag tag .seq) label items
          .ok (node, r.anchored anchor node)
        else if block && next = some .blockMapping then
          let (pairs, r) ← readBlockPairs fuel inside
          let node := Node.mapping (collectionTag tag .map) label pairs
          .ok (node, r.anchored anchor node)
        else if anchor.isSome || tag.isSome then
          let node := Node.scalar (scalarTag tag true "") ""
          .ok (node, r.anchored anchor node)
        else .error .malformed

def readBlockItems : Nat → Reader → Except Error (List Node × Reader)
  | 0, _ => .error .malformed
  | fuel + 1, r =>
    match r.head? with
    | some .blockEntry => do
      let r := r.drop
      let (item, r) ←
        if isLeftOut r [.blockEntry, .blockEnd] then .ok (empty, r) else read fuel true false r
      let (items, r) ← readBlockItems fuel r
      .ok (item :: items, r)
    | some .blockEnd => .ok ([], r.drop)
    | _ => .error .malformed

/-- Reads the items of a sequence that is indented like the key before it. -/
def readDashes : Nat → Reader → Except Error (List Node × Reader)
  | 0, _ => .error .malformed
  | fuel + 1, r =>
    match r.head? with
    | some .blockEntry => do
      let r := r.drop
      let (item, r) ←
        if isLeftOut r [.blockEntry, .key, .value, .blockEnd] then .ok (empty, r)
        else read fuel true false r
      let (items, r) ← readDashes fuel r
      .ok (item :: items, r)
    | _ => .ok ([], r)

def readBlockPairs : Nat → Reader → Except Error (List (Node × Node) × Reader)
  | 0, _ => .error .malformed
  | fuel + 1, r =>
    match r.head? with
    | some .key => do
      let r := r.drop
      let ends : List Token := [.key, .value, .blockEnd]
      let (key, r) ← if isLeftOut r ends then .ok (empty, r) else read fuel true true r
      let (value, r) ←
        if r.head? = some .value then
          if isLeftOut r.drop ends then .ok (empty, r.drop) else read fuel true true r.drop
        else .ok (empty, r)
      let (pairs, r) ← readBlockPairs fuel r
      .ok ((key, value) :: pairs, r)
    | some .blockEnd => .ok ([], r.drop)
    | _ => .error .malformed

/-- Reads the value after a key between brackets, left out before one of the tokens `ends`. -/
def readFlowValue : Nat → List Token → Reader → Except Error (Node × Reader)
  | 0, _, _ => .error .malformed
  | fuel + 1, ends, r =>
    if r.head? = some .value then
      if isLeftOut r.drop ends then .ok (empty, r.drop) else read fuel false false r.drop
    else .ok (empty, r)

/-- Reads the items of a flow sequence and its closing bracket. A key makes an item a mapping of one pair. -/
def readFlowItems : Nat → (first : Bool) → Reader → Except Error (List Node × Reader)
  | 0, _, _ => .error .malformed
  | fuel + 1, first, r =>
    if r.head? = some .flowSequenceEnd then .ok ([], r.drop)
    else if !first && r.head? ≠ some .flowEntry then .error .malformed
    else
      let r := if first then r else r.drop
      match r.head? with
      | some .flowSequenceEnd => .ok ([], r.drop)
      | some .key => do
        let label := r.count
        let r := { r.drop with count := label + 1 }
        let ends : List Token := [.flowEntry, .flowSequenceEnd]
        let (key, r) ← if isLeftOut r (.value :: ends) then .ok (empty, r) else read fuel false false r
        let (value, r) ← readFlowValue fuel ends r
        let (items, r) ← readFlowItems fuel false r
        .ok (.mapping .map label [(key, value)] :: items, r)
      | _ => do
        let (item, r) ← read fuel false false r
        let (items, r) ← readFlowItems fuel false r
        .ok (item :: items, r)

def readFlowPairs : Nat → (first : Bool) → Reader → Except Error (List (Node × Node) × Reader)
  | 0, _, _ => .error .malformed
  | fuel + 1, first, r =>
    if r.head? = some .flowMappingEnd then .ok ([], r.drop)
    else if !first && r.head? ≠ some .flowEntry then .error .malformed
    else
      let r := if first then r else r.drop
      match r.head? with
      | some .flowMappingEnd => .ok ([], r.drop)
      | some .key => do
        let r := r.drop
        let ends : List Token := [.flowEntry, .flowMappingEnd]
        let (key, r) ← if isLeftOut r (.value :: ends) then .ok (empty, r) else read fuel false false r
        let (value, r) ← readFlowValue fuel ends r
        let (pairs, r) ← readFlowPairs fuel false r
        .ok ((key, value) :: pairs, r)
      | _ => do
        let (key, r) ← read fuel false false r
        let (pairs, r) ← readFlowPairs fuel false r
        .ok ((key, empty) :: pairs, r)

end

/-! ### Documents -/

def standardHandles : List (String × String) :=
  [("!", "!"), ("!!", Tag.standard)]

/-- The directives of a document: the version at most once, each handle at most once. -/
def readDirectives (versioned : Bool) (handles : List (String × String)) :
    List Token → Except Error (List (String × String) × List Token)
  | .directive (.version major) :: rest =>
    if versioned || major ≠ 1 then .error .malformed else readDirectives true handles rest
  | .directive (.handle name expansion) :: rest =>
    if handles.any (·.1 == name) then .error .malformed
    else readDirectives versioned ((name, expansion) :: handles) rest
  | .directive .other :: rest => readDirectives versioned handles rest
  | tokens => .ok (handles, tokens)

def atEnd : List Token → Bool
  | [] => true
  | .documentEnd :: rest => atEnd rest
  | _ => false

/-- Reads a document up to the end of the text: its node and those of its anchors. -/
def readRoot (handles : List (String × String)) (tokens : List Token) : Except Error (Node × Anchors) := do
  let start : Reader := { tokens, anchors := [], count := 0, handles }
  let (node, r) ← read (4 * tokens.length + 4) true false start
  if atEnd r.tokens then .ok (node, r.anchors) else .error .malformed

/-- The document of a text; a text may be empty, and may not hold a second document. -/
def ofTokens (tokens : List Token) : Except Error (Option (Node × Anchors)) :=
  match tokens with
  | [] => .ok none
  | .directive _ :: _ | .documentStart :: _ => do
    let (declared, tokens) ← readDirectives false [] tokens
    match tokens with
    | .documentStart :: rest => match rest with
      | [] => .ok (some (empty, []))
      | .directive _ :: _ | .documentStart :: _ => .error .malformed
      | .documentEnd :: rest => if atEnd rest then .ok (some (empty, [])) else .error .malformed
      | _ => (readRoot (declared ++ standardHandles) rest).map some
    | _ => .error .malformed
  | _ => (readRoot standardHandles tokens).map some

end Node

end ObjectWatch.Yaml
