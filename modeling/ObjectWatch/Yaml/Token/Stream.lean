import ObjectWatch.Yaml.Token.Property

/-!
The tokens of a whole text. Outside brackets the column of a token decides which block collections it
belongs to. A token that may turn out to be a key is remembered until a `:` follows on its line within 1024
characters; then `key` is put in front of it.
-/

namespace ObjectWatch.Yaml

/-- A token that may turn out to be a key: how many tokens came before it, whether it has to be one, and
where it stands. -/
structure Candidate where
  number : Nat
  required : Bool
  index : Nat
  line : Nat
  column : Nat

structure Stream where
  cursor : Cursor
  tokens : List Token
  count : Nat
  flow : Nat
  /-- The column of the innermost block collection, and of those around it. -/
  indent : Int
  indents : List Int
  keyAllowed : Bool
  /-- The candidates, one for each number of open brackets at most. -/
  candidates : List (Nat × Candidate)

namespace Stream

def start (cs : List Char) : Stream :=
  { cursor := Cursor.start cs, tokens := [], count := 0, flow := 0, indent := -1, indents := []
    keyAllowed := true, candidates := [] }

def push (s : Stream) (t : Token) (c : Cursor) : Stream :=
  { s with tokens := t :: s.tokens, count := s.count + 1, cursor := c }

/-- Puts a token in front of the one that `number` tokens came before. -/
def insertAt (s : Stream) (number : Nat) (t : Token) : Stream :=
  let later := s.count - number
  { s with tokens := s.tokens.take later ++ t :: s.tokens.drop later, count := s.count + 1 }

/-- Skips white space and comments. A line break outside brackets lets a key follow. -/
def skipGaps : Nat → Stream → Stream
  | 0, s => s
  | fuel + 1, s =>
    let c := s.cursor.skipSpaces.skipComment
    if isBreak c.head then
      skipGaps fuel { s with cursor := c.lineBreak.2, keyAllowed := s.keyAllowed || s.flow = 0 }
    else { s with cursor := c }

/-- Forgets the candidates that can no longer be keys; one that has to be a key is an error. -/
def dropStale (s : Stream) : Except Error Stream :=
  let stale (entry : Nat × Candidate) : Bool :=
    entry.2.line ≠ s.cursor.line || 1024 < s.cursor.index - entry.2.index
  if s.candidates.any fun entry => stale entry && entry.2.required then .error .malformed
  else .ok { s with candidates := s.candidates.filter (!stale ·) }

/-- Forgets the candidate among the brackets that are open; one that has to be a key is an error. -/
def dropCandidate (s : Stream) : Except Error Stream :=
  if s.candidates.any fun entry => entry.1 = s.flow && entry.2.required then .error .malformed
  else .ok { s with candidates := s.candidates.filter (·.1 ≠ s.flow) }

def saveCandidate (s : Stream) : Except Error Stream :=
  if !s.keyAllowed then .ok s
  else do
    let s ← s.dropCandidate
    let c := s.cursor
    let candidate : Candidate :=
      { number := s.count, required := s.flow = 0 && s.indent = c.column, index := c.index
        line := c.line, column := c.column }
    .ok { s with candidates := (s.flow, candidate) :: s.candidates }

/-- Ends the block collections that are indented further than a column. -/
def unwind (column : Int) : List Int → Stream → Stream
  | [], s => s
  | outer :: rest, s =>
    if s.flow = 0 && column < s.indent then
      unwind column rest { s.push .blockEnd s.cursor with indent := outer, indents := rest }
    else s

/-- Ends the block collections that the next token does not belong to. -/
def unwindTo (s : Stream) (column : Int) : Stream :=
  unwind column s.indents s

def opens (s : Stream) (column : Nat) : Bool :=
  s.indent < column

def enter (s : Stream) (column : Nat) : Stream :=
  { s with indents := s.indent :: s.indents, indent := column }

/-- Begins a block collection with the next token, unless it belongs to the innermost one. Only where a key
is allowed. -/
def beginBlock (s : Stream) (t : Token) : Except Error Stream :=
  if s.flow ≠ 0 then .ok s
  else if !s.keyAllowed then .error .malformed
  else if s.opens s.cursor.column then .ok ((s.enter s.cursor.column).push t s.cursor)
  else .ok s

/-- Reads a separator of documents or a directive, which end every block. -/
def separator (s : Stream) (t : Token) (c : Cursor) : Except Error Stream := do
  let s ← (s.unwindTo (-1)).dropCandidate
  .ok { s.push t c with keyAllowed := false }

def openBracket (s : Stream) (t : Token) : Except Error Stream := do
  let s ← s.saveCandidate
  .ok { s.push t s.cursor.next with flow := s.flow + 1, keyAllowed := true }

def closeBracket (s : Stream) (t : Token) : Except Error Stream := do
  let s ← s.dropCandidate
  if s.flow = 0 then .error .malformed
  else .ok { s.push t s.cursor.next with flow := s.flow - 1, keyAllowed := false }

def comma (s : Stream) : Except Error Stream := do
  let s ← s.dropCandidate
  .ok { s.push .flowEntry s.cursor.next with keyAllowed := true }

def dash (s : Stream) : Except Error Stream := do
  let s ← s.beginBlock .blockSequence
  let s ← s.dropCandidate
  .ok { s.push .blockEntry s.cursor.next with keyAllowed := true }

def keyMark (s : Stream) : Except Error Stream := do
  let s ← s.beginBlock .blockMapping
  let s ← s.dropCandidate
  .ok { s.push .key s.cursor.next with keyAllowed := s.flow = 0 }

/-- Reads the colon in front of a value. The candidate before it, if there is one, is its key. -/
def colon (s : Stream) : Except Error Stream :=
  match s.candidates.find? (·.1 = s.flow) with
  | some (_, candidate) =>
    let s := { s with candidates := s.candidates.filter (·.1 ≠ s.flow) }
    let s := s.insertAt candidate.number .key
    let s :=
      if s.flow = 0 && s.opens candidate.column then
        (s.enter candidate.column).insertAt candidate.number .blockMapping
      else s
    .ok { s.push .value s.cursor.next with keyAllowed := false }
  | none => do
    let s ← s.beginBlock .blockMapping
    let s ← s.dropCandidate
    .ok { s.push .value s.cursor.next with keyAllowed := s.flow = 0 }

/-- Reads a token that may be a key or stand in front of one. -/
def leaf (s : Stream) (read : Cursor → Except Error (Token × Cursor)) : Except Error Stream := do
  let s ← s.saveCandidate
  let (t, c) ← read s.cursor
  .ok { s.push t c with keyAllowed := false }

def plain (s : Stream) : Except Error Stream := do
  let s ← s.saveCandidate
  let (text, c, broken) := s.cursor.plainScalar (s.flow ≠ 0) (s.indent + 1).toNat
  .ok { s.push (.scalar text true) c with keyAllowed := broken }

def block (s : Stream) : Except Error Stream := do
  let s ← s.dropCandidate
  let (text, c) ← s.cursor.blockScalar s.indent
  .ok { s.push (.scalar text false) c with keyAllowed := true }

def startsPlain (s : Stream) : Bool :=
  let c := s.cursor.head
  let reserved := isGap c || "-?:,[]\x7b\x7d#&*!|>\x27\x22%@\x60".toList.contains c
  !reserved || (!isGap (s.cursor.peek 1) && (c = '-' || (s.flow = 0 && (c = '?' || c = ':'))))

/-- Ends the text: every block ends, and a candidate that has to be a key is an error. -/
def finish (s : Stream) : Except Error Stream :=
  (s.unwindTo (-1)).dropCandidate

def readToken (s : Stream) : Except Error Stream :=
  let c := s.cursor
  let flow := s.flow ≠ 0
  let mark (ch : Char) : Bool := c.head = ch && (flow || isGap (c.peek 1))
  if c.head = '%' && c.column = 0 then do
    let (t, after) ← c.directive
    s.separator t after
  else if c.column = 0 && c.atTriple '-' then s.separator .documentStart (c.skip 3)
  else if c.column = 0 && c.atTriple '.' then s.separator .documentEnd (c.skip 3)
  else if c.head = '[' then s.openBracket .flowSequence
  else if c.head = '\x7b' then s.openBracket .flowMapping
  else if c.head = ']' then s.closeBracket .flowSequenceEnd
  else if c.head = '\x7d' then s.closeBracket .flowMappingEnd
  else if c.head = ',' then s.comma
  else if c.head = '-' && isGap (c.peek 1) then s.dash
  else if mark '?' then s.keyMark
  else if mark ':' then s.colon
  else if c.head = '*' then s.leaf fun c => do
    let (name, c) ← c.next.anchorName
    .ok (.alias name, c)
  else if c.head = '&' then s.leaf fun c => do
    let (name, c) ← c.next.anchorName
    .ok (.anchor name, c)
  else if c.head = '!' then s.leaf Cursor.tag
  else if !flow && (c.head = '|' || c.head = '>') then s.block
  else if c.head = Text.singleQuote || c.head = Text.doubleQuote then s.leaf fun c => do
    let (text, c) ← c.quotedScalar
    .ok (.scalar text false, c)
  else if s.startsPlain then s.plain
  else .error .malformed

def readAll : Nat → Stream → Except Error Stream
  | 0, _ => .error .malformed
  | fuel + 1, s => do
    let s ← (skipGaps (s.cursor.size + 1) s).dropStale
    let s := s.unwindTo s.cursor.column
    if s.cursor.rest.isEmpty then s.finish
    else
      let s ← s.readToken
      readAll fuel s

end Stream

/-- The tokens of a text. A byte order mark in front of it is skipped. -/
def Token.ofText (cs : List Char) : Except Error (List Token) :=
  if !cs.all isAllowed then .error .malformed
  else
    let cursor := Cursor.start cs
    let cursor := if cursor.head = byteOrderMark then cursor.next else cursor
    match Stream.readAll (cs.length + 2) { Stream.start cs with cursor := cursor } with
    | .ok s => .ok s.tokens.reverse
    | .error e => .error e

end ObjectWatch.Yaml
