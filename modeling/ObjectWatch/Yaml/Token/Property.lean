import ObjectWatch.Text.Utf8
import ObjectWatch.Yaml.Token
import ObjectWatch.Yaml.Token.Scalar

/-!
Reading what stands before a node or a document: anchors and aliases, tags, and lines that start with `%`.
-/

namespace ObjectWatch.Yaml.Cursor

/-- The name of an anchor or alias, after its indicator. -/
def anchorName (c : Cursor) : Except Error (String × Cursor) :=
  let (name, c) := c.span isWordChar
  if name.isEmpty then .error .malformed
  else if isGap c.head || "?:,]\x7d%@\x60".toList.contains c.head then .ok (String.ofList name, c)
  else .error .malformed

/-! ### Tags -/

def isTagChar (c : Char) : Bool :=
  c.isAlphanum || "-;/?:@&=+$,_.!~*\x27()[]%".toList.contains c

/-- The octets that escapes spell, as many as come next. -/
def escapedOctets : Nat → Cursor → List UInt8 → Except Error (List UInt8 × Cursor)
  | 0, _, _ => .error .malformed
  | fuel + 1, c, octets =>
    if c.head = '%' then
      match hexValue? (c.peek 1), hexValue? (c.peek 2) with
      | some a, some b => escapedOctets fuel (c.skip 3) (octets ++ [UInt8.ofNat (16 * a + b)])
      | _, _ => .error .malformed
    else .ok (octets, c)

/-- The rest of the suffix of a tag, put after `text`. -/
def tagSuffixRest : Nat → Cursor → List Char → Except Error (List Char × Cursor)
  | 0, _, _ => .error .malformed
  | fuel + 1, c, text =>
    if c.head = '%' then do
      let (octets, c) ← escapedOctets (c.size + 1) c []
      match Text.decodeUtf8? octets with
      | some cs => tagSuffixRest fuel c (text ++ cs)
      | none => .error .malformed
    else if isTagChar c.head then tagSuffixRest fuel c.next (text ++ [c.head])
    else .ok (text, c)

def tagSuffix (c : Cursor) : Except Error (String × Cursor) :=
  if !isTagChar c.head then .error .malformed
  else do
    let (text, rest) ← tagSuffixRest (c.size + 1) c []
    .ok (String.ofList text, rest)

/-- A handle: an exclamation mark, or a word between two. -/
def tagHandle (c : Cursor) : Except Error (String × Cursor) :=
  if c.head ≠ '!' then .error .malformed
  else
    let (word, after) := c.next.span isWordChar
    if c.peek 1 = ' ' then .ok ("!", c.next)
    else if after.head = '!' then .ok (String.ofList ('!' :: word ++ ['!']), after.next)
    else .error .malformed

/-- Whether a second exclamation mark stands in what comes before the next white space. -/
def hasHandle (c : Cursor) : Bool :=
  (c.rest.drop 1 |>.takeWhile (!isSpaceOrEnd ·)).contains '!'

/-- A tag. One between angle brackets is written in full; one with nothing after it leaves the type open. -/
def tag (c : Cursor) : Except Error (Token × Cursor) := do
  let (handle, suffix, c) ←
    if c.peek 1 = '<' then do
      let (suffix, c) ← (c.skip 2).tagSuffix
      if c.head = '>' then .ok (none, suffix, c.next) else .error .malformed
    else if isGap (c.peek 1) then .ok (none, "!", c.next)
    else if c.hasHandle then do
      let (handle, c) ← c.tagHandle
      let (suffix, c) ← c.tagSuffix
      .ok (some handle, suffix, c)
    else do
      let (suffix, c) ← c.next.tagSuffix
      .ok (some "!", suffix, c)
  if isSpaceOrEnd c.head then .ok (.tag handle suffix, c) else .error .malformed

/-! ### Directives -/

def number (c : Cursor) : Except Error (Nat × Cursor) :=
  let (ds, c) := c.span Char.isDigit
  if ds.isEmpty then .error .malformed
  else .ok (ds.foldl (fun n d => 10 * n + (d.toNat - 0x30)) 0, c)

def version (c : Cursor) : Except Error (Directive × Cursor) := do
  let (major, c) ← c.skipSpaces.number
  if c.head ≠ '.' then .error .malformed
  else
    let (_, c) ← c.next.number
    if isSpaceOrEnd c.head then .ok (.version major, c) else .error .malformed

def handleDirective (c : Cursor) : Except Error (Directive × Cursor) := do
  let (handle, c) ← c.skipSpaces.tagHandle
  if c.head ≠ ' ' then .error .malformed
  else
    let (expansion, c) ← c.skipSpaces.tagSuffix
    if isSpaceOrEnd c.head then .ok (.handle handle expansion, c) else .error .malformed

def directive (c : Cursor) : Except Error (Token × Cursor) := do
  let (name, c) := c.next.span isWordChar
  if name.isEmpty || !isSpaceOrEnd c.head then .error .malformed
  else
    let (d, c) ←
      if String.ofList name = "YAML" then c.version
      else if String.ofList name = "TAG" then c.handleDirective
      else .ok (.other, c.skipWhile (!isLineEnd ·))
    let c := c.skipSpaces.skipComment
    if isLineEnd c.head then .ok (.directive d, c.lineBreak.2) else .error .malformed

end ObjectWatch.Yaml.Cursor
