import ObjectWatch.Text.Quoted
import ObjectWatch.Yaml.Cursor
import ObjectWatch.Yaml.Error

/-!
Reading the text of a scalar: plain, between quotes, or as an indented block. Line breaks inside a plain or
quoted scalar fold: a single one becomes a space, further ones stay.
-/

namespace ObjectWatch.Yaml.Cursor

/-! ### Plain scalars -/

/-- The blank lines after a line break, and whether a separator of documents stopped them. -/
def plainBreaks : Nat → Cursor → List Char → List Char × Cursor × Bool
  | 0, c, breaks => (breaks, c, false)
  | fuel + 1, c, breaks =>
    if c.head = ' ' then plainBreaks fuel c.next breaks
    else if isBreak c.head then
      let (b, c) := c.lineBreak
      if c.atSeparator then (breaks ++ b, c, true) else plainBreaks fuel c (breaks ++ b)
    else (breaks, c, false)

/-- The white space after a word of a plain scalar: what it folds to, the place after it, and whether it
held a line break. Nothing is left of it where a separator of documents follows. -/
def plainSpaces (c : Cursor) : List Char × Cursor × Bool :=
  let (spaces, c) := c.span (· = ' ')
  if isBreak c.head then
    let (first, c) := c.lineBreak
    if c.atSeparator then ([], c, true)
    else
      let (breaks, c, separated) := plainBreaks (c.size + 1) c []
      if separated then ([], c, true)
      else ((if first ≠ ['\n'] then first else if breaks.isEmpty then [' '] else []) ++ breaks, c, true)
  else (spaces, c, false)

/-- Whether a word of a plain scalar ends here; inside brackets more characters end it. -/
def plainEnds (flow : Bool) (c after : Char) : Bool :=
  isGap c
    || (c = ':' && (isGap after || (flow && (after = ',' || after = '[' || after = ']' || after = '\x7b'
        || after = '\x7d'))))
    || (flow && (c = ',' || c = '?' || c = '[' || c = ']' || c = '\x7b' || c = '\x7d'))

def plainLength (flow : Bool) : List Char → Nat
  | [] => 0
  | c :: rest => if plainEnds flow c (rest.headD endMark) then 0 else plainLength flow rest + 1

/-- The words of a plain scalar from here on, put after `text` and the folded `spaces`; also whether a line
break came last. -/
def plainWords (flow : Bool) (indent : Nat) :
    Nat → Cursor → (text spaces : List Char) → (broken : Bool) → List Char × Cursor × Bool
  | 0, c, text, _, broken => (text, c, broken)
  | fuel + 1, c, text, spaces, broken =>
    let length := if c.head = '#' then 0 else plainLength flow c.rest
    if length = 0 then (text, c, broken)
    else
      let text := text ++ spaces ++ c.rest.take length
      let (spaces, c, broken) := plainSpaces (c.skip length)
      if spaces.isEmpty || c.head = '#' || (!flow && c.column < indent) then (text, c, broken)
      else plainWords flow indent fuel c text spaces broken

/-- A plain scalar whose further lines are indented at least by `indent`: its text, the place after it and
of the white space after it, and whether that held a line break. -/
def plainScalar (flow : Bool) (indent : Nat) (c : Cursor) : String × Cursor × Bool :=
  let (text, c, broken) := plainWords flow indent (c.size + 1) c [] [] false
  (String.ofList text, c, broken)

/-! ### Quoted scalars -/

def escaped? (c : Char) : Option Char :=
  let code? : Option Nat := match c with
    | '0' => some 0x0 | 'a' => some 0x7 | 'b' => some 0x8 | 't' => some 0x9 | '\t' => some 0x9
    | 'n' => some 0xa | 'v' => some 0xb | 'f' => some 0xc | 'r' => some 0xd | 'e' => some 0x1b
    | ' ' => some 0x20 | '\x22' => some 0x22 | '\\' => some 0x5c | '/' => some 0x2f | 'N' => some 0x85
    | '_' => some 0xa0 | 'L' => some 0x2028 | 'P' => some 0x2029 | _ => none
  code?.map Char.ofNat

/-- The number of digits that a letter after a backslash asks for. -/
def escapeWidth? : Char → Option Nat
  | 'x' => some 2
  | 'u' => some 4
  | 'U' => some 8
  | _ => none

def hexValue? (c : Char) : Option Nat :=
  if '0' ≤ c ∧ c ≤ '9' then some (c.toNat - 0x30)
  else if 'a' ≤ c ∧ c ≤ 'f' then some (c.toNat - 0x57)
  else if 'A' ≤ c ∧ c ≤ 'F' then some (c.toNat - 0x37)
  else none

def hexNumber? (cs : List Char) : Option Nat :=
  cs.foldlM (fun n c => (hexValue? c).map (16 * n + ·)) 0

/-- The character of a code point. Half of a pair on its own, which no text can hold, becomes the replacement
character. -/
def ofCodePoint? (n : Nat) : Option Char :=
  if 0x110000 ≤ n then none
  else if 0xd800 ≤ n ∧ n < 0xe000 then some (Char.ofNat 0xfffd)
  else some (Char.ofNat n)

/-- The character of a pair of code points whose first half has been read and whose second half is the
escape that comes next. -/
def ofPair? (n : Nat) (c : Cursor) : Option (Char × Cursor) :=
  match c.rest with
  | '\\' :: 'u' :: rest => do
    let m ← if 4 ≤ rest.length then hexNumber? (rest.take 4) else none
    if 0xd800 ≤ n ∧ n < 0xdc00 ∧ 0xdc00 ≤ m ∧ m < 0xe000 then
      some (Char.ofNat (0x10000 + 0x400 * (n - 0xd800) + (m - 0xdc00)), c.skip 6)
    else none
  | _ => none

/-- The line breaks between two lines of a quoted scalar, white space dropped. -/
def quotedBreaks : Nat → Cursor → List Char → Except Error (List Char × Cursor)
  | 0, _, _ => .error .malformed
  | fuel + 1, c, breaks =>
    if c.atSeparator then .error .malformed
    else
      let c := c.skipWhile fun ch => ch = ' ' || ch = '\t'
      if isBreak c.head then
        let (b, c) := c.lineBreak
        quotedBreaks fuel c (breaks ++ b)
      else .ok (breaks, c)

/-- The rest of a quoted scalar, put in front of the reversed text. -/
def quotedRest (quote : Char) : Nat → Cursor → List Char → Except Error (List Char × Cursor)
  | 0, _, _ => .error .malformed
  | fuel + 1, c, text =>
    let double := quote = Text.doubleQuote
    if c.head = quote then
      if !double && c.peek 1 = quote then quotedRest quote fuel (c.skip 2) (quote :: text)
      else .ok (text.reverse, c.next)
    else if double && c.head = '\\' then
      let c := c.next
      match escaped? c.head, escapeWidth? c.head with
      | some ch, _ => quotedRest quote fuel c.next (ch :: text)
      | none, some width =>
        let digits := c.next.rest.take width
        match if digits.length = width then hexNumber? digits else none with
        | none => .error .malformed
        | some n =>
          let c := c.next.skip width
          match ofPair? n c, ofCodePoint? n with
          | some (ch, c), _ => quotedRest quote fuel c (ch :: text)
          | none, some ch => quotedRest quote fuel c (ch :: text)
          | none, none => .error (.noSuchCharacter n)
      | none, none =>
        if isBreak c.head then do
          let (breaks, c) ← quotedBreaks (c.size + 1) c.lineBreak.2 []
          quotedRest quote fuel c (breaks.reverse ++ text)
        else .error .malformed
    else if isGap c.head then do
      let (spaces, c) := c.span fun ch => ch = ' ' || ch = '\t'
      if c.rest.isEmpty then .error .malformed
      else if isBreak c.head then
        let (first, c) := c.lineBreak
        let (breaks, c) ← quotedBreaks (c.size + 1) c []
        let folded := if first ≠ ['\n'] then first else if breaks.isEmpty then [' '] else []
        quotedRest quote fuel c ((folded ++ breaks).reverse ++ text)
      else quotedRest quote fuel c (spaces.reverse ++ text)
    else quotedRest quote fuel c.next (c.head :: text)

def quotedScalar (c : Cursor) : Except Error (String × Cursor) := do
  let (text, rest) ← quotedRest c.head (c.size + 1) c.next []
  .ok (String.ofList text, rest)

/-! ### Block scalars -/

/-- What is done with the line breaks at the end of a block. -/
inductive Chomping where
  | strip
  | clip
  | keep
  deriving DecidableEq

def chomping? : Char → Option Chomping
  | '+' => some .keep
  | '-' => some .strip
  | _ => none

/-- What comes after the indicator of a block: a chomping sign and a digit for the indentation, in either
order. -/
def blockHeader (c : Cursor) : Except Error (Chomping × Option Nat × Cursor) := do
  let digit? (c : Cursor) : Except Error (Option Nat × Cursor) :=
    if c.head = '0' then .error .malformed
    else if c.head.isDigit then .ok (some (c.head.toNat - 0x30), c.next)
    else .ok (none, c)
  let (chomping, increment, c) ← match chomping? c.head with
    | some chomping => do
      let (increment, c) ← digit? c.next
      .ok (chomping, increment, c)
    | none => do
      let (increment, c) ← digit? c
      match increment, chomping? c.head with
      | some n, some chomping => .ok (chomping, some n, c.next)
      | increment, _ => .ok (.clip, increment, c)
  if !isSpaceOrEnd c.head then .error .malformed
  else
    let c := c.skipSpaces.skipComment
    if isLineEnd c.head then .ok (chomping, increment, c.lineBreak.2) else .error .malformed

/-- The blank lines before a block whose indentation is not given, and the widest of their lines and of the
spaces before its first line. -/
def blockIndentation : Nat → Cursor → List Char → Nat → List Char × Nat × Cursor
  | 0, c, breaks, widest => (breaks, widest, c)
  | fuel + 1, c, breaks, widest =>
    if c.head = ' ' then
      let c := c.next
      blockIndentation fuel c breaks (max widest c.column)
    else if isBreak c.head then
      let (b, c) := c.lineBreak
      blockIndentation fuel c (breaks ++ b) widest
    else (breaks, widest, c)

def skipIndentation (indent : Nat) (c : Cursor) : Cursor :=
  c.skip (min (indent - c.column) (c.rest.takeWhile (· = ' ')).length)

/-- The blank lines that come next, and the place after the indentation of the line after them. -/
def blockBreaks (indent : Nat) : Nat → Cursor → List Char → List Char × Cursor
  | 0, c, breaks => (breaks, c)
  | fuel + 1, c, breaks =>
    let c := skipIndentation indent c
    if isBreak c.head then
      let (b, c) := c.lineBreak
      blockBreaks indent fuel c (breaks ++ b)
    else (breaks, c)

/-- The lines of a block, put after `text`; `breaks` are the blank lines before the first. The result holds
also the last line break and the blank lines after it. -/
def blockLines (folded : Bool) (indent : Nat) :
    Nat → Cursor → (text breaks : List Char) → List Char × List Char × List Char × Cursor
  | 0, c, text, breaks => (text, [], breaks, c)
  | fuel + 1, c, text, breaks =>
    let flush := c.head ≠ ' ' && c.head ≠ '\t'
    let (line, c) := c.span (!isLineEnd ·)
    let text := text ++ breaks ++ line
    let (last, c) := c.lineBreak
    let (breaks, c) := blockBreaks indent (c.size + 1) c []
    if c.column = indent && !c.rest.isEmpty then
      let joint :=
        if folded && last = ['\n'] && flush && c.head ≠ ' ' && c.head ≠ '\t' then
          if breaks.isEmpty then [' '] else []
        else last
      blockLines folded indent fuel c (text ++ joint) breaks
    else (text, last, breaks, c)

/-- A block scalar inside a collection indented by `parent`: its text and the place after it. -/
def blockScalar (parent : Int) (c : Cursor) : Except Error (String × Cursor) := do
  let folded := c.head = '>'
  let (chomping, increment, c) ← blockHeader c.next
  let least := (parent + 1).toNat.max 1
  let (breaks, indent, c) := match increment with
    | none =>
      let (breaks, widest, c) := blockIndentation (c.size + 1) c [] 0
      (breaks, max least widest, c)
    | some n =>
      let indent := least + n - 1
      let (breaks, c) := blockBreaks indent (c.size + 1) c []
      (breaks, indent, c)
  let (text, last, breaks, c) :=
    if c.column = indent && !c.rest.isEmpty then blockLines folded indent (c.size + 1) c [] breaks
    else ([], [], breaks, c)
  let ending := match chomping with
    | .strip => []
    | .clip => last
    | .keep => last ++ breaks
  .ok (String.ofList (text ++ ending), c)

end ObjectWatch.Yaml.Cursor
