/-!
A place in a text: what is still to be read, and how far it is from the start, in lines and in columns.
Also the classes of characters that tokens end at.
-/

namespace ObjectWatch.Yaml

/-- Read past the end of a text. -/
def endMark : Char := Char.ofNat 0

/-- The byte order mark. It takes up no column. -/
def byteOrderMark : Char := Char.ofNat 0xfeff

def isBreak (c : Char) : Bool :=
  c = '\n' || c = '\r' || c.toNat = 0x85 || c.toNat = 0x2028 || c.toNat = 0x2029

/-- A line break or the end of the text. -/
def isLineEnd (c : Char) : Bool :=
  isBreak c || c = endMark

def isSpaceOrEnd (c : Char) : Bool :=
  isLineEnd c || c = ' '

/-- A blank, a line break or the end: what has to follow an indicator. -/
def isGap (c : Char) : Bool :=
  isSpaceOrEnd c || c = '\t'

/-- A character of the names of anchors, handles and directives. -/
def isWordChar (c : Char) : Bool :=
  c.isAlphanum || c = '-' || c = '_'

def isAllowed (c : Char) : Bool :=
  let n := c.toNat
  n = 0x9 || n = 0xa || n = 0xd || (0x20 ≤ n && n ≤ 0x7e) || n = 0x85 || (0xa0 ≤ n && n ≤ 0xd7ff)
    || (0xe000 ≤ n && n ≤ 0xfffd) || 0x10000 ≤ n

structure Cursor where
  rest : List Char
  /-- The number of characters of the whole text, a bound for every loop over the rest. -/
  size : Nat
  index : Nat
  line : Nat
  column : Nat

namespace Cursor

def start (cs : List Char) : Cursor :=
  { rest := cs, size := cs.length, index := 0, line := 0, column := 0 }

/-- The character `n` places on. -/
def peek (c : Cursor) (n : Nat) : Char :=
  c.rest.getD n endMark

def head (c : Cursor) : Char :=
  c.peek 0

/-- One character on. A carriage return before a line feed does not end the line yet. -/
def next (c : Cursor) : Cursor :=
  match c.rest with
  | [] => c
  | ch :: rest =>
    let c := { c with rest, index := c.index + 1 }
    if isBreak ch && !(ch = '\r' && rest.head? = some '\n') then { c with line := c.line + 1, column := 0 }
    else if ch = byteOrderMark then c
    else { c with column := c.column + 1 }

def skip : Nat → Cursor → Cursor
  | 0, c => c
  | n + 1, c => skip n c.next

/-- The characters of a class that come next, and the place after them. -/
def span (p : Char → Bool) (c : Cursor) : List Char × Cursor :=
  let taken := c.rest.takeWhile p
  (taken, c.skip taken.length)

def skipWhile (p : Char → Bool) (c : Cursor) : Cursor :=
  (c.span p).2

def skipSpaces (c : Cursor) : Cursor :=
  c.skipWhile (· = ' ')

def skipComment (c : Cursor) : Cursor :=
  if c.head = '#' then c.skipWhile (!isLineEnd ·) else c

/-- The line break that comes next, in its normal form, and the place after it. -/
def lineBreak (c : Cursor) : List Char × Cursor :=
  if c.head = '\r' && c.peek 1 = '\n' then (['\n'], c.skip 2)
  else if c.head.toNat = 0x2028 || c.head.toNat = 0x2029 then ([c.head], c.next)
  else if isBreak c.head then (['\n'], c.next)
  else ([], c)

/-- Whether three of a character and then a gap come next. -/
def atTriple (ch : Char) (c : Cursor) : Bool :=
  c.head = ch && c.peek 1 = ch && c.peek 2 = ch && isGap (c.peek 3)

/-- Whether a line that separates documents comes next. -/
def atSeparator (c : Cursor) : Bool :=
  c.atTriple '-' || c.atTriple '.'

end Cursor

end ObjectWatch.Yaml
