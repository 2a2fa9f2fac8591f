import ObjectWatch.Yaml.Cursor

/-!
The types of nodes, and which type a plain scalar has by its form.
-/

namespace ObjectWatch.Yaml

inductive Tag where
  | str
  | null
  | bool
  | int
  | float
  | timestamp
  | merge
  /-- The key of a default value. -/
  | value
  | seq
  | map
  /-- A type that no value can be read of. -/
  | unknown
  deriving DecidableEq, Repr

namespace Tag

/-- What the names of the standard types begin with. -/
def standard : String := "tag:yaml.org,2002:"

def ofName (s : String) : Tag :=
  match [("str", str), ("null", null), ("bool", bool), ("int", int), ("float", float),
      ("timestamp", timestamp), ("merge", merge), ("value", value), ("seq", seq), ("map", map)].find?
      fun entry => standard ++ entry.1 == s with
  | some entry => entry.2
  | none => unknown

/-! ### Forms of plain scalars -/

def dropSign : List Char → List Char
  | '-' :: r => r
  | '+' :: r => r
  | r => r

def isDigitOrUnderscore (c : Char) : Bool :=
  c.isDigit || c = '_'

/-- Groups of minutes or seconds, each after a colon; `dot` says whether a point and a fraction end them. -/
def isSexagesimalTail (dot : Bool) : List Char → Bool
  | [] => !dot
  | ':' :: a :: b :: r =>
    if a.isDigit && b.isDigit then a.toNat ≤ 0x35 && isSexagesimalTail dot r
    else a.isDigit && isSexagesimalTail dot (b :: r)
  | [':', a] => a.isDigit && !dot
  | '.' :: r => dot && r.all isDigitOrUnderscore
  | _ => false

def isSexagesimal (dot : Bool) (cs : List Char) : Bool :=
  let r := cs.dropWhile isDigitOrUnderscore
  r.head? = some ':' && isSexagesimalTail dot r

/-- An integer: binary, octal after a zero, decimal, hexadecimal, or to the base sixty. -/
def isInt (cs : List Char) : Bool :=
  match dropSign cs with
  | ['0'] => true
  | '0' :: 'b' :: r => !r.isEmpty && r.all fun c => c = '0' || c = '1' || c = '_'
  | '0' :: 'x' :: r =>
    !r.isEmpty && r.all fun c => c.isDigit || ('a' ≤ c && c ≤ 'f') || ('A' ≤ c && c ≤ 'F') || c = '_'
  | '0' :: r => r.all fun c => ('0' ≤ c && c ≤ '7') || c = '_'
  | c :: r => c.isDigit && (r.all isDigitOrUnderscore || isSexagesimal false r)
  | [] => false

/-- An exponent that ends a number: a sign and digits, or nothing at all. -/
def isExponent : List Char → Bool
  | [] => true
  | e :: s :: r => (e = 'e' || e = 'E') && (s = '-' || s = '+') && !r.isEmpty && r.all Char.isDigit
  | _ => false

/-- A number with a point: decimal with a signed exponent, to the base sixty, an infinity, or no number.
Without a digit before the point there may be no sign. -/
def isFloat (cs : List Char) : Bool :=
  let word := String.ofList cs
  let unsigned := dropSign cs
  let infinite := [".inf", ".Inf", ".INF"].contains (String.ofList unsigned)
  if infinite || [".nan", ".NaN", ".NAN"].contains word then true
  else match cs with
    | '.' :: d :: r => d.isDigit && isExponent (r.dropWhile isDigitOrUnderscore)
    | _ => match unsigned with
      | d :: r =>
        d.isDigit && (isSexagesimal true r || match r.dropWhile isDigitOrUnderscore with
          | '.' :: r => isExponent (r.dropWhile isDigitOrUnderscore)
          | _ => false)
      | [] => false

structure Stamp where
  year : List Char
  month : List Char
  day : List Char
  /-- Hour, minute and second. -/
  time : Option (List Char × List Char × List Char)
  fraction : List Char
  /-- Universal time, or an offset: west of it or not, hours and minutes. -/
  zone : Option (Option (Bool × List Char × List Char))

/-- Between `least` and `most` digits and the rest; more digits are left in the rest. -/
def digits? (least most : Nat) (cs : List Char) : Option (List Char × List Char) :=
  let ds := (cs.take most).takeWhile Char.isDigit
  if least ≤ ds.length then some (ds, cs.drop ds.length) else none

def after? (c : Char) : List Char → Option (List Char)
  | [] => none
  | d :: r => if d = c then some r else none

/-- The zone of a moment, to the end of the text. -/
def zone? (cs : List Char) : Option (Option (Option (Bool × List Char × List Char))) :=
  match cs.dropWhile fun c => c = ' ' || c = '\t' with
  | [] => if cs.isEmpty then some none else none
  | ['Z'] => some (some none)
  | c :: r => do
    if c ≠ '-' ∧ c ≠ '+' then none
    else
      let (hours, r) ← digits? 1 2 r
      match r with
      | [] => some (some (some (c = '-', hours, [])))
      | r => do
        let (minutes, r) ← digits? 2 2 (← after? ':' r)
        if r.isEmpty then some (some (some (c = '-', hours, minutes))) else none

def time? (stamp : Stamp) (cs : List Char) : Option Stamp := do
  let r ← match cs with
    | 'T' :: r => some r
    | 't' :: r => some r
    | ' ' :: r => some (r.dropWhile fun c => c = ' ' || c = '\t')
    | '\t' :: r => some (r.dropWhile fun c => c = ' ' || c = '\t')
    | _ => none
  let (hour, r) ← digits? 1 2 r
  let (minute, r) ← digits? 2 2 (← after? ':' r)
  let (second, r) ← digits? 2 2 (← after? ':' r)
  let (fraction, r) := match r with
    | '.' :: r => (r.takeWhile Char.isDigit, r.dropWhile Char.isDigit)
    | r => ([], r)
  let zone ← zone? r
  some { stamp with time := some (hour, minute, second), fraction := fraction, zone := zone }

/-- A day, or a day with a time, as it may be written. -/
def stamp? (cs : List Char) : Option Stamp := do
  let (year, r) ← digits? 4 4 cs
  let (month, r) ← digits? 1 2 (← after? '-' r)
  let (day, r) ← digits? 1 2 (← after? '-' r)
  let stamp : Stamp := { year, month, day, time := none, fraction := [], zone := none }
  if r.isEmpty then some stamp else time? stamp r

/-- The form of a day or moment: a day alone has two digits for the month and for the day. -/
def isTimestamp (cs : List Char) : Bool :=
  match stamp? cs with
  | some stamp => stamp.time.isSome || (stamp.month.length = 2 && stamp.day.length = 2)
  | none => false

def boolWords : List (String × Bool) :=
  [("yes", true), ("no", false), ("true", true), ("false", false), ("on", true), ("off", false)]

/-- A word in lower case, in upper case, or with an upper first letter. -/
def spellings (word : String) : List String :=
  let capital := match word.toList with
    | c :: r => String.ofList (c.toUpper :: r)
    | [] => ""
  [word, capital, word.map Char.toUpper]

def ofPlain (cs : List Char) : Tag :=
  let word := String.ofList cs
  if boolWords.any fun entry => (spellings entry.1).contains word then bool
  else if isFloat cs then float
  else if isInt cs then int
  else if word = "<<" then merge
  else if word = "" || word = "~" || (spellings "null").contains word then null
  else if isTimestamp cs then timestamp
  else if word = "=" then value
  else str

end Tag

end ObjectWatch.Yaml
