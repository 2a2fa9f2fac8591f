import ObjectWatch.Number.Binary64
import ObjectWatch.Text.Digit

/-!
Reading a double from text: blanks around it, a sign, decimal digits of any script with at most one
point and an exponent, single underscores between digits, or the name of an infinity or of no number
in any case.
-/

namespace ObjectWatch.Binary64

/-- The leading ASCII digits of a text and the rest. -/
def digitsOf (cs : List Char) : List Char × List Char :=
  (cs.takeWhile Char.isDigit, cs.dropWhile Char.isDigit)

def natOfDigits (cs : List Char) : Nat :=
  cs.foldl (fun n c => 10 * n + (c.toNat - 0x30)) 0

def signOf : List Char → Bool × List Char
  | '-' :: r => (true, r)
  | '+' :: r => (false, r)
  | r => (false, r)

/-- An exponent that ends the text; none is zero. -/
def exponent? : List Char → Option Int
  | [] => some 0
  | c :: r =>
    if c = 'e' || c = 'E' then
      let (negative, ds) := signOf r
      if ds.isEmpty || !ds.all Char.isDigit then none
      else some (if negative then -(natOfDigits ds : Int) else natOfDigits ds)
    else none

/-- An unsigned decimal: digits on at least one side of the point. -/
def decimal? (negative : Bool) (cs : List Char) : Option Binary64 :=
  let (whole, r) := digitsOf cs
  let (part, r) := match r with
    | '.' :: r => digitsOf r
    | r => ([], r)
  if whole.isEmpty && part.isEmpty then none
  else (exponent? r).map fun e => ofDecimal negative (natOfDigits (whole ++ part)) (e - part.length)

/-- A signed decimal, infinity or no number in ASCII, without blanks. -/
def plain? (cs : List Char) : Option Binary64 :=
  let (negative, r) := signOf cs
  let name := String.ofList (r.map Char.toLower)
  if name = "inf" || name = "infinity" then some (.infinite negative)
  else if name = "nan" then some (.nan 0)
  else decimal? negative r

/-- Removes underscores that stand between two digits; any other is refused. -/
def dropUnderscores? (afterDigit : Bool) : List Char → Option (List Char)
  | [] => some []
  | '_' :: r =>
    if afterDigit && (r.head?.any Char.isDigit) then dropUnderscores? false r else none
  | c :: r => (dropUnderscores? c.isDigit r).map (c :: ·)

/-- Digits of every script become ASCII digits and blanks become spaces; no other character outside
ASCII belongs to a number. -/
def toAscii? (cs : List Char) : Option (List Char) :=
  cs.mapM fun c =>
    if Text.isBlank c then some ' '
    else match Text.digitValue? c with
      | some d => some (Char.ofNat (0x30 + d))
      | none => if c.toNat < 0x7f then some c else none

def ofText? (s : String) : Option Binary64 := do
  let cs ← toAscii? s.toList
  let inner := ((cs.dropWhile (· = ' ')).reverse.dropWhile (· = ' ')).reverse
  plain? (← dropUnderscores? false inner)

/-- Octets are read as the ASCII text that they make. -/
def ofOctets? (os : List UInt8) : Option Binary64 :=
  if os.all (· < 0x80) then ofText? (String.ofList (os.map fun o => Char.ofNat o.toNat)) else none

end ObjectWatch.Binary64
