import ObjectWatch.Number.Reading
import ObjectWatch.Value.Text
import ObjectWatch.Yaml.Error
import ObjectWatch.Yaml.Tag

/-!
The value of a scalar: the type says how its text is read. Underscores in numbers are dropped, and a number
with colons has the base sixty.
-/

namespace ObjectWatch.Yaml.Tag

def dropUnderscores (cs : List Char) : List Char :=
  cs.filter (· ≠ '_')

/-- The value of a digit of any base up to thirty-six. -/
def baseDigit? (c : Char) : Option Nat :=
  if 'a' ≤ c ∧ c ≤ 'z' then some (c.toNat - 0x57)
  else if 'A' ≤ c ∧ c ≤ 'Z' then some (c.toNat - 0x37)
  else Text.digitValue? c

def natOfBase? (base : Nat) (cs : List Char) : Option Nat :=
  if cs.isEmpty then none
  else cs.foldlM (fun n c => (baseDigit? c).bind fun d => if d < base then some (base * n + d) else none) 0

/-- The integer that a text spells in a base, blanks around it and a sign allowed. -/
def intOfBase? (base : Nat) (cs : List Char) : Option Int :=
  let inner := ((cs.dropWhile Text.isBlank).reverse.dropWhile Text.isBlank).reverse
  let digits := dropSign inner
  if base = 10 && Decimal.mostDigits < digits.length then none
  else (natOfBase? base digits).map fun n => if inner.head? = some '-' then -(n : Int) else n

def splitColons : List Char → List (List Char)
  | [] => [[]]
  | ':' :: r => [] :: splitColons r
  | c :: r => match splitColons r with
    | part :: parts => (c :: part) :: parts
    | [] => [[c]]

def startsWith (start cs : List Char) : Bool :=
  start.isPrefixOf cs

def unsignedInt (cs : List Char) : Except ScalarError Int :=
  let read (base : Nat) (cs : List Char) : Except ScalarError Int :=
    match intOfBase? base cs with
    | some i => .ok i
    | none => .error .noInteger
  if cs = ['0'] then .ok 0
  else if startsWith ['0', 'b'] cs then read 2 (cs.drop 2)
  else if startsWith ['0', 'x'] cs then read 16 (cs.drop 2)
  else if cs.head? = some '0' then read 8 cs
  else if cs.isEmpty then .error .emptyNumber
  else if cs.contains ':' then do
    let parts ← (splitColons cs).mapM (read 10)
    .ok (parts.foldl (fun n part => 60 * n + part) 0)
  else read 10 cs

def intOf (cs : List Char) : Except ScalarError Int :=
  let cs := dropUnderscores cs
  if cs.isEmpty then .error .emptyNumber
  else do
    let i ← unsignedInt (dropSign cs)
    .ok (if cs.head? = some '-' then -i else i)

def doubleOf (cs : List Char) : Except ScalarError Binary64 :=
  let s := String.ofList cs
  match Binary64.ofText? s with
  | some x => .ok x
  | none => .error (.noDouble s)

/-- Adds up parts to the base sixty, the last one first, rounding at each step. -/
def sumSixties (base : Nat) (sum : Binary64) : List Binary64 → Binary64
  | [] => sum
  | part :: parts =>
    sumSixties (60 * base) (sum.add (part.mul (.ofRatio false base 1))) parts

def unsignedFloat (cs : List Char) : Except ScalarError Binary64 :=
  if cs = ".inf".toList then .ok (.infinite false)
  else if cs.contains ':' then do
    let parts ← (splitColons cs).mapM doubleOf
    .ok (sumSixties 1 (.finite false 0) parts.reverse)
  else doubleOf cs

def floatOf (cs : List Char) : Except ScalarError Binary64 :=
  let cs := (dropUnderscores cs).map Char.toLower
  if cs.isEmpty then .error .emptyNumber
  else if dropSign cs = ".nan".toList then .ok (.nan 0)
  else do
    let x ← unsignedFloat (dropSign cs)
    .ok (if cs.head? = some '-' then x.negate else x)

def natOf (cs : List Char) : Nat :=
  Binary64.natOfDigits cs

def Stamp.offset? (stamp : Stamp) : Option Int :=
  stamp.zone.map fun zone => match zone with
    | none => 0
    | some (west, hours, minutes) =>
      let offset : Int := 60 * natOf hours + natOf minutes
      if west then -offset else offset

/-- The day or moment of a text. Of a fraction of a second the first six digits count. -/
def timestampOf (cs : List Char) : Except ScalarError Value :=
  match stamp? cs with
  | none => .error .noTimestamp
  | some stamp =>
    let value? := match stamp.time with
      | none => (Day.of? (natOf stamp.year) (natOf stamp.month) (natOf stamp.day)).map Value.day
      | some (hour, minute, second) =>
        let micro := natOf ((stamp.fraction ++ List.replicate 6 '0').take 6)
        (Moment.of? (natOf stamp.year) (natOf stamp.month) (natOf stamp.day) (natOf hour) (natOf minute)
          (natOf second) micro stamp.offset?).map Value.moment
    match value? with
    | some v => .ok v
    | none => .error .noSuchMoment

def boolOf (s : String) : Except ScalarError Bool :=
  match boolWords.find? (·.1 == s.map Char.toLower) with
  | some entry => .ok entry.2
  | none => .error .noBool

/-- The value of a scalar of a type. Of the types of collections and of the others there are no scalars. -/
def scalarValue (tag : Tag) (s : String) : Except Error Value :=
  match tag with
  | str => .ok (.str s)
  | null => .ok .null
  | bool => ((boolOf s).map Value.bool).mapError .scalar
  | int => ((intOf s.toList).map Value.int).mapError .scalar
  | float => ((floatOf s.toList).map Value.float).mapError .scalar
  | timestamp => (timestampOf s.toList).mapError .scalar
  | merge | value | seq | map | unknown => .error .malformed

end ObjectWatch.Yaml.Tag
