/-!
Double precision numbers as exact data. A finite number counts units of `2 ^ -1074`, the least
positive double, so equality, order and rounding are arithmetic on natural numbers, and a number has
one form apart from the sign of zero.
-/

namespace ObjectWatch

/-- A double: a signed count of units of `2 ^ -1074`, an infinity, or not a number. -/
inductive Binary64 where
  | finite (negative : Bool) (units : Nat)
  | infinite (negative : Bool)
  /-- Not a number; the payload tells two of them apart. -/
  | nan (payload : Nat)
  deriving DecidableEq, Repr, Inhabited

namespace Binary64

/-- The number of units in one. -/
def one : Nat := Nat.pow 2 1074

/-- The first count that is too large for a finite double. -/
def limit : Nat := Nat.pow 2 2098

/-- The distance from a count to the next larger representable one: 53 significant bits are kept. -/
def spacing (units : Nat) : Nat := Nat.pow 2 (units.log2 - 52)

/-- The quotient rounded to the nearest natural number, a tie to the even one. -/
def roundQuotient (num den : Nat) : Nat :=
  let q := num / den
  let twice := 2 * (num % den)
  if twice < den then q else if den < twice then q + 1 else q + q % 2

/-- The double nearest to `num / den` with the given sign, a tie to the even significand, an infinity
past the largest. -/
def ofRatio (negative : Bool) (num den : Nat) : Binary64 :=
  let scaled := num * one
  let step := spacing (scaled / den)
  let units := roundQuotient scaled (den * step) * step
  if units < limit then .finite negative units else .infinite negative

/-- The double nearest to `digits * 10 ^ exponent`. A magnitude far outside the range needs no power
of ten to be computed. -/
def ofDecimal (negative : Bool) (digits : Nat) (exponent : Int) : Binary64 :=
  let magnitude : Int := exponent + (Nat.toDigits 10 digits).length
  if digits = 0 then .finite negative 0
  else if 400 < magnitude then .infinite negative
  else if magnitude < -400 then .finite negative 0
  else if 0 ≤ exponent then ofRatio negative (digits * Nat.pow 10 exponent.toNat) 1
  else ofRatio negative digits (Nat.pow 10 (-exponent).toNat)

/-- The double nearest to an integer, none where that would be infinite. -/
def ofInt? (i : Int) : Option Binary64 :=
  match ofRatio (decide (i < 0)) i.natAbs 1 with
  | .finite negative units => some (.finite negative units)
  | _ => none

/-- A finite number as a signed count of units. -/
def signedUnits? : Binary64 → Option Int
  | .finite true units => some (-(units : Int))
  | .finite false units => some units
  | _ => none

/-- Numerical equality: the two zeros are equal, and not a number equals nothing. -/
def equal : Binary64 → Binary64 → Bool
  | .finite s m, .finite t n => m == n && (s == t || m == 0)
  | .infinite s, .infinite t => s == t
  | _, _ => false

/-- Numerical equality with an integer, without rounding it. -/
def equalInt (x : Binary64) (i : Int) : Bool :=
  x.signedUnits? == some (i * one)

def isNan : Binary64 → Bool
  | .nan _ => true
  | _ => false

/-- Either zero. -/
def isZero : Binary64 → Bool
  | .finite _ units => units == 0
  | _ => false

def negate : Binary64 → Binary64
  | .finite s units => .finite (!s) units
  | .infinite s => .infinite (!s)
  | .nan p => .nan p

/-- The rounded product; zero times an infinity is not a number. -/
def mul : Binary64 → Binary64 → Binary64
  | .finite s m, .finite t n => ofRatio (s != t) (m * n) (one * one)
  | .infinite s, .infinite t => .infinite (s != t)
  | .finite s m, .infinite t => if m = 0 then .nan 0 else .infinite (s != t)
  | .infinite s, .finite t n => if n = 0 then .nan 0 else .infinite (s != t)
  | .nan p, _ => .nan p
  | _, .nan p => .nan p

/-- The rounded sum; opposite infinities add up to no number, and a sum of zero is negative only if
both terms are. -/
def add : Binary64 → Binary64 → Binary64
  | .finite s m, .finite t n =>
    let sum : Int := (if s then -(m : Int) else m) + (if t then -(n : Int) else n)
    if sum = 0 then .finite (s && t) 0 else ofRatio (decide (sum < 0)) sum.natAbs one
  | .infinite s, .infinite t => if s = t then .infinite s else .nan 0
  | .finite _ _, .infinite t => .infinite t
  | .infinite s, .finite _ _ => .infinite s
  | .nan p, _ => .nan p
  | _, .nan p => .nan p

end Binary64

end ObjectWatch
