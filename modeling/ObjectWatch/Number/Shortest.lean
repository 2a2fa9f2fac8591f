import ObjectWatch.Number.Binary64

/-!
The text of a double: the fewest decimal digits that read back as the same number, and of those the
nearest. Digits are found on the decimal grids of 1, 2, … 17 digits in exact arithmetic.
-/

namespace ObjectWatch.Binary64

/-- Whether a quotient lies among the numbers that round to `units`. Gaps are counted in quarter
units, since half the gap below a power of two is a quarter of the gap above. The ends belong to the
interval when the significand is even. -/
def readsBack (units num den : Nat) : Bool :=
  let step := spacing units
  let below := if units = step * Nat.pow 2 52 ∧ 1 < step then step else 2 * step
  let low := (4 * units - below) * den
  let high := (4 * units + 2 * step) * den
  let x := 4 * num
  if (units / step) % 2 = 0 then decide (low ≤ x ∧ x ≤ high) else decide (low < x ∧ x < high)

/-- The decimal exponent of the first digit of a positive count. -/
def leadingExponent (units : Nat) : Int :=
  ((Nat.toDigits 10 (units * Nat.pow 10 330 / one)).length : Int) - 331

/-- The point of the grid `10 ^ exponent` that reads back as `units` and is nearest to it, if one of
the two neighbours on that grid does; a tie goes to the even one. -/
def onGrid? (units : Nat) (exponent : Int) : Option Nat :=
  let num := if exponent < 0 then units * Nat.pow 10 (-exponent).toNat else units
  let den := if exponent < 0 then one else one * Nat.pow 10 exponent.toNat
  let low := num / den
  let at? (n : Nat) : Bool :=
    if exponent < 0 then readsBack units (n * one) (Nat.pow 10 (-exponent).toNat)
    else readsBack units (n * one * Nat.pow 10 exponent.toNat) 1
  let nearest := roundQuotient num den
  let other := if nearest = low then low + 1 else low
  if at? nearest then some nearest else if at? other then some other else none

/-- The digits, as a number without trailing zeros, and the exponent of its last digit. -/
def dropZeros : Nat → Nat → Int → Nat × Int
  | 0, digits, exponent => (digits, exponent)
  | fuel + 1, digits, exponent =>
    if digits % 10 = 0 ∧ digits ≠ 0 then dropZeros fuel (digits / 10) (exponent + 1)
    else (digits, exponent)

/-- The shortest decimal that reads back, searched on the grids of `count`, `count + 1`, … digits. -/
def shortestFrom (units : Nat) (lead : Int) : Nat → Nat → Nat × Int
  | 0, _ => (units, -1074)
  | grids + 1, count =>
    let exponent := lead - count + 1
    match onGrid? units exponent with
    | some digits => dropZeros 20 digits exponent
    | none => shortestFrom units lead grids (count + 1)

/-- The shortest decimal `digits * 10 ^ exponent` that reads back as a positive count of units. -/
def shortest (units : Nat) : Nat × Int :=
  shortestFrom units (leadingExponent units) 17 1

/-- Positional notation is used from this exponent of the first digit on … -/
def leastPositional : Int := -4

/-- … and below this one; a mark of at least two digits follows the others. -/
def firstScientific : Int := 16

/-- The text of a positive decimal: positional with at least one digit after the point, or one digit
before it and a signed exponent of two digits or more. -/
def decimalText (digits : Nat) (exponent : Int) : String :=
  let ds := Nat.toDigits 10 digits
  let lead : Int := exponent + ds.length - 1
  let point : List Char → List Char → List Char
    | whole, [] => whole ++ ['.', '0']
    | whole, part => whole ++ '.' :: part
  if leastPositional ≤ lead ∧ lead < firstScientific then
    if lead < 0 then String.ofList (point ['0'] (List.replicate (-lead - 1).toNat '0' ++ ds))
    else
      let padded := ds ++ List.replicate exponent.toNat '0'
      String.ofList (point (padded.take (lead.toNat + 1)) (padded.drop (lead.toNat + 1)))
  else
    let mark := Nat.toDigits 10 lead.natAbs
    let mark := if mark.length < 2 then '0' :: mark else mark
    let mantissa := match ds with
      | d :: r => if r.isEmpty then [d] else d :: '.' :: r
      | [] => []
    String.ofList (mantissa ++ 'e' :: (if lead < 0 then '-' else '+') :: mark)

def text : Binary64 → String
  | .finite negative units =>
    let body := if units = 0 then "0.0" else decimalText (shortest units).1 (shortest units).2
    if negative then "-" ++ body else body
  | .infinite negative => if negative then "-inf" else "inf"
  | .nan _ => "nan"

end ObjectWatch.Binary64
