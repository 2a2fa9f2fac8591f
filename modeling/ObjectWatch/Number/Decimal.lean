/-!
Decimal texts of integers. There is none with more digits than a fixed number, neither to be read nor to be
written.
-/

namespace ObjectWatch.Decimal

/-- The most digits that an integer to the base ten may have. -/
def mostDigits : Nat := 4300

/-- Whether an integer has a decimal text. -/
def fits (i : Int) : Bool :=
  decide ((Nat.toDigits 10 i.natAbs).length ≤ mostDigits)

end ObjectWatch.Decimal
