/-!
# Rounding exact values

A quotient is rounded to the nearest whole number, and a value that lies half-way between two of
them goes to the even one.  Rounding to decimal places is the same rule on a finer grid.
-/

namespace Appraisal.Rounding

/-- The whole number nearest to `numerator / denominator`, ties to even. -/
def quotientHalfEven (numerator : Int) (denominator : Nat) : Int :=
  let lower := numerator / denominator
  let twice := 2 * (numerator % denominator)
  if twice < denominator then lower
  else if (denominator : Int) < twice then lower + 1
  else if lower % 2 = 0 then lower
  else lower + 1

/-- The whole number nearest to a rational, ties to even. -/
def halfEven (value : Rat) : Int :=
  quotientHalfEven value.num value.den

/-- The whole part of a rational, toward zero. -/
def truncate (value : Rat) : Int :=
  value.num.tdiv value.den

/-- A rational rounded half to even at a number of decimal places. -/
def toPlaces (places : Nat) (value : Rat) : Rat :=
  mkRat (halfEven (value * (Nat.pow 10 places : Rat))) (Nat.pow 10 places)

/-- A tie goes to the even neighbour, on either side of zero. -/
example : [halfEven (1 / 2), halfEven (3 / 2), halfEven (-1 / 2), halfEven (5 / 2)] = [0, 2, 0, 2] := by
  decide +kernel

end Appraisal.Rounding
