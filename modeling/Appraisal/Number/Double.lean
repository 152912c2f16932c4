import Appraisal.Number.Extent
import Appraisal.Number.Rounding

/-!
# Exact operations on doubles

Floors, truncations and decimal rounding of doubles are taken on the exact binary value and only
the final result, if it is a double again, is rounded to the nearest one.
-/

namespace Appraisal.Double

/-- The double that is not a number. -/
def undefined : Float := 0.0 / 0.0

/-- Positive infinity. -/
def infinity : Float := 1.0 / 0.0

/-- Whether the sign bit is set, also of a zero. -/
def isNegative (value : Float) : Bool :=
  match value.toModel.unpack with
  | .infinity .negative | .zero .negative | .finite .negative _ _ _ => true
  | _ => false

/-- Set the sign of a magnitude. -/
def withSign (negative : Bool) (magnitude : Float) : Float :=
  if negative then -magnitude else magnitude

/-- The exact value of a finite double; zero for the others. -/
def exact (value : Float) : Rat :=
  (Extent.ofFloat value).value?.getD 0

/-- The greatest whole number not above a finite double. -/
def floor (value : Float) : Int :=
  (exact value).floor

/-- The whole part of a finite double, toward zero. -/
def truncate (value : Float) : Int :=
  Rounding.truncate (exact value)

/-- The whole number nearest to a finite double, ties to even. -/
def nearest (value : Float) : Int :=
  Rounding.halfEven (exact value)

/-- The double nearest to `units / 10 ^ places`. -/
def ofUnits (units : Nat) (places : Nat) : Float :=
  Float.ofScientific units true places

/--
Round half to even at a number of decimal places, on the exact binary value.  The sign survives,
also on a result of zero; infinities and the undefined double stay as they are.
-/
def roundPlaces (places : Nat) (value : Float) : Float :=
  if value.isFinite then
    let units := Rounding.halfEven (exact value.abs * (Nat.pow 10 places : Rat))
    withSign (isNegative value) (ofUnits units.toNat places)
  else value

/-- A power of doubles, rounded as the general power function rounds. -/
@[noinline]
def power (base exponent : Float) : Float :=
  Float.pow base exponent

/-- The second power; it may differ in the last place from a product. -/
def square (value : Float) : Float :=
  power value 2.0

/-- The least magnitude of a whole number that no double is near: half a step above the largest. -/
def wholeLimit : Nat := Nat.pow 2 1024 - Nat.pow 2 970

/-- The double nearest to a whole number, unless it is out of range. -/
def ofWhole? (value : Int) : Option Float :=
  if value.natAbs < wholeLimit then some (Float.ofInt value) else none

theorem ofWhole?_of_le_one {value : Int} (small : value.natAbs ≤ 1) :
    ofWhole? value = some (Float.ofInt value) :=
  if_pos (Nat.lt_of_le_of_lt small (by decide +kernel))

end Appraisal.Double
