import Appraisal.Number.Double

/-!
# Two readings of a computation

Scores, weights and simulated amounts are computed in a fixed order of operations.  A computation
is written once over `Arithmetic` and has two readings: on doubles it is what the program answers,
on rationals it is exact.  Laws of sums and orders are stated of the exact reading; laws of
undefined operands are stated of the doubles.
-/

namespace Appraisal

/-- The operations of a numeric computation. -/
class Arithmetic (α : Type) extends Add α, Sub α, Neg α, Mul α, Div α where
  /-- A whole number. -/
  ofInt : Int → α
  /-- The decimal fraction `units / 10 ^ places`. -/
  decimal : (units places : Nat) → α
  /-- A value times itself, computed as a power. -/
  square : α → α
  /-- Strictly less; false of an undefined side. -/
  less : α → α → Bool
  /-- At most; false of an undefined side. -/
  atMost : α → α → Bool
  /-- Equal in value; false of an undefined side. -/
  same : α → α → Bool
  /-- Neither infinite nor undefined. -/
  isFinite : α → Bool
  /-- Not a number. -/
  isUndefined : α → Bool
  /-- The greatest whole number that is not above a finite value. -/
  floor : α → Int
  /-- Round to decimal places, half to even on the exact value. -/
  roundPlaces : (places : Nat) → α → α

namespace Arithmetic

instance : Arithmetic Float where
  ofInt := Float.ofInt
  decimal units places := Float.ofScientific units true places
  square := Double.square
  less left right := decide (left < right)
  atMost left right := decide (left ≤ right)
  same left right := left == right
  isFinite := Float.isFinite
  isUndefined := Float.isNaN
  floor := Double.floor
  roundPlaces := Double.roundPlaces

instance : Arithmetic Rat where
  ofInt value := value
  decimal units places := mkRat units (Nat.pow 10 places)
  square value := value * value
  less left right := decide (left < right)
  atMost left right := decide (left ≤ right)
  same left right := decide (left = right)
  isFinite _ := true
  isUndefined _ := false
  floor := Rat.floor
  roundPlaces := Rounding.toPlaces

variable {α : Type} [Arithmetic α]

/-- Zero. -/
def zero : α := ofInt 0

/-- Add up from the left, starting at zero. -/
def sum (values : List α) : α :=
  values.foldl (· + ·) zero

/-- The nearest whole number, a half going up; infinite and undefined values stay as they are. -/
def roundHalfUp (value : α) : α :=
  if isFinite value then ofInt (floor (value + decimal 5 1)) else value

/-- The distance from zero. -/
def magnitude (value : α) : α :=
  if less value zero then -value else value

/-- A value, or the bound if the value is below it. -/
def raisedTo (bound value : α) : α :=
  if less value bound then bound else value

/-- A value if it is above the bound; the bound otherwise, also for an undefined value. -/
def aboveOr (bound value : α) : α :=
  if less bound value then value else bound

/-- A value, or the bound if the value is above it. -/
def cutAt (bound value : α) : α :=
  if less bound value then bound else value

end Arithmetic

/-- Arithmetic with the functions that the normal distribution needs. -/
class Analytic (α : Type) extends Arithmetic α where
  /-- The square root. -/
  sqrt : α → α
  /-- The exponential function. -/
  exp : α → α
  /-- The circle number. -/
  pi : α

instance : Analytic Float where
  sqrt := Float.sqrt
  exp := Float.exp
  pi := Float.ofScientific 3141592653589793 true 15

end Appraisal
