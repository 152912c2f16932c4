import Appraisal.Number.Double

/-!
# Numbers

A number is whole and of any size, or a double.  The two kinds differ where a text is validated,
and are one line for comparison.
-/

namespace Appraisal

/-- A whole number of any size or a double. -/
inductive Number
  /-- A number written without point and exponent. -/
  | whole (value : Int)
  /-- A number written with point or exponent, or one of the special doubles. -/
  | double (value : Float)
  deriving DecidableEq, Inhabited

/-- Numerals are whole. -/
instance (value : Nat) : OfNat Number value := ⟨.whole value⟩

namespace Number

/-- The place of a number on the extended line. -/
def extent : Number → Extent
  | .whole value => .finite value
  | .double value => Extent.ofFloat value

/-- Numerically less; false when one side is undefined. -/
def less (left right : Number) : Bool :=
  left.extent.less right.extent

/-- Numerically at most; false when one side is undefined. -/
def atMost (left right : Number) : Bool :=
  left.extent.atMost right.extent

/-- Numerically equal; false when one side is undefined. -/
def same (left right : Number) : Bool :=
  left.extent.same right.extent

theorem whole_atMost_whole (left right : Int) :
    (whole left).atMost (whole right) = decide (left ≤ right) := by
  have order : left < right ∨ left = right ↔ left ≤ right := by omega
  simp only [atMost, extent, Extent.atMost, Extent.less, Extent.same, Rat.intCast_lt_intCast,
    Rat.intCast_inj, ← Bool.decide_or, order]

/-- The opposite number. -/
def neg : Number → Number
  | .whole value => .whole (-value)
  | .double value => .double (-value)

/-- The nearest double, unless a whole number is out of range. -/
def toFloat? : Number → Option Float
  | .whole value => Double.ofWhole? value
  | .double value => some value

/-- The nearest double, where a whole number out of range goes to the infinity on its side. -/
def toFloat : Number → Float
  | .whole value => Float.ofInt value
  | .double value => value

end Number

end Appraisal
