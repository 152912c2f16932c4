/-!
# The extended line

Every number of the program, whether a whole number of any size or a double, has a place on the
rational line extended by its two ends, or no place at all.  Order and equality of numbers are
decided there, so that a whole number and a double are compared by value and never by rounding one
to the type of the other.
-/

namespace Appraisal

/-- A place on the rational line with both ends, or none. -/
inductive Extent
  /-- Left of every number: negative infinity. -/
  | below
  /-- An exact rational value. -/
  | finite (value : Rat)
  /-- Right of every number: positive infinity. -/
  | above
  /-- No place on the line; unordered with everything, itself included. -/
  | undefined
  deriving DecidableEq, Inhabited

namespace Extent

/-- Strictly left of; nothing holds of a missing place. -/
def less : Extent → Extent → Bool
  | .undefined, _ => false
  | _, .undefined => false
  | .below, .below => false
  | .below, _ => true
  | _, .below => false
  | .above, _ => false
  | .finite _, .above => true
  | .finite left, .finite right => decide (left < right)

/-- At the same place; a missing place is not even at its own. -/
def same : Extent → Extent → Bool
  | .below, .below => true
  | .above, .above => true
  | .finite left, .finite right => decide (left = right)
  | _, _ => false

/-- Left of, or at the same place. -/
def atMost (left right : Extent) : Bool :=
  left.less right || left.same right

/-- The place of a double, read off its sign, mantissa and exponent without rounding. -/
def ofFloat (value : Float) : Extent :=
  match value.toModel.unpack with
  | .notANumber => .undefined
  | .infinity .negative => .below
  | .infinity .positive => .above
  | .zero _ => .finite 0
  | .finite sign mantissa exponent _ =>
      if 0 ≤ exponent then .finite ((sign.apply (mantissa * Nat.pow 2 exponent.toNat) : Int) : Rat)
      else .finite (mkRat (sign.apply mantissa) (Nat.pow 2 (-exponent).toNat))

/-- The exact value, when there is one. -/
def value? : Extent → Option Rat
  | .finite value => some value
  | _ => none

/-- Whether the place is one of a rational number. -/
def isFinite : Extent → Bool
  | .finite _ => true
  | _ => false

@[simp]
theorem less_irrefl (place : Extent) : place.less place = false := by
  cases place <;> simp only [less]
  exact decide_eq_false Rat.lt_irrefl

/-- A place that is left of another or the same is not right of it. -/
theorem not_less_of_atMost {left right : Extent} (ordered : left.atMost right = true) :
    right.less left = false := by
  cases left <;> cases right <;> simp_all [atMost, less, same]
  grind

theorem same_comm (left right : Extent) : left.same right = right.same left := by
  cases left <;> cases right <;> simp [same, eq_comm]

theorem same_self {place : Extent} (defined : place ≠ .undefined) : place.same place = true := by
  cases place <;> simp_all [same]

end Extent

end Appraisal
