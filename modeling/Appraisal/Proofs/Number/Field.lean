import Mathlib.Algebra.Order.Field.Basic
import Mathlib.Analysis.SpecialFunctions.Trigonometric.Basic
import Appraisal.Number.Arithmetic

/-!
# Exact readings with roots

The rationals have no square roots.  A computation that takes one is read exactly in an ordered field
with a square root, of which nothing is asked but that it is zero at zero alone, and with a positive
circle number.  The real numbers are such a field.
-/

namespace Appraisal

/-- The operations of a computation that an ordered field does not have by itself. -/
class ExactReading (K : Type) [Field K] [LinearOrder K] where
  floor : K → Int
  roundPlaces : (places : Nat) → K → K
  sqrt : K → K
  exp : K → K
  pi : K
  sqrt_eq_zero_iff {value : K} (nonneg : 0 ≤ value) : sqrt value = 0 ↔ value = 0
  pi_pos : 0 < pi

section Reading

variable {K : Type} [Field K] [LinearOrder K] [ExactReading K]

namespace ExactReading

/-- The operations of the field, and those that are added to it. -/
scoped instance analytic : Analytic K where
  ofInt value := value
  decimal units places := units / 10 ^ places
  square value := value * value
  less left right := decide (left < right)
  atMost left right := decide (left ≤ right)
  same left right := decide (left = right)
  isFinite _ := true
  isUndefined _ := false
  floor := ExactReading.floor
  roundPlaces := ExactReading.roundPlaces
  sqrt := ExactReading.sqrt
  exp := ExactReading.exp
  pi := ExactReading.pi

end ExactReading

namespace Arithmetic

open scoped ExactReading

theorem ofInt_field (value : Int) : (ofInt value : K) = value :=
  rfl

theorem decimal_field (units places : Nat) : (decimal units places : K) = units / 10 ^ places :=
  rfl

theorem square_field (value : K) : square value = value * value :=
  rfl

theorem less_field (left right : K) : less left right = decide (left < right) :=
  rfl

theorem same_field (left right : K) : same left right = decide (left = right) :=
  rfl

theorem isUndefined_field (value : K) : isUndefined value = false :=
  rfl

theorem zero_field : (zero : K) = 0 :=
  Int.cast_zero

theorem sum_field (values : List K) : sum values = values.sum := by
  rw [sum, List.sum_eq_foldl, zero_field]

theorem magnitude_field [IsStrictOrderedRing K] (value : K) : magnitude value = |value| := by
  rw [magnitude, less_field, zero_field]
  by_cases negative : value < 0
  · rw [decide_eq_true negative, if_pos rfl, abs_of_neg negative]
  · rw [decide_eq_false negative, if_neg Bool.false_ne_true, abs_of_nonneg (not_lt.mp negative)]

end Arithmetic

end Reading

/-- The real numbers, with their square root. -/
noncomputable instance : ExactReading ℝ where
  floor := Int.floor
  roundPlaces places value :=
    let scaled := value * 10 ^ places
    let nearest := if Int.fract scaled = 1 / 2 then 2 * round (scaled / 2) else round scaled
    (nearest : ℝ) / 10 ^ places
  sqrt := Real.sqrt
  exp := Real.exp
  pi := Real.pi
  sqrt_eq_zero_iff := Real.sqrt_eq_zero
  pi_pos := Real.pi_pos

end Appraisal
