import Appraisal.Number.Arithmetic
import Mathlib.Algebra.Order.Ring.Rat

/-!
# The exact reading

Over the rationals the operations of a computation are those of an ordered field.
-/

namespace Appraisal.Arithmetic

@[simp]
theorem less_rat (left right : Rat) : less left right = decide (left < right) :=
  rfl

@[simp]
theorem atMost_rat (left right : Rat) : atMost left right = decide (left ≤ right) :=
  rfl

@[simp]
theorem zero_rat : (zero : Rat) = 0 :=
  rfl

@[simp]
theorem raisedTo_rat (bound value : Rat) : raisedTo bound value = max bound value := by
  rw [raisedTo, less_rat]
  by_cases below : value < bound
  · simp [below, below.le]
  · simp [below, not_lt.mp below]

@[simp]
theorem aboveOr_rat (bound value : Rat) : aboveOr bound value = max bound value := by
  rw [aboveOr, less_rat]
  by_cases above : bound < value
  · simp [above, above.le]
  · simp [above, not_lt.mp above]

@[simp]
theorem cutAt_rat (bound value : Rat) : cutAt bound value = min bound value := by
  rw [cutAt, less_rat]
  by_cases above : bound < value
  · simp [above, above.le]
  · simp [above, not_lt.mp above]

@[simp]
theorem sum_rat (values : List Rat) : sum values = values.sum :=
  List.sum_eq_foldl.symm

end Appraisal.Arithmetic
