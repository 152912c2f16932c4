import Appraisal.Number.Arithmetic

/-!
# Faults of statistics

A division by zero and a square that leaves the range of doubles are faults, not values.
-/

namespace Appraisal.Statistics

/-- Why a number cannot be computed. -/
inductive Fault
  | divisionByZero
  /-- The square of a finite value is infinite. -/
  | overflow
  deriving DecidableEq, Repr

/-- The sentence that describes a fault. -/
def Fault.message : Fault → String
  | .divisionByZero => "float division by zero"
  | .overflow => "(34, 'Numerical result out of range')"

variable {α : Type} [Arithmetic α]

/-- Divide unless the divisor is zero. -/
def divide (dividend divisor : α) : Except Fault α :=
  if Arithmetic.same divisor Arithmetic.zero then .error .divisionByZero
  else .ok (dividend / divisor)

/-- Square a value unless that takes it from the finite to the infinite. -/
def square (value : α) : Except Fault α :=
  let squared := Arithmetic.square value
  if Arithmetic.isFinite value && !Arithmetic.isFinite squared &&
      !Arithmetic.isUndefined squared then .error .overflow
  else .ok squared

/-- The mean of a sample; zero if it is empty. -/
def mean (sample : List α) : α :=
  Arithmetic.sum sample / Arithmetic.ofInt (max 1 sample.length)

/-- The sum of the squares of some values. -/
def sumOfSquares (values : List α) : Except Fault α :=
  (values.mapM square).map Arithmetic.sum

/-- Where all values are finite no square is at fault. -/
theorem sumOfSquares_of_finite (finite : ∀ value : α, Arithmetic.isFinite value = true)
    (values : List α) :
    sumOfSquares values = .ok (Arithmetic.sum (values.map Arithmetic.square)) := by
  have regular : square (α := α) = fun value => pure (Arithmetic.square value) := by
    funext value
    simp only [square, finite, Bool.not_true, Bool.and_false, Bool.false_and, Bool.false_eq_true,
      if_false]
    rfl
  rw [sumOfSquares, regular, List.mapM_pure]
  rfl

end Appraisal.Statistics
