import Appraisal.Statistics.Fault

/-!
# Comparison of two samples

Two samples are compared by the difference of their means in units of its standard error, where the
variances may differ.  The probability of a difference at least as large is taken from a polynomial
approximation of the normal distribution.  Samples that are too small or do not vary give an
undefined or unbounded statistic instead of a fault.
-/

namespace Appraisal.Statistics

open Arithmetic

variable {α : Type}

/-- The distribution function of the standard normal distribution, by a polynomial of degree five. -/
def normalBelow [Analytic α] (z : α) : Except Fault α := do
  let t ← divide (ofInt 1 : α) (ofInt 1 + decimal 2316419 7 * z)
  let density ← divide (Analytic.exp (-(decimal 5 1) * z * z)) (Analytic.sqrt (ofInt 2 * Analytic.pi))
  let polynomial := t * (decimal 319381530 9 + t * (-(decimal 356563782 9) + t *
    (decimal 1781477937 9 + t * (-(decimal 1821255978 9) + t * decimal 1330274429 9))))
  .ok (ofInt 1 - density * polynomial)

/-- A test statistic. -/
inductive Statistic (α : Type)
  | value (value : α)
  /-- No difference in units of no error. -/
  | undefined
  /-- A difference in units of no error. -/
  | unbounded (negative : Bool)
  deriving DecidableEq, Repr

/-- The comparison of two samples. -/
structure Comparison (α : Type) where
  /-- The difference of the means in units of its standard error. -/
  statistic : Statistic α
  /-- The degrees of freedom, unless they are undefined. -/
  freedom : Option α
  /-- The probability of a difference at least as large, unless it is undefined. -/
  probability : Option α
  deriving DecidableEq

/-- The variance of a sample around its mean, with one degree of freedom less than values. -/
def variance [Arithmetic α] (sample : List α) : Except Fault α := do
  let center := mean sample
  let squares ← sumOfSquares (sample.map (· - center))
  .ok (squares / ofInt (max 1 ((sample.length : Int) - 1)))

/-- The squared standard error of a mean. -/
def squaredError [Arithmetic α] (size : Nat) (variance : α) : Except Fault α :=
  divide variance (ofInt size)

/-- The statistic of two means in units of no error.  An undefined difference has the sign of the
undefined value that it comes from: positive if a sample holds one, negative if infinities cancel. -/
def degenerate [Arithmetic α] (left right : List α) : Statistic α :=
  let difference := mean left - mean right
  if same (mean left) (mean right) then .undefined
  else if isUndefined difference then .unbounded (!(left ++ right).any isUndefined)
  else .unbounded (less difference zero)

/-- The statistic of two samples, with the squared error that it is measured in. -/
def statisticOf [Analytic α] (left right : List α) (leftVariance rightVariance : α) :
    Statistic α × α :=
  let regular : Except Fault (Statistic α × α) := do
    let leftError ← squaredError left.length leftVariance
    let rightError ← squaredError right.length rightVariance
    let error := leftError + rightError
    let value ← divide (mean left - mean right) (Analytic.sqrt error)
    .ok (.value value, error)
  match regular with
  | .ok result => result
  | .error _ => (degenerate left right, zero)

/-- The term of a sample in the degrees of freedom. -/
def freedomTerm [Arithmetic α] (size : Nat) (variance : α) : Except Fault α :=
  divide (variance * variance) (ofInt ((size : Int) * size * (size - 1)))

/-- The degrees of freedom of two samples; undefined where a divisor is zero. -/
def freedomOf [Arithmetic α] (leftSize rightSize : Nat) (leftVariance rightVariance error : α) :
    Except Fault (Option α) := do
  let squared ← square error
  let quotient : Except Fault α := do
    let leftTerm ← freedomTerm leftSize leftVariance
    let rightTerm ← freedomTerm rightSize rightVariance
    divide squared (leftTerm + rightTerm)
  .ok quotient.toOption

/-- The probability of a statistic at least as far from zero. -/
def probabilityOf [Analytic α] : Statistic α → Except Fault (Option α)
  | .undefined => .ok none
  | .unbounded _ => .ok (some zero)
  | .value value =>
      if isFinite value then
        (normalBelow (magnitude value)).map fun below => some (ofInt 2 * (ofInt 1 - below))
      else if isUndefined value then .ok none
      else .ok (some zero)

/-- Compare two samples. -/
def compare [Analytic α] (left right : List α) : Except Fault (Comparison α) := do
  let leftVariance ← variance left
  let rightVariance ← variance right
  let (statistic, error) := statisticOf left right leftVariance rightVariance
  let freedom ← freedomOf left.length right.length leftVariance rightVariance error
  let probability ← probabilityOf statistic
  .ok { statistic, freedom, probability }

end Appraisal.Statistics
