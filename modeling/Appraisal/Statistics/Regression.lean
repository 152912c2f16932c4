import Appraisal.Statistics.Fault

/-!
# Lines through points

The line with the least sum of squared residuals, and the share of the variation that it explains.
Divisors are kept above a tiny bound, so that points without variation give a level line.
-/

namespace Appraisal.Statistics

open Arithmetic

/-- A line and how well it fits. -/
structure Line (α : Type) where
  /-- Its value at zero. -/
  intercept : α
  slope : α
  /-- The share of the variation that it explains. -/
  explained : α
  deriving DecidableEq

variable {α : Type} [Arithmetic α]

/-- The bound that divisors are kept above. -/
def tiny : α := decimal 1 12

/-- The values of a line at some places. -/
def Line.at (intercept slope place : α) : α :=
  intercept + slope * place

/-- The sum of the products of paired values. -/
def sumOfProducts (pairs : List (α × α)) : α :=
  sum (pairs.map fun (left, right) => left * right)

/-- Fit a line through points. -/
def fitPoints (points : List (α × α)) : Except Fault (Line α) := do
  let meanX := mean (points.map Prod.fst)
  let meanY := mean (points.map Prod.snd)
  let spreadX ← sumOfSquares (points.map fun (x, _) => x - meanX)
  let spreadXY := sumOfProducts (points.map fun (x, y) => (x - meanX, y - meanY))
  let slope := spreadXY / aboveOr tiny spreadX
  let intercept := meanY - slope * meanX
  let total ← sumOfSquares (points.map fun (_, y) => y - meanY)
  let residual ← sumOfSquares (points.map fun (x, y) => y - Line.at intercept slope x)
  .ok { intercept, slope, explained := ofInt 1 - residual / aboveOr tiny total }

/-- Fit a line through paired values; values without a partner are left out. -/
def fit (xs ys : List α) : Except Fault (Line α) :=
  fitPoints (xs.zip ys)

end Appraisal.Statistics
