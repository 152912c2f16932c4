import Appraisal.Number.Arithmetic
import Appraisal.Simulation.Draws

/-!
# Value of a customer over its cost

The lifetime value of a customer and the cost to acquire it are drawn for each run; their ratio,
capped, is described by three of its quantiles.
-/

namespace Appraisal.Simulation

open Arithmetic

/-- What is assumed about value and cost. -/
structure RatioPlan (α : Type) where
  valueMean : α
  /-- Its standard deviation. -/
  valueDeviation : α
  costMean : α
  /-- Its standard deviation. -/
  costDeviation : α
  /-- The greatest ratio that is told apart. -/
  cap : α
  deriving DecidableEq

/-- Quantiles of the ratio. -/
structure RatioBands (α : Type) where
  low : α
  middle : α
  high : α
  deriving DecidableEq

namespace RatioPlan

variable {α : Type} [Arithmetic α]

/-- A lifetime value, given a normal draw; never less than nothing. -/
def value (plan : RatioPlan α) (draw : α) : α :=
  raisedTo zero (plan.valueMean + plan.valueDeviation * draw)

/-- A cost, given a normal draw; never less than one. -/
def cost (plan : RatioPlan α) (draw : α) : α :=
  raisedTo (ofInt 1) (plan.costMean + plan.costDeviation * draw)

/-- The capped ratio; an undefined cap leaves it undefined. -/
def ratio (plan : RatioPlan α) (valueDraw costDraw : α) : α :=
  let raw := plan.value valueDraw / plan.cost costDraw
  if isUndefined plan.cap then plan.cap else cutAt plan.cap raw

/-- The order in which ratios are sorted: undefined ones come last. -/
def before (left right : α) : Bool :=
  isUndefined right || atMost left right

/-- The ratios of all runs, sorted; the draws of all values come before those of the costs. -/
def sortedRatios (plan : RatioPlan α) (draws : Draws α) (runs : Nat) : List α :=
  ((List.range runs).map fun run =>
    plan.ratio (draws.normal run) (draws.normal (runs + run))).mergeSort before

/-- A ratio at a place of the sorted ratios, rounded to two places. -/
def ratioAt (ratios : List α) (tenths : Nat) : α :=
  roundPlaces 2 (ratios.getD (quantileIndex tenths ratios.length) zero)

/-- Simulate a positive number of runs. -/
def simulate (plan : RatioPlan α) (draws : Draws α) (runs : Nat) : RatioBands α :=
  let ratios := plan.sortedRatios draws runs
  { low := ratioAt ratios 1, middle := ratioAt ratios 5, high := ratioAt ratios 9 }

/-- Simulate; at least one run is needed. -/
def simulate? (plan : RatioPlan α) (draws : Draws α) (runs : Int) : Option (RatioBands α) :=
  if 1 ≤ runs then some (plan.simulate draws runs.toNat) else none

end RatioPlan

end Appraisal.Simulation
