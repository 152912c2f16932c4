import Appraisal.Number.Arithmetic
import Appraisal.Simulation.Draws

/-!
# Months to pay back

A run starts with the cost of acquiring a customer and adds what the customer contributes each
month, until the balance is made up, the customer leaves or the horizon is reached.  All months of a
run are computed at once; the first month in which a customer that is still there has made up the
balance is the month of payback.  A run without such a month counts as one month past the horizon.
-/

namespace Appraisal.Simulation

open Arithmetic

/-- What is assumed about a customer. -/
structure PaybackPlan (α : Type) where
  mean : α
  deviation : α
  cost : α
  /-- The probability to leave in a month. -/
  churnRate : α
  /-- The horizon, in months. -/
  months : Int
  deriving DecidableEq

/-- What is found. -/
structure Payback (α : Type) where
  /-- The month in which half of the runs are paid back, if they are. -/
  median : Option Nat
  /-- The month in which nine tenths of the runs are paid back, if they are. -/
  slow : Option Nat
  /-- The share of runs within a year. -/
  withinYear : α
  deriving DecidableEq

namespace PaybackPlan

variable {α : Type}

/-- The number of months that are looked at; at least one. -/
def horizon (plan : PaybackPlan α) : Nat :=
  (max 1 plan.months).toNat

/-- The month that stands for no payback. -/
def never (plan : PaybackPlan α) : Nat :=
  plan.horizon + 1

end PaybackPlan

/-- Whether all of the values up to each place are true. -/
def allSoFar : (before : Bool) → List Bool → List Bool
  | _, [] => []
  | before, value :: values => (before && value) :: allSoFar (before && value) values

/-- The place of the first true value. -/
def firstTrue? : List Bool → Option Nat
  | [] => none
  | true :: _ => some 0
  | false :: values => (firstTrue? values).map (· + 1)

variable {α : Type} [Arithmetic α]

/-- The sums of the values up to each place. -/
def runningSums : (before : α) → List α → List α
  | _, [] => []
  | before, value :: values => (before + value) :: runningSums (before + value) values

namespace PaybackPlan

/-- What a customer contributes in a month, given a normal draw; never less than nothing. -/
def contribution (plan : PaybackPlan α) (draw : α) : α :=
  raisedTo zero (plan.mean + plan.deviation * draw)

/-- Whether a customer leaves in a month, given a uniform draw. -/
def leaves (plan : PaybackPlan α) (draw : α) : Bool :=
  less draw plan.churnRate

/-- The balance at the start of a run. -/
def opening (plan : PaybackPlan α) : α :=
  -(aboveOr zero plan.cost)

/-- The month of payback in a run, given the draws of its months. -/
def month (plan : PaybackPlan α) (uniforms normals : List α) : Nat :=
  let present := allSoFar true (uniforms.map fun draw => !plan.leaves draw)
  let gains := List.zipWith (fun here draw => if here then plan.contribution draw else zero)
    present normals
  let balances := (runningSums zero gains).map (plan.opening + ·)
  let paid := List.zipWith (fun balance here => atMost zero balance && here) balances present
  ((firstTrue? paid).map (· + 1)).getD plan.never

/-- The month of payback of a run, given its number. -/
def monthOfRun (plan : PaybackPlan α) (draws : Draws α) (run : Nat) : Nat :=
  let indexes := (List.range plan.horizon).map (run * plan.horizon + ·)
  plan.month (indexes.map draws.uniform) (indexes.map draws.normal)

/-- The months of payback of all runs, sorted. -/
def sortedMonths (plan : PaybackPlan α) (draws : Draws α) (runs : Nat) : List Nat :=
  ((List.range runs).map (plan.monthOfRun draws)).mergeSort

/-- A month at a place of the sorted months; the month that stands for none is none. -/
def monthAt (plan : PaybackPlan α) (months : List Nat) (tenths : Nat) : Option Nat :=
  (months[quantileIndex tenths months.length]?).filter (· ≠ plan.never)

/-- Simulate a positive number of runs. -/
def simulate (plan : PaybackPlan α) (draws : Draws α) (runs : Nat) : Payback α :=
  let months := plan.sortedMonths draws runs
  { median := plan.monthAt months 5
    slow := plan.monthAt months 9
    withinYear := roundPlaces 3
      (ofInt (months.countP fun month => month ≤ 12) / ofInt runs) }

/-- Simulate; at least one run is needed. -/
def simulate? (plan : PaybackPlan α) (draws : Draws α) (runs : Int) : Option (Payback α) :=
  if 1 ≤ runs then some (plan.simulate draws runs.toNat) else none

end PaybackPlan

end Appraisal.Simulation
