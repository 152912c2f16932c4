import Appraisal.Datum.Record
import Appraisal.Simulation.Payback
import Appraisal.Simulation.Ratio
import Appraisal.Validation.Field

/-!
# Simulations as records
-/

namespace Appraisal.Simulation

open Validation

/-- Read the assumptions of a payback simulation. -/
def PaybackPlan.check : Check (PaybackPlan Float) := fun datum => do
  let fields ← record "PaybackParams" datum
  Checked.app (Checked.app (Checked.app (Checked.app (Checked.app (.ok PaybackPlan.mk)
    (required fields "mean_monthly_contribution" number))
    (required fields "sd_monthly_contribution" number))
    (required fields "cac" number))
    (required fields "churn_rate_monthly" fun datum => (number datum).bind (between 0 1)))
    (defaulted fields "max_months" 24 whole)

/-- The record of a payback simulation. -/
def Payback.toDatum (payback : Payback Float) : Datum :=
  .object [("p50_months", .ofWhole? (payback.median.map Int.ofNat)),
    ("p90_months", .ofWhole? (payback.slow.map Int.ofNat)),
    ("prob_payback_within_12", .double payback.withinYear)]

/-- Read the assumptions of a ratio simulation. -/
def RatioPlan.check : Check (RatioPlan Float) := fun datum => do
  let fields ← record "LtvCacParams" datum
  Checked.app (Checked.app (Checked.app (Checked.app (Checked.app (.ok RatioPlan.mk)
    (required fields "ltv_mean" number))
    (required fields "ltv_sd" number))
    (required fields "cac_mean" number))
    (required fields "cac_sd" number))
    (defaulted fields "cap_ratio" 12.0 number)

/-- The record of a ratio simulation. -/
def RatioBands.toDatum (bands : RatioBands Float) : Datum :=
  .object [("p10", .double bands.low), ("p50", .double bands.middle), ("p90", .double bands.high)]

end Appraisal.Simulation
