import Appraisal.Datum.Record
import Appraisal.Scoring.Outcome
import Appraisal.Validation.Field

/-!
# Outcomes as records

An outcome is written with all its fields, and is read back from such a record.
-/

namespace Appraisal

open Validation

namespace Gates

/-- The record of gates. -/
def toDatum (gates : Gates Float) : Datum :=
  .object [("demand_min10", .double gates.demandMinimum),
    ("economics_min10", .double gates.economicsMinimum),
    ("problem_min10", .double gates.problemMinimum),
    ("saturation_cap_overall100", .ofDouble? gates.saturationCap)]

/-- Read gates from a record. -/
def check : Check (Gates Float) := fun datum => do
  let fields ← record "GateThresholds" datum
  Checked.app (Checked.app (Checked.app (Checked.app (.ok Gates.mk)
    (required fields "demand_min10" number))
    (required fields "economics_min10" number))
    (required fields "problem_min10" number))
    (absentable fields "saturation_cap_overall100" number)

end Gates

/-- Named weights as a datum. -/
def Weights.toDatum (weights : PerDimension Float) : Datum :=
  .ofDoubleFields (Dimension.all.map fun dimension => (dimension.name, weights.get dimension))

namespace Outcome

/-- The record of an outcome. -/
def toDatum (outcome : Outcome Float) : Datum :=
  .object [("weights", .ofDoubleFields outcome.weights), ("gates", outcome.gates.toDatum),
    ("gate_violations", .ofTextFields outcome.violations),
    ("overall10", .double outcome.overallOfTen),
    ("overall100_pre_caps", .double outcome.beforeCaps),
    ("overall100_post_caps", .double outcome.afterCaps),
    ("applied_caps", .ofTexts outcome.caps)]

/-- Read an outcome from a record. -/
def check : Check (Outcome Float) := fun datum => do
  let fields ← record "AdaptiveOutcome" datum
  Checked.app (Checked.app (Checked.app (Checked.app (Checked.app (Checked.app (Checked.app
    (.ok Outcome.mk)
    (required fields "weights" (mappingOf number)))
    (required fields "gates" Gates.check))
    (defaulted fields "gate_violations" [] (mappingOf text)))
    (required fields "overall10" number))
    (required fields "overall100_pre_caps" number))
    (required fields "overall100_post_caps" number))
    (defaulted fields "applied_caps" [] (tupleOf text))

end Outcome

/-- The policy of every category: its weights and its gates. -/
def policyTable : Datum :=
  .object (Category.all.map fun category =>
    (category.name, .object [("weights", Weights.toDatum (Weights.base category)),
      ("gates", (Gates.ofCategory category).toDatum)]))

end Appraisal
