import Appraisal.Datum.Record
import Appraisal.Policy.Category
import Appraisal.Validation.Field

/-!
# Rule contexts

What conditions see when they are asked about an idea: its category, its saturation, its scores, and
whatever else the caller gave.  Null fields are dropped at the top.  Doubles without a finite value
become null in further fields; saturation and scores keep them.
-/

namespace Appraisal

open Validation

/-- A checked context. -/
structure RuleContext where
  /-- The category of the idea. -/
  model : Category
  /-- How saturated its market is, in percent. -/
  saturation : Option Float
  /-- Its scores by dimension. -/
  scores : Option (List (String × Float))
  /-- Everything else. -/
  extras : List (String × Datum)

namespace RuleContext

/-- The keys that a context gives a meaning to. -/
def knownKeys : List String := ["model", "saturationPct", "dimensions10"]

/-- Check a context. -/
def check : Check RuleContext := fun datum => do
  let fields ← record "RuleEvaluationContext" datum
  Checked.app (Checked.app (Checked.app (Checked.app (.ok RuleContext.mk)
    (required fields "model" (memberOf Category.options)))
    (absentable fields "saturationPct" number))
    (absentable fields "dimensions10" (mappingOf number)))
    (.ok (fields.filter fun field => !knownKeys.contains field.1))

/-- The mapping that conditions are evaluated in. -/
def toDatum (context : RuleContext) : Datum :=
  .object ([("model", .text context.model.name)] ++
    (context.saturation.map fun value => ("saturationPct", Datum.double value)).toList ++
    (context.scores.map fun values => ("dimensions10", Datum.ofDoubleFields values)).toList ++
    (context.extras.filter fun field => !field.2.isNull).map fun (key, value) =>
      (key, value.withoutSpecials))

end RuleContext

end Appraisal
