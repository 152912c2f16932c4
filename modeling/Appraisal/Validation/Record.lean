import Appraisal.Datum
import Appraisal.Validation.Problem

/-!
# Problems as records
-/

namespace Appraisal.Validation

/-- A step of a location. -/
def Step.toDatum : Step → Datum
  | .key name => .text name
  | .index position => .whole position

/-- The record of a problem: the short name of its defect, its location, and its message. -/
def Problem.toDatum (problem : Problem) : Datum :=
  .object [("type", .text problem.defect.code), ("loc", .list (problem.location.map Step.toDatum)),
    ("msg", .text problem.defect.message)]

end Appraisal.Validation
