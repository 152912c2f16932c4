import Appraisal.Scoring.Record
import Appraisal.Verdict

/-!
# Verdicts as records
-/

namespace Appraisal.Verdict

/-- The record of a verdict. -/
def toDatum (verdict : Verdict) : Datum :=
  .object [("status", .text verdict.status.name), ("score100", .double verdict.score),
    ("outcome", verdict.outcome.toDatum), ("flags", .ofTexts verdict.flags),
    ("rule_penalties", .ofTexts verdict.penalties), ("reasons", .ofTexts verdict.reasons),
    ("rules_evaluated", .object [("total", .whole verdict.rulesTotal),
      ("triggered", .whole verdict.rulesTriggered)])]

end Appraisal.Verdict
