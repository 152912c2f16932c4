import Appraisal.Rule.Context
import Appraisal.Service
import Appraisal.Verdict.Record

/-!
# Assessments

An assessment takes an idea through the whole service: it is classified, scored under the policy of
its category, judged by the active rules, and given a verdict.
-/

namespace Appraisal

/-- What is asked about an idea. -/
structure Question where
  /-- Scores out of ten, by name and not yet read. -/
  scores : List (String × Datum)
  /-- How saturated the market is, in percent, and not yet read. -/
  saturation : Datum
  category : Option Category
  /-- What else there is to classify the idea by. -/
  idea : Idea
  /-- Weights that the caller sets, by name and not yet read. -/
  override : List (String × Datum)
  /-- Further fields for conditions. -/
  extras : List (String × Datum)
  /-- Flags from elsewhere. -/
  flags : List String

/-- The answer to a question about an idea. -/
structure Assessment where
  classification : Classification
  verdict : Verdict

/-- Why there is no assessment. -/
inductive AssessmentFault
  | classification (fault : ClassificationFault)
  /-- The idea cannot be scored. -/
  | scoring (fault : Scoring.Fault)
  /-- There is no context for conditions. -/
  | context (problems : List Validation.Problem)
  /-- The rules cannot be loaded. -/
  | store (fault : StoreFault)
  /-- A condition has no truth value. -/
  | condition (fault : Condition.EvaluationFault)

namespace Question

/-- The names of the dimensions with a violated gate, in the order of their letters. -/
def sortedNames (outcome : Outcome Float) : List String :=
  (outcome.violations.map Prod.fst).mergeSort fun left right => left ≤ right

/-- The context that conditions are evaluated in.  Computed fields win over further fields with their
names. -/
def context (question : Question) (category : Category) (outcome : Outcome Float) :
    Validation.Checked RuleContext :=
  RuleContext.check <| .object <| Datum.merged question.extras
    [("model", .text category.name), ("saturationPct", question.saturation),
      ("dimensions10", .object question.scores), ("overall100", .double outcome.afterCaps),
      ("overall100PreCaps", .double outcome.beforeCaps),
      ("gateViolations", .ofTexts (sortedNames outcome)), ("flags", .ofTexts question.flags)]

end Question

namespace Assessment

/-- The log entry of an assessment. -/
def entry (assessment : Assessment) : Log.Entry where
  level := Log.info
  logger := "app.core.adaptive_pipeline"
  function := some "run_adaptive_evaluation"
  message :=
    "Adaptive evaluation: model=" ++ assessment.classification.category.name ++
      " score=" ++ Double.text assessment.verdict.score ++
      " status=" ++ assessment.verdict.status.name ++
      " rules=" ++ toString assessment.verdict.rulesTriggered ++ "/" ++
      toString assessment.verdict.rulesTotal
  fields := []

/-- The record of an assessment. -/
def toDatum (assessment : Assessment) : Datum :=
  .object [("classification", assessment.classification.toDatum),
    ("decision", assessment.verdict.toDatum)]

end Assessment

/-- What came of a question: the answer, what was reported, and the service after it. -/
structure Assessed where
  /-- The answer. -/
  result : Except AssessmentFault Assessment
  entries : List Log.Entry
  /-- The service afterwards. -/
  service : Service

namespace Service

/-- Classify the idea of a question, unless the caller knows its category. -/
def classify (occasion : Occasion) (question : Question) (service : Service) :
    Except ClassificationFault Classification × List Log.Entry × Service :=
  match question.category with
  | some category => (.ok (Classification.explicit category), [], service)
  | none =>
      let attempt := service.classifier.classify occasion.tick question.idea occasion.model
        service.breaker
      (attempt.result, attempt.entries, { service with breaker := attempt.breaker })

/-- Score the idea of a question under the policy of its category. -/
def score (question : Question) (category : Category) : Except Scoring.Fault (Outcome Float) := do
  let override ← (Weights.Override.ofFields Weights.read question.override).mapError .weights
  Scoring.evaluateData category question.scores question.saturation override

/-- From which scores on an idea is to go ahead, or at least to be reviewed. -/
def thresholds (service : Service) : Thresholds where
  go := .whole service.settings.goMinimum
  review := .whole service.settings.reviewMinimum

/-- The assessment that follows when the active rules are known, with the actions they give. -/
def conclude (service : Service) (question : Question) (classification : Classification)
    (outcome : Outcome Float) (rules : List Rule) (actions : List Action) : Assessment where
  classification
  verdict := Verdict.decide service.thresholds outcome actions rules.length question.flags

/-- Judge a scored idea by the active rules, in a context. -/
def judge (occasion : Occasion) (question : Question) (classification : Classification)
    (outcome : Outcome Float) (context : RuleContext) (service : Service) :
    Except AssessmentFault Assessment × List Log.Entry :=
  match service.rules occasion with
  | .error fault => (.error (.store fault), (fault.notices Ledger.rulesKey).map Notice.entry)
  | .ok rules =>
      let active := Rule.active rules
      let firing := Firing.of occasion.stack context.toDatum active
      match firing.actions with
      | .error fault => (.error (.condition fault), firing.entries)
      | .ok actions =>
          let assessment := service.conclude question classification outcome active actions
          (.ok assessment, firing.entries ++ [assessment.entry])

/-- Answer a question about an idea. -/
def assess (occasion : Occasion) (question : Question) (service : Service) : Assessed :=
  let (classified, first, service) := service.classify occasion question
  match classified with
  | .error fault => ⟨.error (.classification fault), first, service⟩
  | .ok classification =>
      let prepared : Except AssessmentFault (Outcome Float × RuleContext) := do
        let outcome ← (score question classification.category).mapError .scoring
        let context ← (question.context classification.category outcome).mapError .context
        pure (outcome, context)
      match prepared with
      | .error fault => ⟨.error fault, first, service⟩
      | .ok (outcome, context) =>
          let (result, second) := service.judge occasion question classification outcome context
          ⟨result, first ++ second, service⟩

end Service

end Appraisal
