import Appraisal.Breaker
import Appraisal.Classification.Remote

/-!
# Classifiers

A classifier asks a remote model, if it has one, through a breaker.  Whatever goes wrong with the
model, the hints give the answer instead, with a note on what went wrong.
-/

namespace Appraisal

open Validation

/-- What is fixed about a classifier. -/
structure ClassifierPlan where
  /-- How sure a classification by hints is, as it was set. -/
  confidence : Datum
  /-- Whether there is a remote model. -/
  hasModel : Bool
  breaker : BreakerPlan

/-- What a remote model does when it is asked. -/
inductive ModelReply
  | classified (classification : Classification)
  | failed (cause : Cause)
  | abandoned
  deriving DecidableEq

/-- The reply of a model that gives a classification or fails. -/
def ModelReply.ofOutcome : Except Cause Classification → ModelReply
  | .ok classification => .classified classification
  | .error cause => .failed cause

/-- What a reply means to the breaker. -/
def ModelReply.ending : ModelReply → Ending
  | .classified _ => .success
  | .failed cause => .failure cause
  | .abandoned => .abandoned

/-- Why there is no classification. -/
inductive ClassificationFault
  /-- The classification by hints is no valid one. -/
  | invalid (problems : List Problem)
  | abandoned
  deriving DecidableEq, Repr

/-- A classification under way: its result, what was reported, and the breaker after it. -/
structure Attempt (τ : Type) where
  /-- The classification. -/
  result : Except ClassificationFault Classification
  /-- Whether the model was asked. -/
  asked : Bool
  breaker : Breaker τ
  /-- The log entries, in order. -/
  entries : List Log.Entry

namespace ClassifierPlan

/-- Classify by hints alone. -/
def quick (plan : ClassifierPlan) (idea : Idea) : Except ClassificationFault Classification :=
  (Classification.ofHints plan.confidence idea.hints).mapError .invalid

/-- Classify by hints after the model was of no use, with a note on the reason. -/
def fallback (plan : ClassifierPlan) (idea : Idea) (reason : String) :
    Except ClassificationFault Classification :=
  (plan.quick idea).map (Classification.noted reason)

/-- The note on a failure of the model. -/
def noteOn (cause : Cause) : String :=
  if cause.isCircuitOpen then "ml-circuit-open"
  else if cause.isTimeout then "ml-timeout"
  else "ml-error"

/-- The log entry on a failure of the model. -/
def warning (plan : ClassifierPlan) (cause : Cause) : Log.Entry :=
  Log.report Log.warning "app.core.classification"
    ("ML classification failed, using heuristic: " ++ cause.described)
    [("breaker", .text plan.breaker.name)]

/-- What comes of a failure; that a call is turned away is no matter for the log. -/
def recover (plan : ClassifierPlan) (idea : Idea) (cause : Cause) :
    Except ClassificationFault Classification × List Log.Entry :=
  (plan.fallback idea (noteOn cause), if cause.isCircuitOpen then [] else [plan.warning cause])

/-- What comes of a reply of the model. -/
def resolve (plan : ClassifierPlan) (idea : Idea) :
    ModelReply → Except ClassificationFault Classification × List Log.Entry
  | .classified classification => (.ok classification, [])
  | .failed cause => plan.recover idea cause
  | .abandoned => (.error .abandoned, [])

variable {τ : Type} [Timescale τ]

/-- Classify: ask the model if there is one and the breaker lets the call through.  The model is
asked at one time and replies at another. -/
def consult (plan : ClassifierPlan) (asked ended : τ) (idea : Idea) (reply : ModelReply)
    (breaker : Breaker τ) : Attempt τ :=
  if plan.hasModel then
    let (admission, later, transitions) := breaker.call plan.breaker asked ended reply.ending
    let (result, warnings) :=
      match admission with
      | .admitted => plan.resolve idea reply
      | .rejected retryAfter => plan.recover idea (Breaker.refusal retryAfter)
    { result
      asked := admission.isAdmitted
      breaker := later
      entries := transitions.map (Transition.entry plan.breaker.name) ++ warnings }
  else { result := plan.quick idea, asked := false, breaker, entries := [] }

/-- Classify at one moment. -/
def classify (plan : ClassifierPlan) (now : τ) (idea : Idea) (reply : ModelReply)
    (breaker : Breaker τ) : Attempt τ :=
  plan.consult now now idea reply breaker

end ClassifierPlan

end Appraisal
