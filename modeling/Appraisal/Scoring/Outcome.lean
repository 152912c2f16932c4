import Appraisal.Number.Arithmetic
import Appraisal.Number.Decimal
import Appraisal.Policy.Gates
import Appraisal.Policy.Weights

/-!
# The outcome of a scoring

The overall score of an idea is the weighted sum of its six scores, rounded to three places; on the
scale of a hundred it is rounded to a whole number, and in a saturated market it may be capped.
Scores below the minimums of the category are reported as violations.
-/

namespace Appraisal

open Arithmetic

/-- The result of scoring an idea. -/
structure Outcome (α : Type) where
  /-- The weights that were applied, by the names of the dimensions. -/
  weights : List (String × α)
  gates : Gates α
  /-- The violated gates, by the names of the dimensions, each with a sentence. -/
  violations : List (String × String)
  /-- The overall score out of ten. -/
  overallOfTen : α
  /-- The overall score out of a hundred, before any cap. -/
  beforeCaps : α
  /-- The overall score out of a hundred, after the caps. -/
  afterCaps : α
  /-- The labels of the caps that were applied. -/
  caps : List String
  deriving Inhabited

namespace Scoring

variable {α : Type} [Arithmetic α]

/-- The weighted sum of the scores, rounded to three places unless it is infinite or undefined. -/
def overall (weights scores : PerDimension α) : α :=
  let raw := sum (Dimension.all.map fun dimension => scores.get dimension * weights.get dimension)
  if isFinite raw then roundPlaces 3 raw else raw

/-- A score out of ten on the scale of a hundred, rounded to a whole number. -/
def ofHundred (score : α) : α :=
  roundHalfUp (score * ofInt 10)

/-- The dimensions whose score is below the minimum of the gates, with both numbers. -/
def violated (gates : Gates α) (scores : PerDimension α) : List (Dimension × α × α) :=
  gates.minimums.filterMap fun (dimension, minimum) =>
    if less (scores.get dimension) minimum then some (dimension, scores.get dimension, minimum)
    else none

/-- The sentence for a score below its minimum. -/
def violationText (text : α → String) (dimension : Dimension) (score minimum : α) : String :=
  dimension.label ++ " below minimum (" ++ text score ++ " < " ++ text minimum ++ ")"

/-- Score with given weights.  The text of a number is a parameter: it does not depend on it. -/
def outcome (text : α → String) (category : Category) (weights scores : PerDimension α)
    (saturation : α) : Outcome α :=
  let gates := Gates.ofCategory category
  let overallOfTen := overall weights scores
  let beforeCaps := ofHundred overallOfTen
  let cap := gates.capAt saturation
  { weights := Dimension.all.map fun dimension => (dimension.name, weights.get dimension)
    gates
    violations := (violated gates scores).map fun (dimension, score, minimum) =>
      (dimension.name, violationText text dimension score minimum)
    overallOfTen
    beforeCaps
    afterCaps := (cap.map fun cap => cutAt cap beforeCaps).getD beforeCaps
    caps := (cap.map fun cap => "Saturation cap " ++ text cap).toList }

/-- Score an idea: resolve the weights of its category, then apply them. -/
def evaluate (text : α → String) (category : Category) (scores : PerDimension α) (saturation : α)
    (override : Weights.Override α) : Except Weights.Fault (Outcome α) :=
  (Weights.resolve category override).map fun weights =>
    outcome text category weights scores saturation

/-- Why an idea cannot be scored. -/
inductive Fault
  /-- There are no weights. -/
  | weights (fault : Weights.Fault)
  /-- A score cannot be weighed. -/
  | score (fault : Datum.FactorFault)
  /-- The saturation is nothing that can be compared; only where a cap is possible it has to be. -/
  | saturation (kind : String)
  deriving DecidableEq, Repr

/-- The sentence that describes a fault. -/
def Fault.message : Fault → String
  | .weights fault => fault.message
  | .score fault => fault.message
  | .saturation kind =>
      "'>=' not supported between instances of '" ++ kind ++ "' and 'int'"

/-- The score of a dimension in a row of named data; without a name it is undefined. -/
def scoreOf (named : List (String × Datum)) (dimension : Dimension) : Except Fault Float :=
  match Datum.lookup dimension.name named with
  | some datum => datum.toFactor.mapError .score
  | none => .ok Double.undefined

/-- The scores in a row of named data. -/
def scoresOf (named : List (String × Datum)) : Except Fault (PerDimension Float) := do
  pure
    { problem := ← scoreOf named .problem
      underserved := ← scoreOf named .underserved
      demand := ← scoreOf named .demand
      differentiation := ← scoreOf named .differentiation
      economics := ← scoreOf named .economics
      gtm := ← scoreOf named .gtm }

/-- The saturation that matters to a category. -/
def saturationOf (category : Category) (saturation : Datum) : Except Fault Float :=
  match saturation.toSide? with
  | some value => .ok value
  | none =>
      if Gates.isCrowded category then .error (.saturation saturation.kind) else .ok Double.undefined

/-- Score an idea given by data that nobody has checked. -/
def evaluateData (category : Category) (named : List (String × Datum)) (saturation : Datum)
    (override : Weights.Override Float) : Except Fault (Outcome Float) := do
  let weights ← (Weights.resolve category override).mapError .weights
  let scores ← scoresOf named
  let saturation ← saturationOf category saturation
  pure (outcome Double.brief category weights scores saturation)

end Scoring

end Appraisal
