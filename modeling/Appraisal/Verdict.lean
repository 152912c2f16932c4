import Appraisal.Rule
import Appraisal.Scoring.Outcome

/-!
# Verdicts

The score of an idea gives a first status; violated gates and the actions of rules can only make it
worse.  A verdict also gathers the flags, the penalties and the reasons that led to it.
-/

namespace Appraisal

/-- How an idea fares. -/
inductive Status
  | go
  | review
  | noGo
  deriving DecidableEq, Repr, Inhabited

namespace Status

/-- The name of a status. -/
def name : Status → String
  | .go => "GO"
  | .review => "REVIEW"
  | .noGo => "NO-GO"

/-- How bad a status is. -/
def rank : Status → Nat
  | .go => 0
  | .review => 1
  | .noGo => 2

/-- The worse of two statuses. -/
def worse (left right : Status) : Status :=
  if left.rank < right.rank then right else left

/-- What a status becomes when a review is asked for. -/
def reviewed : Status → Status
  | .go => .review
  | status => status

/-- The status of a score alone; an undefined score asks for a review. -/
def ofScore (score goMinimum reviewMinimum : Number) : Status :=
  if score.extent = .undefined then .review
  else if goMinimum.atMost score then .go
  else if reviewMinimum.atMost score then .review
  else .noGo

end Status

/-- The status of a score given as any number; a whole number that no double is near has none. -/
def Status.ofScore? (score goMinimum reviewMinimum : Number) : Option Status :=
  score.toFloat?.map fun _ => Status.ofScore score goMinimum reviewMinimum

namespace Action

/-- The code under which an action is flagged. -/
def flagCode : Action → String
  | .flag code _ => code.val
  | .gate target demand _ => "RULE_GATE_" ++ target.name.toUpper ++ "_" ++ demand.name.toUpper

/-- The penalty line of an action; flags have none. -/
def penalty? : Action → Option String
  | .flag .. => none
  | .gate target demand reason =>
      let reason := reason.getD ""
      some (target.name.toUpper ++ ": " ++
        if reason = "" then demand.name.toUpper ++ " required" else reason)

end Action

/-- Flags and penalty lines gathered from actions. -/
structure Merged where
  flags : List String
  /-- One line for each gate. -/
  penalties : List String
  deriving DecidableEq, Repr

namespace Merged

/-- Add a flag at the end unless it is there. -/
def addFlag (flags : List String) (flag : String) : List String :=
  if flags.contains flag then flags else flags ++ [flag]

/-- Gather actions after initial flags. -/
def ofActions (actions : List Action) (flags : List String) : Merged where
  flags := (flags ++ actions.map Action.flagCode).foldl addFlag []
  penalties := actions.filterMap Action.penalty?

end Merged

/-- From which scores on an idea is to go ahead, or at least to be reviewed. -/
structure Thresholds where
  /-- The least score of a go. -/
  go : Number := .whole 70
  /-- The least score of a review. -/
  review : Number := .whole 40

/-- The outcome of a scoring merged with the actions of the rules. -/
structure Verdict where
  /-- How the idea fares. -/
  status : Status
  outcome : Outcome Float
  flags : List String
  /-- Penalty lines of the rules. -/
  penalties : List String
  /-- Sentences on violations, then labels of caps. -/
  reasons : List String
  /-- How many rules took part. -/
  rulesTotal : Int
  /-- How many actions followed. -/
  rulesTriggered : Nat

namespace Verdict

/-- The score of a verdict, out of a hundred. -/
def score (verdict : Verdict) : Float := verdict.outcome.afterCaps

/-- The status of an outcome, before any rule is looked at. -/
def statusOfOutcome (thresholds : Thresholds) (outcome : Outcome Float) : Status :=
  let status := Status.ofScore (.double outcome.afterCaps) thresholds.go thresholds.review
  if outcome.violations.isEmpty then status else status.reviewed

/-- The status after the actions of the rules. -/
def statusAfter (status : Status) (actions : List Action) : Status :=
  if actions.any Action.isFailure then .noGo
  else if actions.any Action.isGate then status.reviewed
  else status

/-- The verdict on an outcome, given the actions of the rules and flags from elsewhere. -/
def decide (thresholds : Thresholds) (outcome : Outcome Float) (actions : List Action)
    (rulesTotal : Int) (flags : List String) : Verdict :=
  let merged := Merged.ofActions actions flags
  { status := statusAfter (statusOfOutcome thresholds outcome) actions
    outcome
    flags := merged.flags
    penalties := merged.penalties
    reasons := outcome.violations.map Prod.snd ++ outcome.caps
    rulesTotal
    rulesTriggered := actions.length }

end Verdict

end Appraisal
