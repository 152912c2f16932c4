import Appraisal.Policy.Dimension
import Appraisal.Text.Character

/-!
# Rules

A rule says which actions follow when a condition holds.  Its condition is kept as text and need not
be well formed.  A flag only annotates; a gate asks for a review or a failure, of one dimension or
of the whole.
-/

namespace Appraisal

/-- What a gate is about. -/
inductive GateTarget
  | dimension (axis : Dimension)
  | overall
  deriving DecidableEq, Repr

/-- The name of a target. -/
def GateTarget.name : GateTarget → String
  | .dimension axis => axis.name
  | .overall => "overall"

/-- What a gate asks for. -/
inductive GateDemand
  | review
  | fail
  deriving DecidableEq, Repr

/-- The name of a demand. -/
def GateDemand.name : GateDemand → String
  | .review => "review"
  | .fail => "fail"

/-- What follows when a rule fires. -/
inductive Action
  /-- An annotation. -/
  | flag (code : { code : String // code ≠ "" }) (message : Option String)
  /-- A demand that holds whatever the score is. -/
  | gate (target : GateTarget) (demand : GateDemand) (reason : Option String)
  deriving DecidableEq, Repr

/-- Whether an action is a gate. -/
def Action.isGate : Action → Bool
  | .gate .. => true
  | .flag .. => false

/-- Whether an action is a gate that asks for a failure. -/
def Action.isFailure : Action → Bool
  | .gate _ .fail _ => true
  | _ => false

/-- The name of a rule: it holds a character that is not blank. -/
abbrev RuleId := { id : String // Text.isAllBlank id = false }

/-- Actions that follow when a condition holds. -/
structure Rule where
  /-- The name of the rule. -/
  id : RuleId
  /-- The text of the condition. -/
  condition : { text : String // text ≠ "" }
  /-- What follows, in order. -/
  actions : List Action
  /-- A note for readers. -/
  description : Option String
  /-- A version label. -/
  version : Option String
  /-- Whether the rule takes part; a rule that does not say so does. -/
  enabled : Option Bool
  deriving DecidableEq, Repr

/-- Whether a rule takes part in evaluations. -/
def Rule.isEnabled (rule : Rule) : Bool :=
  rule.enabled != some false

/-- A record of a change of the rules. -/
structure HistoryEntry where
  /-- When it was made, in milliseconds of the epoch. -/
  moment : Int
  /-- Who made it. -/
  actor : String
  /-- All rules right after it. -/
  rules : List Rule
  deriving DecidableEq, Repr

end Appraisal
