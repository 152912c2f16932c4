import Appraisal.Condition.Stack
import Appraisal.Log.Entry
import Appraisal.Rule

/-!
# Firing rules

The enabled rules of a list are judged in order in one context, each on a stack with the same room.
A rule whose condition is refused is skipped and reported; the actions of the rules that hold are put
together in order.  Rules do not see each other's actions.

A condition without truth value is another matter: it stops the firing where it stands.
-/

namespace Appraisal

/-- A rule that was skipped. -/
structure Skip where
  /-- The rule. -/
  rule : RuleId
  /-- Why its condition is refused. -/
  fault : Condition.Fault
  deriving DecidableEq, Repr

/-- What came of firing some rules. -/
structure Firing where
  /-- The rules that were skipped, in order. -/
  skipped : List Skip
  /-- The actions of the rules that hold, or the fault that stopped the firing. -/
  actions : Except Condition.EvaluationFault (List Action)

/-- Fire rules in a context, on a stack with room for so many calls. -/
def Firing.of (stack : Nat) (context : Datum) : List Rule → Firing
  | [] => ⟨[], .ok []⟩
  | rule :: rules =>
      if rule.isEnabled then
        match Condition.evaluateWithin stack rule.condition.val context with
        | .error (.fault fault) =>
            let others := Firing.of stack context rules
            ⟨⟨rule.id, fault⟩ :: others.skipped, others.actions⟩
        | .error (.evaluation fault) => ⟨[], .error fault⟩
        | .ok true =>
            let others := Firing.of stack context rules
            ⟨others.skipped, others.actions.map (rule.actions ++ ·)⟩
        | .ok false => Firing.of stack context rules
      else Firing.of stack context rules

/-- The log entry of a skipped rule. -/
def Skip.entry (skip : Skip) : Log.Entry :=
  Log.report Log.warning "app.core.rule_engine"
    ("Skipping rule with invalid expression: " ++ skip.fault.message)
    [("rule_id", .text skip.rule.val)]

/-- The log entries of a firing. -/
def Firing.entries (firing : Firing) : List Log.Entry :=
  firing.skipped.map Skip.entry

end Appraisal
