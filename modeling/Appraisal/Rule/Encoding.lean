import Appraisal.Datum.Record
import Appraisal.Rule

/-!
# Writing rules

Rules and history entries as data.  A full record has all fields, null where nothing is set; a
payload, as it is stored and listed, leaves those fields out.
-/

namespace Appraisal

/-- The fields of an action. -/
def Action.fields : Action → List (String × Datum)
  | .flag code message =>
      [("type", .text "flag"), ("code", .text code.val), ("message", .ofText? message)]
  | .gate target demand reason =>
      [("type", .text "gate"), ("dimension", .text target.name), ("action", .text demand.name),
        ("reason", .ofText? reason)]

/-- An action with all its fields. -/
def Action.toDatum (action : Action) : Datum :=
  .object action.fields

/-- An action as it is stored. -/
def Action.payload (action : Action) : Datum :=
  .object (Datum.present action.fields)

/-- The fields of a rule, over a way to write its actions. -/
def Rule.fields (writeAction : Action → Datum) (rule : Rule) : List (String × Datum) :=
  [("id", .text rule.id.val), ("when", .text rule.condition.val),
    ("then", .list (rule.actions.map writeAction)), ("description", .ofText? rule.description),
    ("version", .ofText? rule.version), ("enabled", .ofTruth? rule.enabled)]

/-- A rule with all its fields. -/
def Rule.toDatum (rule : Rule) : Datum :=
  .object (rule.fields Action.toDatum)

/-- A rule as it is stored. -/
def Rule.payload (rule : Rule) : Datum :=
  .object (Datum.present (rule.fields Action.payload))

/-- A history entry with all its fields. -/
def HistoryEntry.toDatum (entry : HistoryEntry) : Datum :=
  .object [("when", .whole entry.moment), ("actor", .text entry.actor),
    ("rules", .list (entry.rules.map Rule.toDatum))]

/-- A history entry as it is stored. -/
def HistoryEntry.payload (entry : HistoryEntry) : Datum :=
  .object [("when", .whole entry.moment), ("actor", .text entry.actor),
    ("rules", .list (entry.rules.map Rule.payload))]

end Appraisal
