import Appraisal.Datum.Conversion
import Appraisal.Datum.Display
import Appraisal.Rule
import Appraisal.Validation.Field

/-!
# Reading rules

Rules and history entries from data.  Keys that a rule does not know are skipped; the problems of a
rule come in the order of its fields.
-/

namespace Appraisal

open Validation

namespace Action

/-- The two kinds of actions. -/
def kinds : List String := ["flag", "gate"]

/-- What a gate is about: a dimension, or the whole. -/
def checkTarget : Check GateTarget := fun datum =>
  match memberOf Dimension.options datum with
  | .ok dimension => .ok (.dimension dimension)
  | .error unnamed =>
      match oneOf [("overall", GateTarget.overall)] datum with
      | .ok target => .ok target
      | .error unlisted =>
          .error (unnamed.map (Problem.under (.key "str-enum[DimensionKey]")) ++
            unlisted.map (Problem.under (.key "literal['overall']")))

/-- The demands by name. -/
def demands : List (String × GateDemand) :=
  [("review", .review), ("fail", .fail)]

/-- The fields of a flag. -/
def checkFlag (fields : List (String × Datum)) : Checked Action :=
  Checked.app (Checked.app (.ok Action.flag)
    (required fields "code" nonEmptyText))
    (absentable fields "message" text)

/-- The fields of a gate. -/
def checkGate (fields : List (String × Datum)) : Checked Action :=
  Checked.app (Checked.app (Checked.app (.ok Action.gate)
    (defaulted fields "dimension" .overall checkTarget))
    (defaulted fields "action" .review (oneOf demands)))
    (absentable fields "reason" text)

/-- An action; its kind is told by a field of its own. -/
def check : Check Action
  | .object fields =>
      match Datum.lookup "type" fields with
      | none => .refuse .tagMissing
      | some (.text "flag") => (checkFlag fields).under (.key "flag")
      | some (.text "gate") => (checkGate fields).under (.key "gate")
      | some tag => .refuse (.tagUnknown tag.display kinds)
  | _ => .refuse .fieldsExpected

end Action

/-- The name of a rule. -/
def RuleId.check : Check RuleId
  | .text value =>
      if value = "" then .refuse .textTooShort
      else
        if visible : Text.isAllBlank value = false then .ok ⟨value, visible⟩
        else .refuse .blankIdentifier
  | _ => .refuse .textExpected

/-- A rule. -/
def Rule.check : Check Rule := fun datum => do
  let fields ← record "RuleDefinition" datum
  Checked.app (Checked.app (Checked.app (Checked.app (Checked.app (Checked.app (.ok Rule.mk)
    (required fields "id" RuleId.check))
    (required fields "when" nonEmptyText))
    (required fields "then" (listOf Action.check)))
    (absentable fields "description" text))
    (absentable fields "version" text))
    (absentable fields "enabled" truth)

/-- A history entry. -/
def HistoryEntry.check : Check HistoryEntry := fun datum => do
  let fields ← record "RuleHistoryEntry" datum
  Checked.app (Checked.app (Checked.app (.ok HistoryEntry.mk)
    (required fields "when" whole))
    (required fields "actor" text))
    (required fields "rules" (listOf Rule.check))

/-- A raw rule that is none. -/
structure InvalidRule where
  /-- The name that the raw rule gives itself. -/
  id : String
  /-- The first problem. -/
  detail : String
  deriving DecidableEq, Repr

/-- The sentence that describes an invalid rule. -/
def InvalidRule.message (invalid : InvalidRule) : String :=
  "Invalid rule shape for id " ++ invalid.id ++ ": " ++ invalid.detail

/-- The name that a raw rule gives itself, as far as it does. -/
def Rule.rawId (datum : Datum) : String :=
  match datum.field? "id" with
  | some id => if id.isVacant then "unknown" else id.display
  | none => "unknown"

/-- Check a raw rule. -/
def Rule.checkRaw (datum : Datum) : Except InvalidRule Rule :=
  (Rule.check datum).mapError fun problems =>
    ⟨Rule.rawId datum, (problems.head?.map (·.defect.message)).getD ""⟩

/-- Check raw rules in order, up to the first one that is none. -/
def Rule.checkAll : List Datum → Except InvalidRule (List Rule)
  | [] => .ok []
  | datum :: data => do
      let rule ← Rule.checkRaw datum
      let rules ← Rule.checkAll data
      pure (rule :: rules)

end Appraisal
