import Appraisal.Framework
import Appraisal.Scoring.Record

/-!
# Profiles, activations and criteria as records
-/

namespace Appraisal

open Validation

/-- The types of business by name. -/
def BusinessType.options : List (String × BusinessType) :=
  [("b2b", .b2b), ("b2c", .b2c), ("marketplace", .marketplace), ("dtc", .dtc)]

/-- The revenue models by name. -/
def RevenueModel.options : List (String × RevenueModel) :=
  [("simple", .simple), ("tiered", .tiered), ("usage", .usage), ("hybrid", .hybrid)]

/-- The customers by name. -/
def Customer.options : List (String × Customer) :=
  [("consumer", .consumer), ("prosumer", .prosumer), ("smb", .smb), ("midmarket", .midmarket),
    ("enterprise", .enterprise), ("two-sided", .twoSided)]

/-- The operations by name. -/
def Operation.options : List (String × Operation) :=
  [("digital", .digital), ("physical", .physical), ("hybrid", .hybrid)]

namespace Profile

/-- Read the fields of a profile over a way to read a name out of a list of options. -/
def read (choose : {α : Type} → (other : α) → List (String × α) → Check α)
    (fields : List (String × Datum)) : Checked Profile :=
  Checked.app (Checked.app (Checked.app (Checked.app (Checked.app (.ok Profile.mk)
    (required fields "business_model_type" (choose .other BusinessType.options)))
    (defaulted fields "industry" "General" text))
    (defaulted fields "revenue_model_complexity" .simple (choose .other RevenueModel.options)))
    (defaulted fields "target_customer" .smb (choose .other Customer.options)))
    (defaulted fields "operational_complexity" .digital (choose .other Operation.options))

/-- Read a profile; only listed names are accepted. -/
def check : Check Profile := fun datum => do
  read (fun _ options => oneOf options) (← record "PrimaryContext" datum)

/-- Read a profile without a check of names: an unlisted one stands for something other. -/
def checkLoosely : Check Profile := fun datum => do
  read (fun other options datum => .ok (((oneOf options) datum).toOption.getD other))
    (← record "PrimaryContext" datum)

end Profile

/-- The record of criteria. -/
def Criteria.toDatum (criteria : Criteria) : Datum :=
  .object [("checks", .ofTexts criteria.checks),
    ("kpis", (criteria.figures.map Datum.ofTextFields).getD .null),
    ("timeline_hint", .ofText? criteria.timeline)]

namespace Activation

/-- The record of an activation. -/
def toDatum (activation : Activation) : Datum :=
  .object [("model_key", .text activation.category.name),
    ("frameworks", .ofTexts (activation.frameworks.map Framework.name)),
    ("notes", .ofTexts activation.notes)]

/-- Read an activation from a record. -/
def check : Check Activation := fun datum => do
  let fields ← record "PolicyDecision" datum
  Checked.app (Checked.app (Checked.app (.ok Activation.mk)
    (required fields "model_key" (memberOf Category.options)))
    (required fields "frameworks" (listOf (oneOf Framework.options))))
    (defaulted fields "notes" [] (listOf text))

/-- The records of the criteria of the activated frameworks. -/
def criteria (activation : Activation) : Datum :=
  .list ((Criteria.ofFrameworks activation.frameworks).map Criteria.toDatum)

/-- The record of an activation together with its criteria. -/
def withCriteria (activation : Activation) : Datum :=
  .object [("decision", activation.toDatum), ("criteria", activation.criteria)]

end Activation

end Appraisal
