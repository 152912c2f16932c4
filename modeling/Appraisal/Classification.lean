import Appraisal.Datum.Record
import Appraisal.Policy.Category
import Appraisal.Validation.Field

/-!
# Classification of ideas

An idea comes as a text with hints.  The hints alone give a category at once; a remote model may
give a better one.  Either way the result says how sure it is and what it rests on.
-/

namespace Appraisal

open Validation

/-- What is known about an idea beside its text. -/
structure Hints where
  /-- The business model in free words. -/
  businessModel : Option String
  category : Option String
  /-- Marks that detectors of keywords set. -/
  flags : List String
  deriving DecidableEq, Repr, Inhabited

/-- An idea to be classified. -/
structure Idea where
  text : String
  /-- What else is known. -/
  hints : Hints
  deriving DecidableEq, Repr, Inhabited

/-- Where a classification comes from. -/
inductive ClassificationSource
  | heuristic
  | model
  deriving DecidableEq, Repr, Inhabited

/-- Names with their sources. -/
def ClassificationSource.options : List (String × ClassificationSource) :=
  [("heuristic", .heuristic), ("ml", .model)]

/-- The name of a source. -/
def ClassificationSource.name : ClassificationSource → String
  | .heuristic => "heuristic"
  | .model => "ml"

/-- The category of an idea and how it was found. -/
structure Classification where
  category : Category
  /-- How sure the category is, between zero and one. -/
  confidence : Float
  /-- Numbers that the category rests on. -/
  features : Option (List (String × Float))
  notes : List String
  /-- Where it comes from. -/
  source : ClassificationSource
  deriving DecidableEq, Inhabited

namespace Hints

/-- The category that hints point to; the first match wins. -/
def infer (hints : Hints) : Category :=
  let businessModel := Text.lowerCase (hints.businessModel.getD "")
  let category := Text.lowerCase (hints.category.getD "")
  if Text.mentions businessModel "physical" then .physicalSubscription
  else if Text.mentions category "learning" || Text.mentions businessModel "education" then
    .learningMarketplace
  else if Text.mentions category "marketplace" || hints.flags.contains "MARKETPLACE_CATEGORY" then
    .servicesMarketplace
  else if hints.flags.contains "CUSTOMER_SUPPORT_CATEGORY" then .saasB2B
  else if hints.flags.contains "PM_CATEGORY" then .pmSoftware
  else .general

/-- No hints at all. -/
def none : Hints := ⟨.none, .none, []⟩

/-- Read hints from a record. -/
def check : Check Hints := fun datum => do
  let fields ← record "ClassificationHints" datum
  Checked.app (Checked.app (Checked.app (.ok Hints.mk)
    (absentable fields "business_model" Validation.text))
    (absentable fields "category" Validation.text))
    (defaulted fields "flags" [] (listOf Validation.text))

/-- The record of hints. -/
def toDatum (hints : Hints) : Datum :=
  .object [("business_model", .ofText? hints.businessModel), ("category", .ofText? hints.category),
    ("flags", .ofTexts hints.flags)]

end Hints

namespace Idea

/-- An idea of which nothing is known. -/
def unknown : Idea := ⟨"", Hints.none⟩

/-- Read an idea from a record. -/
def check : Check Idea := fun datum => do
  let fields ← record "ClassificationInput" datum
  Checked.app (Checked.app (.ok Idea.mk)
    (defaulted fields "text" "" Validation.text))
    (defaulted fields "hints" Hints.none Hints.check)

/-- The record of an idea. -/
def toDatum (idea : Idea) : Datum :=
  .object [("text", .text idea.text), ("hints", idea.hints.toDatum)]

end Idea

namespace Classification

/-- How sure a classification is: a number between zero and one. -/
def checkConfidence : Check Float := fun datum =>
  (number datum).bind (between 0 1)

/-- Read a classification from a record. -/
def check : Check Classification := fun datum => do
  let fields ← record "ClassificationResult" datum
  Checked.app (Checked.app (Checked.app (Checked.app (Checked.app (.ok Classification.mk)
    (required fields "model" (memberOf Category.options)))
    (required fields "confidence" checkConfidence))
    (absentable fields "features" (mappingOf number)))
    (defaulted fields "notes" [] (listOf Validation.text)))
    (defaulted fields "source" .heuristic (oneOf ClassificationSource.options))

/-- The record of a classification. -/
def toDatum (classification : Classification) : Datum :=
  .object [("model", .text classification.category.name),
    ("confidence", .double classification.confidence),
    ("features", (classification.features.map Datum.ofDoubleFields).getD .null),
    ("notes", .ofTexts classification.notes), ("source", .text classification.source.name)]

/-- The classification that hints alone give, at a confidence that is checked only here. -/
def ofHints (confidence : Datum) (hints : Hints) : Checked Classification :=
  ((checkConfidence confidence).under (.key "confidence")).map fun confidence =>
    ⟨hints.infer, confidence, .none, ["heuristic-inference"], .heuristic⟩

/-- The classification that the caller gives. -/
def explicit (category : Category) : Classification :=
  ⟨category, 1.0, .none, ["explicit-category"], .heuristic⟩

/-- Add a remark at the end. -/
def noted (note : String) (classification : Classification) : Classification :=
  { classification with notes := classification.notes ++ [note] }

end Classification

end Appraisal
