import Appraisal.Datum

/-!
# Parts of records

Values as they stand in the fields of a record.  What is not given is null.
-/

namespace Appraisal.Datum

/-- A text, or null. -/
def ofText? : Option String → Datum
  | some value => .text value
  | none => .null

/-- A truth value, or null. -/
def ofTruth? : Option Bool → Datum
  | some value => .truth value
  | none => .null

/-- A double, or null. -/
def ofDouble? : Option Float → Datum
  | some value => .double value
  | none => .null

/-- A whole number, or null. -/
def ofWhole? : Option Int → Datum
  | some value => .whole value
  | none => .null

/-- A row of texts. -/
def ofTexts (texts : List String) : Datum :=
  .list (texts.map .text)

/-- A mapping of texts. -/
def ofTextFields (fields : List (String × String)) : Datum :=
  .object (fields.map fun (key, value) => (key, .text value))

/-- A mapping of doubles. -/
def ofDoubleFields (fields : List (String × Float)) : Datum :=
  .object (fields.map fun (key, value) => (key, .double value))

/-- Leave out the fields of a record that are null. -/
def present (fields : List (String × Datum)) : List (String × Datum) :=
  fields.filter fun field => !field.2.isNull

end Appraisal.Datum
