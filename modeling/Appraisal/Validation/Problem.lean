/-!
# Problems of validation

Data from outside are checked field by field.  Every problem says what is wrong and where: the
location is the row of keys and indexes that leads to the offending value.  A check reports all
problems of a datum, in the order of the declared fields.
-/

namespace Appraisal.Validation

/-- A step of a location. -/
inductive Step
  | key (name : String)
  | index (position : Nat)
  deriving DecidableEq, Repr

/-- What can be wrong with a value. -/
inductive Defect
  | missing
  | textExpected
  | textTooShort
  | blankIdentifier
  | listExpected
  /-- A row of fixed items was expected; a list is accepted as one. -/
  | tupleExpected
  | mappingExpected
  /-- An object of the named kind was expected. -/
  | recordExpected (kind : String)
  | fieldsExpected
  /-- The field that tells the kinds of an object apart is absent. -/
  | tagMissing
  /-- That field names none of the kinds. -/
  | tagUnknown (tag : String) (expected : List String)
  /-- A member of a named enumeration was expected. -/
  | notMember (options : List String)
  | notOneOf (options : List String)
  | truthExpected
  | truthUnreadable
  | numberExpected
  | numberUnreadable
  | wholeExpected
  | wholeUnreadable
  /-- The number has too many digits to be read as a whole one. -/
  | wholeTooLong
  | wholeFraction
  /-- The number is infinite or undefined where a whole number was expected. -/
  | wholeNotFinite
  /-- The number is below the least admissible one. -/
  | belowLeast (least : Int)
  /-- The number is not at most the greatest admissible one. -/
  | aboveGreatest (greatest : Int)
  | unreadable
  deriving DecidableEq, Repr

/-- Texts in quotes, the last one joined by a word. -/
def choices : List String → String
  | [] => ""
  | [last] => "'" ++ last ++ "'"
  | [first, last] => "'" ++ first ++ "' or '" ++ last ++ "'"
  | first :: others => "'" ++ first ++ "', " ++ choices others

namespace Defect

/-- The short name of a defect. -/
def code : Defect → String
  | .missing => "missing"
  | .textExpected => "string_type"
  | .textTooShort => "string_too_short"
  | .blankIdentifier => "value_error"
  | .listExpected => "list_type"
  | .tupleExpected => "tuple_type"
  | .mappingExpected => "dict_type"
  | .recordExpected _ => "model_type"
  | .fieldsExpected => "model_attributes_type"
  | .tagMissing => "union_tag_not_found"
  | .tagUnknown .. => "union_tag_invalid"
  | .notMember _ => "enum"
  | .notOneOf _ => "literal_error"
  | .truthExpected => "bool_type"
  | .truthUnreadable => "bool_parsing"
  | .numberExpected => "float_type"
  | .numberUnreadable => "float_parsing"
  | .wholeExpected => "int_type"
  | .wholeUnreadable => "int_parsing"
  | .wholeTooLong => "int_parsing_size"
  | .wholeFraction => "int_from_float"
  | .wholeNotFinite => "finite_number"
  | .belowLeast _ => "greater_than_equal"
  | .aboveGreatest _ => "less_than_equal"
  | .unreadable => "json_invalid"

/-- The sentence that describes a defect. -/
def message : Defect → String
  | .missing => "Field required"
  | .textExpected => "Input should be a valid string"
  | .textTooShort => "String should have at least 1 character"
  | .blankIdentifier => "Value error, Rule id cannot be blank"
  | .listExpected => "Input should be a valid list"
  | .tupleExpected => "Input should be a valid tuple"
  | .mappingExpected => "Input should be a valid dictionary"
  | .recordExpected kind => "Input should be a valid dictionary or instance of " ++ kind
  | .fieldsExpected => "Input should be a valid dictionary or object to extract fields from"
  | .tagMissing => "Unable to extract tag using discriminator 'type'"
  | .tagUnknown tag expected =>
      "Input tag '" ++ tag ++ "' found using 'type' does not match any of the expected tags: " ++
        String.intercalate ", " (expected.map fun option => "'" ++ option ++ "'")
  | .notMember options | .notOneOf options => "Input should be " ++ choices options
  | .truthExpected => "Input should be a valid boolean"
  | .truthUnreadable => "Input should be a valid boolean, unable to interpret input"
  | .numberExpected => "Input should be a valid number"
  | .numberUnreadable => "Input should be a valid number, unable to parse string as a number"
  | .wholeExpected => "Input should be a valid integer"
  | .wholeUnreadable => "Input should be a valid integer, unable to parse string as an integer"
  | .wholeTooLong => "Unable to parse input string as an integer, exceeded maximum size"
  | .wholeFraction => "Input should be a valid integer, got a number with a fractional part"
  | .wholeNotFinite => "Input should be a finite number"
  | .belowLeast least => "Input should be greater than or equal to " ++ toString least
  | .aboveGreatest greatest => "Input should be less than or equal to " ++ toString greatest
  | .unreadable => "JSON decode error"

end Defect

/-- A defect and where it is. -/
structure Problem where
  defect : Defect
  /-- The way to the offending value. -/
  location : List Step
  deriving DecidableEq, Repr

/-- The same problem seen from one step further outside. -/
def Problem.under (step : Step) (problem : Problem) : Problem :=
  { problem with location := step :: problem.location }

/-- The outcome of a check: a value, or all the problems that prevent it. -/
abbrev Checked (α : Type) := Except (List Problem) α

namespace Checked

/-- A single defect at the value itself. -/
def refuse {α : Type} (defect : Defect) : Checked α :=
  .error [⟨defect, []⟩]

/-- Locate the problems of a part in the whole. -/
def under {α : Type} (step : Step) (outcome : Checked α) : Checked α :=
  outcome.mapError (List.map (Problem.under step))

/-- Apply a checked function to a checked argument; problems of both sides are kept, in order. -/
def app {α β : Type} (function : Checked (α → β)) (argument : Checked α) : Checked β :=
  match function, argument with
  | .ok function, .ok argument => .ok (function argument)
  | .ok _, .error problems => .error problems
  | .error problems, .ok _ => .error problems
  | .error first, .error second => .error (first ++ second)

/-- Check a row of values, with the problems of all of them. -/
def sequence {α : Type} : List (Checked α) → Checked (List α)
  | [] => .ok []
  | first :: others => app (first.map List.cons) (sequence others)

@[simp]
theorem app_ok {α β : Type} (function : α → β) (argument : α) :
    app (.ok function) (.ok argument) = .ok (function argument) :=
  rfl

theorem sequence_map_ok {α : Type} (values : List α) :
    sequence (values.map Except.ok) = .ok values := by
  induction values with
  | nil => rfl
  | cons first others induction => simp [sequence, induction, Except.map]

end Checked

end Appraisal.Validation
