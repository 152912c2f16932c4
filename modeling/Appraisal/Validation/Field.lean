import Appraisal.Datum
import Appraisal.Number.Reading
import Appraisal.Validation.Problem

/-!
# Checks of single values and fields

The checks read generously where nothing is lost: a number may be given as text, a truth value as
one of a few words, a whole number as a double without fraction.
-/

namespace Appraisal.Validation

/-- A check of a datum. -/
abbrev Check (α : Type) := Datum → Checked α

/-- A text; nothing else is turned into one. -/
def text : Check String
  | .text value => .ok value
  | _ => .refuse .textExpected

/-- A text with at least one character. -/
def nonEmptyText : Check { value : String // value ≠ "" }
  | .text value => if given : value ≠ "" then .ok ⟨value, given⟩ else .refuse .textTooShort
  | _ => .refuse .textExpected

/-- A double; whole numbers, truth values and decimal texts are turned into one. -/
def number : Check Float
  | .number (.double value) => .ok value
  | .number (.whole value) =>
      match Double.ofWhole? value with
      | some value => .ok value
      | none => .refuse .numberExpected
  | .truth value => .ok (if value then 1.0 else 0.0)
  | .text value =>
      match Reading.fieldDouble? value with
      | some value => .ok value
      | none => .refuse .numberUnreadable
  | _ => .refuse .numberExpected

/-- Whether a number lies between the least and the greatest whole number of 64 bits; a double must
not be either of the ends. -/
def isShort : Number → Bool
  | .whole value => -Int.pow 2 63 ≤ value && value < Int.pow 2 63
  | .double value => -9223372036854775808.0 < value && value < 9223372036854775808.0

/-- The whole number of a double without fraction. -/
def wholeOfDouble (value : Float) : Checked Int :=
  match Extent.ofFloat value with
  | .finite exact =>
      if exact.den ≠ 1 then .refuse .wholeFraction
      else if isShort (.double value) then .ok exact.num
      else .refuse .wholeTooLong
  | _ => .refuse .wholeNotFinite

/-- A whole number; doubles without fraction, truth values and texts are turned into one. -/
def whole : Check Int
  | .number (.whole value) => .ok value
  | .number (.double value) => wholeOfDouble value
  | .truth value => .ok (if value then 1 else 0)
  | .text value =>
      match Reading.fieldWhole value with
      | .ok value => .ok value
      | .error .unreadable => .refuse .wholeUnreadable
      | .error .tooLong => .refuse .wholeTooLong
  | _ => .refuse .wholeExpected

/-- The truth value that zero or one stands for. -/
def truthOfWhole (value : Int) : Checked Bool :=
  if value = 0 then .ok false else if value = 1 then .ok true else .refuse .truthUnreadable

/-- The truth value that a word stands for. -/
def truthOfWord (word : String) : Checked Bool :=
  let word := word.toLower
  if ["0", "off", "f", "false", "n", "no"].contains word then .ok false
  else if ["1", "on", "t", "true", "y", "yes"].contains word then .ok true
  else .refuse .truthUnreadable

/-- A truth value; zero, one and a few words are turned into one. -/
def truth : Check Bool
  | .truth value => .ok value
  | .number (.whole value) =>
      if isShort (.whole value) then truthOfWhole value else .refuse .truthExpected
  | .number (.double value) =>
      match wholeOfDouble value with
      | .ok value => truthOfWhole value
      | .error _ => .refuse .truthExpected
  | .text word => truthOfWord word
  | _ => .refuse .truthExpected

/-- One of the texts that name the members of an enumeration. -/
def memberOf {α : Type} (options : List (String × α)) : Check α
  | .text value =>
      match options.lookup value with
      | some member => .ok member
      | none => .refuse (.notMember (options.map Prod.fst))
  | _ => .refuse (.notMember (options.map Prod.fst))

/-- One of some fixed texts. -/
def oneOf {α : Type} (options : List (String × α)) : Check α
  | .text value =>
      match options.lookup value with
      | some member => .ok member
      | none => .refuse (.notOneOf (options.map Prod.fst))
  | _ => .refuse (.notOneOf (options.map Prod.fst))

/-- Null, or a value that passes a check. -/
def optional {α : Type} (check : Check α) : Check (Option α)
  | .null => .ok none
  | datum => (check datum).map some

/-- The items of a row, each with its index in the location of its problems. -/
def items {α : Type} (check : Check α) : (index : Nat) → List Datum → List (Checked α)
  | _, [] => []
  | index, item :: rest => (check item).under (.index index) :: items check (index + 1) rest

/-- A list of values that pass a check. -/
def listOf {α : Type} (check : Check α) : Check (List α)
  | .list values => .sequence (items check 0 values)
  | _ => .refuse .listExpected

/-- A tuple of values that pass a check. -/
def tupleOf {α : Type} (check : Check α) : Check (List α)
  | .list values => .sequence (items check 0 values)
  | _ => .refuse .tupleExpected

/-- Keys with values that pass a check. -/
def mappingOf {α : Type} (check : Check α) : Check (List (String × α))
  | .object fields =>
      .sequence (fields.map fun (key, value) =>
        Checked.under (.key key) ((check value).map (key, ·)))
  | _ => .refuse .mappingExpected

/-- The fields of any object. -/
def mapping : Check (List (String × Datum)) :=
  mappingOf fun datum => .ok datum

/-- The fields of an object of a named kind. -/
def record (kind : String) : Check (List (String × Datum))
  | .object fields => .ok fields
  | _ => .refuse (.recordExpected kind)

/-- A field that must be present. -/
def required {α : Type} (fields : List (String × Datum)) (key : String) (check : Check α) :
    Checked α :=
  match Datum.lookup key fields with
  | some value => (check value).under (.key key)
  | none => .error [⟨.missing, [.key key]⟩]

/-- A field that has a default when it is absent. -/
def defaulted {α : Type} (fields : List (String × Datum)) (key : String) (default : α)
    (check : Check α) : Checked α :=
  match Datum.lookup key fields with
  | some value => (check value).under (.key key)
  | none => .ok default

/-- A field that may be absent or null. -/
def absentable {α : Type} (fields : List (String × Datum)) (key : String) (check : Check α) :
    Checked (Option α) :=
  defaulted fields key none (optional check)

/-- A number between two bounds; the upper one is looked at first, and an undefined number fails it. -/
def between (least greatest : Int) (value : Float) : Checked Float :=
  let extent := Extent.ofFloat value
  if !extent.atMost (.finite greatest) then .refuse (.aboveGreatest greatest)
  else if extent.less (.finite least) then .refuse (.belowLeast least)
  else .ok value

theorem between_of_inside {least greatest : Int} {value : Float}
    (above : Extent.atMost (.finite least) (Extent.ofFloat value) = true)
    (below : (Extent.ofFloat value).atMost (.finite greatest) = true) :
    between least greatest value = .ok value := by
  have not_below := Extent.not_less_of_atMost above
  simp only [between, below, not_below, Bool.not_true, Bool.false_eq_true, if_false]

/-- A whole number that is not below a bound. -/
def atLeast (least : Int) (value : Int) : Checked Int :=
  if value < least then .refuse (.belowLeast least) else .ok value

/-- A whole number between two bounds; the upper one is looked at first. -/
def wholeBetween (least greatest : Int) (value : Int) : Checked Int :=
  if greatest < value then .refuse (.aboveGreatest greatest)
  else if value < least then .refuse (.belowLeast least)
  else .ok value

end Appraisal.Validation
