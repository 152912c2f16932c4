import Appraisal.Number

/-!
# Data

A datum is a value from outside: rule contexts, raw rules, request bodies and stored rows consist of
data.  Objects keep their fields in the order of arrival; no two fields of an object that was read
share a key (`Datum.WellFormed`), and equality does not look at the order.
-/

namespace Appraisal

/-- A value from outside. -/
inductive Datum
  /-- The absent value. -/
  | null
  | truth (value : Bool)
  | number (value : Number)
  | text (value : String)
  /-- A row of values. -/
  | list (items : List Datum)
  /-- Values under keys. -/
  | object (fields : List (String × Datum))
  deriving Inhabited

namespace Datum

/-- A whole number as a datum. -/
abbrev whole (value : Int) : Datum := .number (.whole value)

/-- A double as a datum. -/
abbrev double (value : Float) : Datum := .number (.double value)

/-- The value under a key in a row of fields. -/
def lookup (key : String) : List (String × Datum) → Option Datum
  | [] => none
  | (name, value) :: fields => if name = key then some value else lookup key fields

/-- The value of a field, if the datum is an object that has it. -/
def field? (key : String) : Datum → Option Datum
  | .object fields => lookup key fields
  | _ => none

/-- Replace the value under a key where it stands, or append it. -/
def insert (key : String) (value : Datum) : List (String × Datum) → List (String × Datum)
  | [] => [(key, value)]
  | (name, old) :: fields =>
      if name = key then (name, value) :: fields else (name, old) :: insert key value fields

/-- Put fields over a row of fields, in the places of earlier ones with their keys. -/
def merged (fields additions : List (String × Datum)) : List (String × Datum) :=
  additions.foldl (fun fields (key, value) => insert key value fields) fields

/-- Lists and objects. -/
def isContainer : Datum → Bool
  | .list _ | .object _ => true
  | _ => false

/-- Null or not. -/
def isNull : Datum → Bool
  | .null => true
  | _ => false

/-- Distinct keys in every object, at every depth. -/
inductive WellFormed : Datum → Prop
  | null : WellFormed .null
  | truth (value : Bool) : WellFormed (.truth value)
  | number (value : Number) : WellFormed (.number value)
  | text (value : String) : WellFormed (.text value)
  | list {items : List Datum} (each : ∀ item ∈ items, WellFormed item) : WellFormed (.list items)
  | object {fields : List (String × Datum)} (distinct : (fields.map Prod.fst).Nodup)
      (each : ∀ entry ∈ fields, WellFormed entry.2) : WellFormed (.object fields)

/-- The number that a truth value counts as inside lists and objects. -/
def countOf : Bool → Number
  | true => .whole 1
  | false => .whole 0

mutual

/--
Equality of values by content.  Truth values count as one and zero, numbers are compared by exact
value, lists element by element, and objects key by key.  An undefined number equals none, as if no
two lists or objects held one and the same undefined number.
-/
def alike : Datum → Datum → Bool
  | .null, .null => true
  | .truth left, .truth right => left == right
  | .truth left, .number right => (countOf left).same right
  | .number left, .truth right => left.same (countOf right)
  | .number left, .number right => left.same right
  | .text left, .text right => left == right
  | .list left, .list right => allAlike left right
  | .object left, .object right => left.length == right.length && fieldsAlike left right
  | _, _ => false

/-- Equality of rows, element by element. -/
def allAlike : List Datum → List Datum → Bool
  | [], [] => true
  | left :: lefts, right :: rights => alike left right && allAlike lefts rights
  | _, _ => false

/-- Every field on the left has an equal value under its key on the right. -/
def fieldsAlike : List (String × Datum) → List (String × Datum) → Bool
  | [], _ => true
  | (key, value) :: fields, right =>
      (match lookup key right with
        | some other => alike value other
        | none => false) && fieldsAlike fields right

end

mutual

/-- The datum with something else in the place of every number, at every depth. -/
def mapNumbers (change : Number → Datum) : Datum → Datum
  | .number value => change value
  | .list items => .list (mapItemNumbers change items)
  | .object fields => .object (mapFieldNumbers change fields)
  | datum => datum

/-- `mapNumbers` for the items of a list. -/
def mapItemNumbers (change : Number → Datum) : List Datum → List Datum
  | [] => []
  | item :: items => mapNumbers change item :: mapItemNumbers change items

/-- `mapNumbers` for the fields of an object. -/
def mapFieldNumbers (change : Number → Datum) : List (String × Datum) → List (String × Datum)
  | [] => []
  | (key, value) :: fields => (key, mapNumbers change value) :: mapFieldNumbers change fields

end

/-- A number, unless it is an infinite or undefined double: something else stands for that. -/
def finiteOr (special : Float → Datum) : Number → Datum
  | .double value => if value.isFinite then .double value else special value
  | value => .number value

/-- The datum without infinite and undefined doubles: null stands in their places. -/
def withoutSpecials : Datum → Datum :=
  mapNumbers (finiteOr fun _ => .null)

end Datum

end Appraisal
