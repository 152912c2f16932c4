import Appraisal.Datum
import Appraisal.Number.Shortest
import Appraisal.Text.Quoted

/-!
# Data in messages

A datum inside a message is written with `True`, `False` and `None` for the constants; texts inside
lists and objects are quoted, a text by itself stands as it is.
-/

namespace Appraisal

/-- A number in a message. -/
def Number.display : Number → String
  | .whole value => toString value
  | .double value => Double.text value

namespace Datum

mutual

/-- A datum as part of a larger one in a message. -/
def displayInside : Datum → String
  | .null => "None"
  | .truth value => if value then "True" else "False"
  | .number value => value.display
  | .text value => Text.quoted value
  | .list items => "[" ++ String.intercalate ", " (displayItems items) ++ "]"
  | .object fields => "\x7b" ++ String.intercalate ", " (displayFields fields) ++ "\x7d"

/-- The items of a list in a message. -/
def displayItems : List Datum → List String
  | [] => []
  | item :: items => displayInside item :: displayItems items

/-- The fields of an object in a message. -/
def displayFields : List (String × Datum) → List String
  | [] => []
  | (key, value) :: fields =>
      (Text.quoted key ++ ": " ++ displayInside value) :: displayFields fields

end

/-- A datum in a message. -/
def display : Datum → String
  | .text value => value
  | datum => displayInside datum

end Datum

end Appraisal
