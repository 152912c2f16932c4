import Appraisal.Datum
import Appraisal.Number.Shortest
import Appraisal.Text.Quoted

/-!
# Writing JSON

Data as JSON texts.  Doubles are written as their shortest decimals, always with a point or an
exponent, so that a reader tells them from whole numbers.  The special doubles are written by the
names that the reader accepts.
-/

namespace Appraisal.Json

/-- A character inside a JSON string. -/
def stringCharacter (character : Char) : List Char :=
  if character = '"' ∨ character = '\\' then ['\\', character]
  else if character = '\n' then ['\\', 'n']
  else if character.toNat < 0x20 then '\\' :: 'u' :: Text.hexadecimal 4 character.toNat
  else [character]

/-- A JSON string. -/
def stringText (text : String) : String :=
  String.ofList ('"' :: text.toList.flatMap stringCharacter ++ ['"'])

/-- A number, or the name of a special double. -/
def numberText : Number → String
  | .whole value => toString value
  | .double value =>
      match Extent.ofFloat value with
      | .undefined => "NaN"
      | .above => "Infinity"
      | .below => "-Infinity"
      | .finite _ => Double.text value

mutual

/-- A datum as JSON text. -/
def text : Datum → String
  | .null => "null"
  | .truth value => if value then "true" else "false"
  | .number value => numberText value
  | .text value => stringText value
  | .list items => "[" ++ String.intercalate "," (itemTexts items) ++ "]"
  | .object fields => "\x7b" ++ String.intercalate "," (fieldTexts fields) ++ "\x7d"

/-- The items of a list. -/
def itemTexts : List Datum → List String
  | [] => []
  | item :: items => text item :: itemTexts items

/-- The fields of an object. -/
def fieldTexts : List (String × Datum) → List String
  | [] => []
  | (key, value) :: fields => (stringText key ++ ":" ++ text value) :: fieldTexts fields

end

end Appraisal.Json
