import Appraisal.Datum
import Appraisal.Number.Reading
import Appraisal.Text.Quoted

/-!
# Unchecked data as doubles

Where data are used without a check, a number, a truth value or a text is turned into a double, and
anything else is a fault.  A factor of a product and a side of a comparison have to be a number or a
truth value.
-/

namespace Appraisal

namespace Datum

/-- The name of the kind of a datum, as faults give it. -/
def kind : Datum → String
  | .null => "NoneType"
  | .truth _ => "bool"
  | .number (.whole _) => "int"
  | .number (.double _) => "float"
  | .text _ => "str"
  | .list _ => "list"
  | .object _ => "dict"

/-- Whether a datum is empty in its kind. -/
def isVacant : Datum → Bool
  | .null => true
  | .truth value => !value
  | .number value => value.same (.whole 0)
  | .text value => value = ""
  | .list items => items.isEmpty
  | .object fields => fields.isEmpty

/-- Why a datum is no double. -/
inductive ConversionFault
  /-- A text that stands for no number. -/
  | unreadable (text : String)
  /-- A value of a kind that is never a number. -/
  | noNumber (kind : String)
  /-- A whole number that no double is near. -/
  | tooLarge
  deriving DecidableEq, Repr

/-- The sentence that describes a fault. -/
def ConversionFault.message : ConversionFault → String
  | .unreadable given => "could not convert string to float: " ++ Text.quoted given
  | .noNumber kind => "float() argument must be a string or a real number, not '" ++ kind ++ "'"
  | .tooLarge => "int too large to convert to float"

/-- The double that a datum stands for. -/
def toDouble : Datum → Except ConversionFault Float
  | .number value =>
      match value.toFloat? with
      | some value => .ok value
      | none => .error .tooLarge
  | .truth value => .ok (if value then 1.0 else 0.0)
  | .text value =>
      match Reading.weight? value with
      | some double => .ok double
      | none => .error (.unreadable value)
  | datum => .error (.noNumber datum.kind)

/-- Why a datum cannot be multiplied by a double. -/
inductive FactorFault
  /-- A whole number that no double is near. -/
  | tooLarge
  /-- A row, of characters or of items. -/
  | row
  /-- A value of a kind that has no products. -/
  | noFactor (kind : String)
  deriving DecidableEq, Repr

/-- The sentence that describes a fault. -/
def FactorFault.message : FactorFault → String
  | .tooLarge => "int too large to convert to float"
  | .row => "can't multiply sequence by non-int of type 'float'"
  | .noFactor kind => "unsupported operand type(s) for *: '" ++ kind ++ "' and 'float'"

/-- The double that a datum is in a product. -/
def toFactor : Datum → Except FactorFault Float
  | .number value =>
      match value.toFloat? with
      | some value => .ok value
      | none => .error .tooLarge
  | .truth value => .ok (if value then 1.0 else 0.0)
  | .text _ | .list _ => .error .row
  | datum => .error (.noFactor datum.kind)

/-- The double that a datum is where it is compared; whole numbers out of range are infinite there. -/
def toSide? : Datum → Option Float
  | .number value => some value.toFloat
  | .truth value => some (if value then 1.0 else 0.0)
  | _ => none

end Datum

end Appraisal
