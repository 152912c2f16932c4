import Appraisal.Condition.Parser
import Appraisal.Datum

/-!
# Evaluating conditions

An expression is evaluated in a context.  What a path does not find is null, so that evaluation
fails only on a whole number too large for a double, which has no truth value, and on a segment of
digit signs that is no index: some of them are not decimal digits, or there are too many.

Equality separates truth values from numbers at the top only.  Two paths that lead to one place of
the context find the same list or object there, which equals itself whatever it holds.  Nothing else
is shared in a context: what stands in two places are two values, undefined numbers included.
-/

namespace Appraisal.Condition

/-- Why a value cannot be found or judged. -/
inductive EvaluationFault
  /-- A whole number outside the range of doubles, asked for its truth value. -/
  | tooLarge
  /-- A segment of digit signs that is not a decimal number, used on a list. -/
  | noIndex (segment : String)
  /-- A segment that is a decimal number of too many digits, used on a list. -/
  | tooManyDigits (count : Nat)
  deriving DecidableEq, Repr

/-- The sentence that describes a fault of evaluation. -/
def EvaluationFault.message : EvaluationFault → String
  | .tooLarge => "int too large to convert to float"
  | .noIndex segment =>
      "invalid literal for int() with base 10: " ++
        String.ofList ((Text.quoted segment).toList.take 200)
  | .tooManyDigits count => Reading.tooLongText count

/-- The index that a segment stands for in a list; none if it is not made of digit signs. -/
def index? (segment : String) : Except EvaluationFault (Option Nat) :=
  let characters := segment.toList
  if characters.isEmpty || !characters.all Text.isDigitSign then .ok none
  else
    let digits := characters.takeWhile Text.isDecimalDigit
    if Reading.longest < digits.length then .error (.tooManyDigits digits.length)
    else if digits.length = characters.length then .ok (some (Reading.natural digits))
    else .error (.noIndex segment)

/-- The value that a path leads to; null where it leads nowhere. -/
def resolve : Datum → List String → Except EvaluationFault Datum
  | datum, [] => .ok datum
  | .object fields, segment :: segments =>
      match Datum.lookup segment fields with
      | some value => resolve value segments
      | none => .ok .null
  | .list items, segment :: segments => do
      match ← index? segment with
      | none => pure .null
      | some index =>
          match items[index]? with
          | some item => resolve item segments
          | none => pure .null
  | _, _ :: _ => .ok .null

/-- The place that a path leads to, as the positions on the way to it. -/
def place? : Datum → List String → Option (List Nat)
  | _, [] => some []
  | .object fields, segment :: segments => do
      let value ← Datum.lookup segment fields
      let places ← place? value segments
      pure ((fields.map Prod.fst).idxOf segment :: places)
  | .list items, segment :: segments => do
      let index ← (index? segment).toOption.join
      let item ← items[index]?
      let places ← place? item segments
      pure (index :: places)
  | _, _ :: _ => none

/-- Whether two operands are paths to one place of the context. -/
def samePlace (context : Datum) : Expression → Expression → Bool
  | .path left, .path right =>
      match place? context left, place? context right with
      | some left, some right => left == right
      | _, _ => false
  | _, _ => false

/-- The truth value of a datum. -/
def truthy : Datum → Except EvaluationFault Bool
  | .null => .ok false
  | .truth value => .ok value
  | .number (.whole value) =>
      if value = 0 then .ok false
      else if value.natAbs < Double.wholeLimit then .ok true
      else .error .tooLarge
  | .number (.double value) =>
      match Extent.ofFloat value with
      | .undefined => .ok false
      | .finite exact => .ok (exact ≠ 0)
      | _ => .ok true
  | .text value => .ok (value ≠ "")
  | .list _ | .object _ => .ok true

/-- Whether a datum is a truth value. -/
def isTruth : Datum → Bool
  | .truth _ => true
  | _ => false

/-- Equality; `shared` says that both sides are one and the same value of the context. -/
def equals (shared : Bool) (left right : Datum) : Bool :=
  if isTruth left != isTruth right then false
  else (shared && left.isContainer) || left.alike right

/-- Order between two numbers or two texts; false for any other pair. -/
def ordered (numbers : Number → Number → Bool) (texts : String → String → Bool) :
    Datum → Datum → Bool
  | .number left, .number right => numbers left right
  | .text left, .text right => texts left right
  | _, _ => false

/-- The four relations of order. -/
def compares : BinaryOperator → Datum → Datum → Bool
  | .less => ordered Number.less fun left right => left < right
  | .atMost => ordered Number.atMost fun left right => left ≤ right
  | .greater => ordered (fun left right => right.less left) fun left right => right < left
  | .atLeast => ordered (fun left right => right.atMost left) fun left right => right ≤ left
  | _ => fun _ _ => false

/-- The value of a constant. -/
def Literal.value : Literal → Datum
  | .null => .null
  | .truth value => .truth value
  | .whole value => .whole value
  | .decimal digits places => .double (Float.ofScientific digits true places)
  | .text content => .text content

/-- The value of an expression in a context. -/
def Expression.eval (context : Datum) : Expression → Except EvaluationFault Datum
  | .literal value => .ok value.value
  | .path segments => resolve context segments
  | .unary .negation operand => do
      pure (.truth !(← truthy (← operand.eval context)))
  | .unary .opposite operand => do
      match ← operand.eval context with
      | .number value => pure (.number value.neg)
      | _ => pure .null
  | .binary .conjunction left right => do
      if ← truthy (← left.eval context) then pure (.truth (← truthy (← right.eval context)))
      else pure (.truth false)
  | .binary .disjunction left right => do
      if ← truthy (← left.eval context) then pure (.truth true)
      else pure (.truth (← truthy (← right.eval context)))
  | .binary .equal left right => do
      let first ← left.eval context
      let second ← right.eval context
      pure (.truth (equals (samePlace context left right) first second))
  | .binary .unequal left right => do
      let first ← left.eval context
      let second ← right.eval context
      pure (.truth !(equals (samePlace context left right) first second))
  | .binary operator left right => do
      let first ← left.eval context
      let second ← right.eval context
      pure (.truth (compares operator first second))

/-- Whether an expression holds in a context. -/
def Expression.holds (context : Datum) (tree : Expression) : Except EvaluationFault Bool := do
  truthy (← tree.eval context)

/-- Why a text has no truth value in a context. -/
inductive Failure
  /-- The condition is refused. -/
  | fault (fault : Fault)
  /-- The condition has no value. -/
  | evaluation (fault : EvaluationFault)
  deriving DecidableEq, Repr

/-- Parse a text and judge it in a context. -/
def evaluate (text : String) (context : Datum) : Except Failure Bool :=
  match parse text with
  | .error fault => .error (.fault fault)
  | .ok tree => (tree.holds context).mapError .evaluation

end Appraisal.Condition
