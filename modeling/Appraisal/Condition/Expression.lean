import Appraisal.Condition.Token
import Appraisal.Number.Reading
import Appraisal.Text.Parts

/-!
# Expressions

The tree of a condition.  Number literals are kept as they are written: a whole number, or digits
with a count of decimal places.
-/

namespace Appraisal.Condition

/-- A constant of the language. -/
inductive Literal
  | null
  | truth (value : Bool)
  /-- A number without a point. -/
  | whole (value : Nat)
  /-- The number `digits / 10 ^ places`, written with a point. -/
  | decimal (digits places : Nat)
  | text (content : String)
  deriving DecidableEq, Repr, Inhabited

/-- The tree of a condition. -/
inductive Expression
  | literal (value : Literal)
  /-- A path into the context, segment by segment. -/
  | path (segments : List String)
  | unary (operator : UnaryOperator) (operand : Expression)
  | binary (operator : BinaryOperator) (left right : Expression)
  deriving DecidableEq, Repr, Inhabited

namespace Expression

/-- The paths of a tree, from left to right. -/
def paths : Expression → List (List String)
  | .literal _ => []
  | .path segments => [segments]
  | .unary _ operand => operand.paths
  | .binary _ left right => left.paths ++ right.paths

/-- How many binary operators a tree has. -/
def binaryCount : Expression → Nat
  | .literal _ | .path _ => 0
  | .unary _ operand => operand.binaryCount
  | .binary _ left right => left.binaryCount + right.binaryCount + 1

/-- The greatest number of unary operators on a way from the root to a leaf. -/
def unaryDepth : Expression → Nat
  | .literal _ | .path _ => 0
  | .unary _ operand => operand.unaryDepth + 1
  | .binary _ left right => max left.unaryDepth right.unaryDepth

/-- The greatest number of nodes on a way from the root to a leaf. -/
def height : Expression → Nat
  | .literal _ | .path _ => 1
  | .unary _ operand => operand.height + 1
  | .binary _ left right => max left.height right.height + 1

end Expression

/-- The segments of a path: what stands between its points. -/
def segments (path : List Char) : List (List Char) :=
  Text.parts '.' path

/-- The constant that a keyword stands for. -/
def keyword? (name : List Char) : Option Literal :=
  if name = "true".toList then some (.truth true)
  else if name = "false".toList then some (.truth false)
  else if name = "null".toList then some .null
  else none

/-- The constant that a number stands for. -/
def numberLiteral (whole : List Char) : Option (List Char) → Literal
  | none => .whole (Reading.natural whole)
  | some fraction => .decimal (Reading.natural (whole ++ fraction)) fraction.length

end Appraisal.Condition
