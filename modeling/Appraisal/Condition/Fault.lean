import Appraisal.Text.Quoted

/-!
# Faults of conditions

A condition can be refused for two reasons.  It is unsafe when it holds a character outside the
allowed ones, exceeds a limit of size, or would need more of the stack than there is; it is malformed
when it is not an expression.
-/

namespace Appraisal.Condition

/-- The greatest length of a condition in characters. -/
def maxLength : Nat := 2000

/-- The greatest number of parentheses and unary operators around a token. -/
def maxNesting : Nat := 64

/-- The greatest number of binary operators in a condition. -/
def maxOperators : Nat := 128

/-- Why a condition is refused. -/
inductive Fault
  | tooLong
  /-- A character that no condition may hold. -/
  | disallowed (character : Char) (position : Nat)
  /-- Parentheses and unary operators around one token beyond the limit. -/
  | tooDeep
  /-- Binary operators beyond the limit. -/
  | tooManyOperators
  /-- Calls of an evaluation standing on each other beyond the room on the stack. -/
  | tooDeepToEvaluate
  | empty
  /-- A character that starts no token, or a token out of place. -/
  | unexpected (spelling : List Char) (position : Nat)
  /-- The text ends where an operand is due. -/
  | unexpectedEnd
  /-- A path with an empty segment. -/
  | malformedPath (spelling : List Char)
  | unclosed (position : Nat)
  deriving DecidableEq, Repr

namespace Fault

/-- Whether the fault is one of safety rather than of form. -/
def isUnsafe : Fault → Bool
  | .tooLong | .disallowed .. | .tooDeep | .tooManyOperators | .tooDeepToEvaluate => true
  | _ => false

/-- The sentence that describes a fault. -/
def message : Fault → String
  | .tooLong => "Expression longer than " ++ toString maxLength ++ " chars"
  | .disallowed character position =>
      "Disallowed character " ++ Text.quoted (String.singleton character) ++ " at position " ++
        toString position
  | .tooDeep => "Nesting deeper than " ++ toString maxNesting
  | .tooManyOperators => "More than " ++ toString maxOperators ++ " binary operators"
  | .tooDeepToEvaluate => "Expression too deeply nested to evaluate"
  | .empty => "Empty expression"
  | .unexpected spelling position =>
      "Unexpected " ++ Text.quoted (String.ofList spelling) ++ " at position " ++ toString position
  | .unexpectedEnd => "Unexpected end of expression"
  | .malformedPath spelling => "Malformed path " ++ Text.quoted (String.ofList spelling)
  | .unclosed position => "Unclosed '(' at position " ++ toString position

end Fault

end Appraisal.Condition
