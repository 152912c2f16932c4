import Appraisal.Text.Character

/-!
# Tokens of conditions

A condition is a row of tokens.  A lexeme says what a token is and how it is spelled, and a token
adds the position of its first character.
-/

namespace Appraisal.Condition

/-- Operators between two operands. -/
inductive BinaryOperator
  | disjunction
  | conjunction
  | equal
  | unequal
  | less
  | atMost
  | greater
  | atLeast
  deriving DecidableEq, Repr, Inhabited

/-- Operators in front of an operand. -/
inductive UnaryOperator
  | negation
  | opposite
  deriving DecidableEq, Repr, Inhabited

/-- How tightly a binary operator binds, from the loosest level to the tightest. -/
inductive Level
  | disjunction
  | conjunction
  | equality
  | comparison
  deriving DecidableEq, Repr

/-- The level of an operator. -/
def BinaryOperator.level : BinaryOperator → Level
  | .disjunction => .disjunction
  | .conjunction => .conjunction
  | .equal | .unequal => .equality
  | .less | .atMost | .greater | .atLeast => .comparison

/-- The sign of a binary operator. -/
def BinaryOperator.spelling : BinaryOperator → List Char
  | .disjunction => ['|', '|']
  | .conjunction => ['&', '&']
  | .equal => ['=', '=']
  | .unequal => ['!', '=']
  | .less => ['<']
  | .atMost => ['<', '=']
  | .greater => ['>']
  | .atLeast => ['>', '=']

/-- The sign of a unary operator. -/
def UnaryOperator.spelling : UnaryOperator → List Char
  | .negation => ['!']
  | .opposite => ['-']

/-- What a token is. -/
inductive Lexeme
  /-- Digits, and after a point the digits of a fraction. -/
  | number (whole : List Char) (fraction : Option (List Char))
  /-- What stands between two single quotes. -/
  | text (content : List Char)
  /-- A keyword or a dotted path. -/
  | word (name : List Char)
  | binary (operator : BinaryOperator)
  | unary (operator : UnaryOperator)
  | opening
  | closing
  deriving DecidableEq, Repr, Inhabited

/-- The characters that a lexeme is written with. -/
def Lexeme.spelling : Lexeme → List Char
  | .number whole none => whole
  | .number whole (some fraction) => whole ++ '.' :: fraction
  | .text content => '\'' :: content ++ ['\'']
  | .word name => name
  | .binary operator => operator.spelling
  | .unary operator => operator.spelling
  | .opening => ['(']
  | .closing => [')']

/-- A lexeme at a position of a text. -/
structure Token where
  lexeme : Lexeme
  /-- The count of characters before it. -/
  position : Nat
  deriving DecidableEq, Repr, Inhabited

/-- What a path may go on with after its first character. -/
def isPathPart (character : Char) : Bool :=
  Text.isWord character || character == '.'

/-- The shapes that lexemes have in a text. -/
def Lexeme.Shaped : Lexeme → Prop
  | .number whole fraction =>
      whole ≠ [] ∧ whole.all Text.isDecimalDigit ∧
        ∀ digits, fraction = some digits → digits ≠ [] ∧ digits.all Text.isDecimalDigit
  | .text content => '\'' ∉ content
  | .word [] => False
  | .word (first :: others) => Text.isPathStart first ∧ others.all isPathPart
  | _ => True

end Appraisal.Condition
