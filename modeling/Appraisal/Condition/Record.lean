import Appraisal.Condition.Evaluation

/-!
# Tokens and trees as records
-/

namespace Appraisal.Condition

/-- The name of the kind of a lexeme. -/
def Lexeme.kind : Lexeme → String
  | .number .. => "NUMBER"
  | .text _ => "STRING"
  | .word _ => "PATH"
  | .binary _ | .unary _ => "OP"
  | .opening => "LPAREN"
  | .closing => "RPAREN"

/-- A spelling as a datum. -/
def spelled (characters : List Char) : Datum :=
  .text (String.ofList characters)

/-- The record of a token: its kind, its spelling and its position. -/
def Token.toDatum (token : Token) : Datum :=
  .list [.text token.lexeme.kind, spelled token.lexeme.spelling, .whole token.position]

/-- The record of a tree. -/
def Expression.toDatum : Expression → Datum
  | .literal value => .object [("lit", value.value)]
  | .path segments => .object [("path", .list (segments.map .text))]
  | .unary operator operand =>
      .object [("unary", spelled operator.spelling), ("operand", operand.toDatum)]
  | .binary operator left right =>
      .object [("binary", spelled operator.spelling), ("left", left.toDatum),
        ("right", right.toDatum)]

end Appraisal.Condition
