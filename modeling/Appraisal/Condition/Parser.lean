import Appraisal.Condition.Expression
import Appraisal.Condition.Lexer

/-!
# Parsing conditions

Binary operators bind on four levels, from disjunction to comparison, and group to the left on each
of them; unary operators bind tighter and group to the right; parentheses leave no trace in the
tree.  Two budgets bound a condition.  The allowance of binary operators is spent along the text and
never given back; the allowance of nestings is what a parenthesis or a unary operator takes from the
operand behind it.
-/

namespace Appraisal.Condition

/-- What is left of the tokens and of the allowance of binary operators. -/
structure Cursor where
  tokens : List Token
  /-- How many binary operators may still follow. -/
  operators : Nat
  deriving DecidableEq

/-- A reader of one part of a condition. -/
abbrev Reader := Cursor → Except Fault (Expression × Cursor)

/-- The operator of a level at the front of the tokens. -/
def Level.operator? (level : Level) : List Token → Option (BinaryOperator × List Token)
  | ⟨.binary operator, _⟩ :: rest => if operator.level = level then some (operator, rest) else none
  | _ => none

/--
Join further operands of a level to a tree.  Every turn spends one operator of the allowance, so
the allowance at the start bounds the count of turns.
-/
def chainFrom (level : Level) (operand : Reader) : (turns : Nat) → Expression → Reader
  | 0, left, cursor =>
      match level.operator? cursor.tokens with
      | none => .ok (left, cursor)
      | some _ => .error .tooManyOperators
  | turns + 1, left, cursor =>
      match level.operator? cursor.tokens, cursor.operators with
      | none, _ => .ok (left, cursor)
      | some _, 0 => .error .tooManyOperators
      | some (operator, rest), operators + 1 => do
          let (right, cursor) ← operand ⟨rest, operators⟩
          chainFrom level operand turns (.binary operator left right) cursor

/-- One or more operands of a level, grouped to the left. -/
def chain (level : Level) (operand : Reader) : Reader := fun cursor => do
  let (left, cursor) ← operand cursor
  chainFrom level operand cursor.operators left cursor

/-- A whole expression over a reader of its operands. -/
def expression (operand : Reader) : Reader :=
  chain .disjunction (chain .conjunction (chain .equality (chain .comparison operand)))

/-- The leaf that a word stands for: a keyword, or a path without empty segments. -/
def wordLeaf (name : List Char) : Except Fault Expression :=
  match keyword? name with
  | some value => .ok (.literal value)
  | none =>
      if (segments name).any List.isEmpty then .error (.malformedPath name)
      else .ok (.path ((segments name).map String.ofList))

/--
An operand: a leaf, a unary operator before another operand, or an expression in parentheses.  The
last two need a reader of deeper operands, which is missing once the nestings are used up.
-/
def operandWith (deeper : Option Reader) : Reader := fun cursor =>
  match cursor.tokens with
  | [] => .error .unexpectedEnd
  | token :: rest =>
      match token.lexeme with
      | .number whole fraction =>
          .ok (.literal (numberLiteral whole fraction), ⟨rest, cursor.operators⟩)
      | .text content =>
          .ok (.literal (.text (String.ofList content)), ⟨rest, cursor.operators⟩)
      | .word name => (wordLeaf name).map (·, ⟨rest, cursor.operators⟩)
      | .unary operator =>
          match deeper with
          | none => .error .tooDeep
          | some deeper => do
              let (operand, cursor) ← deeper ⟨rest, cursor.operators⟩
              pure (.unary operator operand, cursor)
      | .opening =>
          match deeper with
          | none => .error .tooDeep
          | some deeper => do
              let (inner, cursor) ← expression deeper ⟨rest, cursor.operators⟩
              match cursor.tokens with
              | ⟨.closing, _⟩ :: rest => pure (inner, ⟨rest, cursor.operators⟩)
              | _ => throw (.unclosed token.position)
      | .binary _ | .closing => .error (.unexpected token.lexeme.spelling token.position)

/-- An operand inside which `nesting` more parentheses and unary operators may be nested. -/
def operand : (nesting : Nat) → Reader
  | 0 => operandWith none
  | nesting + 1 => operandWith (some (operand nesting))

/-- The tree of a whole row of tokens. -/
def parseTokens (tokens : List Token) : Except Fault Expression :=
  match tokens with
  | [] => .error .empty
  | _ => do
      let (tree, rest) ← expression (operand maxNesting) ⟨tokens, maxOperators⟩
      match rest.tokens with
      | [] => pure tree
      | token :: _ => throw (.unexpected token.lexeme.spelling token.position)

/-- The tree of a text. -/
def parse (text : String) : Except Fault Expression := do
  checkSafety text.toList
  parseTokens (← tokens text.toList)

end Appraisal.Condition
