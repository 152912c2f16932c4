import Appraisal.Condition.Expression
import Mathlib.Algebra.Group.Nat.Defs

/-!
# Derivations of conditions

The grammar of conditions by itself, without a reader and without limits.  A derivation says how a
row of lexemes is put together: which operators join which operands, and which parentheses enclose
what.  Its yield is that row, and every lexeme of it carries the count of parentheses and unary
operators that it lies inside.  Its tree is what the row means; parentheses leave nothing in it.
-/

namespace Appraisal.Condition

/-- What is derived: an operand, or operands joined by operators of one level. -/
inductive Phrase
  | operand
  | joined (level : Level)
  deriving DecidableEq

namespace Phrase

/-- A whole condition. -/
abbrev condition : Phrase := .joined .disjunction

end Phrase

/-- The phrases that the operators of a level join: those of the next tighter level. -/
def Level.part : Level → Phrase
  | .disjunction => .joined .conjunction
  | .conjunction => .joined .equality
  | .equality => .joined .comparison
  | .comparison => .operand

/-- The words that stand for constants. -/
def constants : List (List Char × Literal) :=
  [("true".toList, .truth true), ("false".toList, .truth false), ("null".toList, .null)]

/-- The number that decimal digits stand for: each digit times the power of ten of its place. -/
def placeValue : List Char → Nat
  | [] => 0
  | digit :: digits => Text.digitValue digit * 10 ^ digits.length + placeValue digits

/-- The constant that a number stands for. -/
def numeral (whole : List Char) : Option (List Char) → Literal
  | none => .whole (placeValue whole)
  | some fraction =>
      .decimal (placeValue whole * 10 ^ fraction.length + placeValue fraction) fraction.length

/-- The ways to derive a phrase. -/
inductive Derivation : Phrase → Type
  /-- A number. -/
  | number (whole : List Char) (fraction : Option (List Char)) : Derivation .operand
  /-- A quoted text. -/
  | text (content : List Char) : Derivation .operand
  /-- A word that is a constant as a whole. -/
  | constant (name : List Char) (value : Literal) (listed : (name, value) ∈ constants) :
      Derivation .operand
  /-- Segments with points between them, none of them empty, that are no constant together. -/
  | path (segments : List (List Char)) (segments_ne : segments ≠ [])
      (proper : ∀ segment ∈ segments, segment ≠ [] ∧ '.' ∉ segment)
      (free : ∀ value, (['.'].intercalate segments, value) ∉ constants) : Derivation .operand
  /-- A unary operator in front of an operand. -/
  | unary (operator : UnaryOperator) (operand : Derivation .operand) : Derivation .operand
  /-- A condition in parentheses. -/
  | enclosed (inner : Derivation .condition) : Derivation .operand
  /-- A single phrase of the next tighter level. -/
  | single {level : Level} (only : Derivation level.part) : Derivation (.joined level)
  /-- Joined phrases, an operator of their level, and one more phrase. -/
  | binary {level : Level} (operator : BinaryOperator) (placed : operator.level = level)
      (left : Derivation (.joined level)) (right : Derivation level.part) :
      Derivation (.joined level)

namespace Derivation

variable {phrase : Phrase}

/-- Lexemes with one more parenthesis or unary operator around each of them. -/
def deeper (entries : List (Lexeme × Nat)) : List (Lexeme × Nat) :=
  entries.map fun entry => (entry.1, entry.2 + 1)

/-- The lexemes from left to right, each with the parentheses and unary operators around it. -/
def yield {phrase : Phrase} : Derivation phrase → List (Lexeme × Nat)
  | number whole fraction => [(.number whole fraction, 0)]
  | text content => [(.text content, 0)]
  | constant name _ _ => [(.word name, 0)]
  | path segments _ _ _ => [(.word (['.'].intercalate segments), 0)]
  | unary operator operand => (.unary operator, 0) :: deeper operand.yield
  | enclosed inner => (.opening, 0) :: deeper inner.yield ++ [(.closing, 0)]
  | single only => only.yield
  | binary operator _ left right => left.yield ++ (.binary operator, 0) :: right.yield

/-- What the derived lexemes mean. -/
def tree {phrase : Phrase} : Derivation phrase → Expression
  | number whole fraction => .literal (numeral whole fraction)
  | text content => .literal (.text (String.ofList content))
  | constant _ value _ => .literal value
  | path segments _ _ _ => .path (segments.map String.ofList)
  | unary operator operand => .unary operator operand.tree
  | enclosed inner => inner.tree
  | single only => only.tree
  | binary operator _ left right => .binary operator left.tree right.tree

/-- How many binary operators are used. -/
def operators {phrase : Phrase} : Derivation phrase → Nat
  | number .. | text _ | constant .. | path .. => 0
  | unary _ operand => operand.operators
  | enclosed inner => inner.operators
  | single only => only.operators
  | binary _ _ left right => left.operators + right.operators + 1

/-- The greatest count of parentheses and unary operators around a lexeme. -/
def nesting {phrase : Phrase} : Derivation phrase → Nat
  | number .. | text _ | constant .. | path .. => 0
  | unary _ operand => operand.nesting + 1
  | enclosed inner => inner.nesting + 1
  | single only => only.nesting
  | binary _ _ left right => max left.nesting right.nesting

/-- The lexemes from left to right. -/
def lexemes (derivation : Derivation phrase) : List Lexeme :=
  derivation.yield.map Prod.fst

@[simp]
theorem lexemes_number (whole : List Char) (fraction : Option (List Char)) :
    (number whole fraction).lexemes = [.number whole fraction] :=
  rfl

@[simp]
theorem lexemes_text (content : List Char) : (text content).lexemes = [.text content] :=
  rfl

@[simp]
theorem lexemes_constant (name : List Char) (value : Literal)
    (listed : (name, value) ∈ constants) : (constant name value listed).lexemes = [.word name] :=
  rfl

@[simp]
theorem lexemes_path (segments : List (List Char)) (segments_ne : segments ≠ [])
    (proper : ∀ segment ∈ segments, segment ≠ [] ∧ '.' ∉ segment)
    (free : ∀ value, (['.'].intercalate segments, value) ∉ constants) :
    (path segments segments_ne proper free).lexemes = [.word (['.'].intercalate segments)] :=
  rfl

theorem map_fst_deeper (entries : List (Lexeme × Nat)) :
    (deeper entries).map Prod.fst = entries.map Prod.fst := by
  rw [deeper, List.map_map]
  rfl

@[simp]
theorem lexemes_unary (operator : UnaryOperator) (operand : Derivation .operand) :
    (unary operator operand).lexemes = .unary operator :: operand.lexemes := by
  rw [lexemes, yield, List.map_cons, map_fst_deeper, lexemes]

@[simp]
theorem lexemes_enclosed (inner : Derivation .condition) :
    (enclosed inner).lexemes = .opening :: inner.lexemes ++ [.closing] := by
  rw [lexemes, yield, List.map_append, List.map_cons, map_fst_deeper, lexemes]
  rfl

@[simp]
theorem lexemes_single {level : Level} (only : Derivation level.part) :
    (single only).lexemes = only.lexemes :=
  rfl

@[simp]
theorem lexemes_binary {level : Level} (operator : BinaryOperator)
    (placed : operator.level = level) (left : Derivation (.joined level))
    (right : Derivation level.part) :
    (binary operator placed left right).lexemes =
      left.lexemes ++ .binary operator :: right.lexemes := by
  rw [lexemes, yield, List.map_append, List.map_cons, lexemes, lexemes]

/-- No phrase is empty. -/
theorem yield_ne_nil (derivation : Derivation phrase) : derivation.yield ≠ [] := by
  induction derivation with
  | single only induction => exact induction
  | _ => simp [yield]

/-- Going one step deeper adds one to the greatest nesting. -/
theorem forall_deeper_le_iff {entries : List (Lexeme × Nat)} (entries_ne : entries ≠ [])
    {nesting : Nat} (greatest : ∀ limit, (∀ entry ∈ entries, entry.2 ≤ limit) ↔ nesting ≤ limit)
    (limit : Nat) : (∀ entry ∈ deeper entries, entry.2 ≤ limit) ↔ nesting + 1 ≤ limit := by
  rw [deeper, List.forall_mem_map]
  cases limit with
  | zero =>
      obtain ⟨entry, member⟩ := List.exists_mem_of_ne_nil entries entries_ne
      constructor
      · intro bounded
        exact absurd (bounded entry member) (Nat.not_succ_le_zero _)
      · intro bounded
        exact absurd bounded (Nat.not_succ_le_zero _)
  | succ limit =>
      simp only [Nat.add_le_add_iff_right]
      exact greatest limit

/-- The nesting of a derivation is the greatest nesting of its lexemes. -/
theorem forall_yield_le_iff (derivation : Derivation phrase) (limit : Nat) :
    (∀ entry ∈ derivation.yield, entry.2 ≤ limit) ↔ derivation.nesting ≤ limit := by
  induction derivation generalizing limit with
  | number | text | constant | path => simp [yield, nesting]
  | unary operator operand induction =>
      rw [yield, List.forall_mem_cons, forall_deeper_le_iff operand.yield_ne_nil induction]
      simp [nesting]
  | enclosed inner induction =>
      rw [yield, List.cons_append, List.forall_mem_cons, List.forall_mem_append,
        forall_deeper_le_iff inner.yield_ne_nil induction]
      simp [nesting]
  | single only induction => exact induction limit
  | binary operator placed left right left_induction right_induction =>
      rw [yield, List.forall_mem_append, List.forall_mem_cons, left_induction, right_induction]
      rw [nesting, Nat.max_le]
      simp

end Derivation

end Appraisal.Condition
