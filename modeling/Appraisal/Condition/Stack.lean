import Appraisal.Condition.Evaluation

/-!
# Evaluation on a stack

The calls that an evaluation makes stand on each other: the call for an operand on that for its
operator, and the comparison of two items on that of their lists.  A stack has room for so many
calls.  A condition that needs more of them in a context is refused there, as an unsafe one is,
though its text is parsed; a condition that fits is judged as if the stack had no end.

Other calls are left out, as no two of them stand on each other, and nothing is shared between two
places of a context.
-/

namespace Appraisal

namespace Datum

mutual

/-- How many comparisons stand on each other while two values are compared by content.  Lists and
objects of different size differ at once, and nothing is compared after the first two items that
differ. -/
def descent : Datum → Datum → Nat
  | .list left, .list right =>
      (if left.length = right.length then itemsDescent left right else 0) + 1
  | .object left, .object right =>
      (if left.length = right.length then fieldsDescent left right else 0) + 1
  | _, _ => 1

/-- `descent` for the items of two lists. -/
def itemsDescent : List Datum → List Datum → Nat
  | left :: lefts, right :: rights =>
      max (descent left right) (if left.alike right then itemsDescent lefts rights else 0)
  | _, _ => 0

/-- `descent` for the fields of two objects. -/
def fieldsDescent : List (String × Datum) → List (String × Datum) → Nat
  | [], _ => 0
  | (key, value) :: fields, right =>
      match lookup key right with
      | some other =>
          max (descent value other) (if value.alike other then fieldsDescent fields right else 0)
      | none => 0

end

end Datum

namespace Condition

/-- Whether the right operand is evaluated after the left one has come to a value. -/
def proceeds (first : Datum) : BinaryOperator → Bool
  | .conjunction => (truthy first).toOption == some true
  | .disjunction => (truthy first).toOption == some false
  | _ => true

/-- How many comparisons stand on each other when an operator is applied to two values; `shared` as
in `equals`. -/
def comparisons (shared : Bool) (first second : Datum) : BinaryOperator → Nat
  | .equal | .unequal =>
      if isTruth first != isTruth second then 0
      else if shared && first.isContainer then 1
      else first.descent second
  | _ => 0

/-- How many calls stand on each other while an expression is evaluated in a context. -/
def Expression.calls (context : Datum) : Expression → Nat
  | .literal _ | .path _ => 1
  | .unary _ operand => operand.calls context + 1
  | .binary operator left right =>
      max (left.calls context)
        (match left.eval context with
        | .error _ => 0
        | .ok first =>
            if proceeds first operator then
              max (right.calls context)
                (match right.eval context with
                | .error _ => 0
                | .ok second => comparisons (samePlace context left right) first second operator)
            else 0) + 1

/-- Parse a text and judge it in a context, on a stack with room for so many calls. -/
def evaluateWithin (stack : Nat) (text : String) (context : Datum) : Except Failure Bool :=
  match parse text with
  | .error fault => .error (.fault fault)
  | .ok tree =>
      if tree.calls context ≤ stack then evaluate text context
      else .error (.fault .tooDeepToEvaluate)

variable {stack : Nat} {context : Datum} {text : String} {tree : Expression}

theorem evaluateWithin_of_refused {fault : Fault} (refused : parse text = .error fault) :
    evaluateWithin stack text context = .error (.fault fault) := by
  rw [evaluateWithin, refused]

theorem evaluateWithin_of_fits (parsed : parse text = .ok tree)
    (fits : tree.calls context ≤ stack) :
    evaluateWithin stack text context = (tree.holds context).mapError .evaluation := by
  rw [evaluateWithin, evaluate, parsed]
  exact if_pos fits

theorem evaluateWithin_of_not_fits (parsed : parse text = .ok tree)
    (deep : ¬ tree.calls context ≤ stack) :
    evaluateWithin stack text context = .error (.fault .tooDeepToEvaluate) := by
  rw [evaluateWithin, parsed]
  exact if_neg deep

end Condition

end Appraisal
