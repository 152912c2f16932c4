import Appraisal.Condition.Stack
import Appraisal.Proofs.Condition.Branches
import Mathlib.Order.MinMax

/-!
# Evaluation call by call

Evaluation and comparison on a stack, one call inside another: every call takes one from the room
that is left, and nothing comes of a call for which there is none.  They come to their end exactly if
there is room for as many calls as are counted to stand on each other, and have the result then that
they have without a stack (`alikeWithin_eq`, `evalOn_eq`).  So a condition is refused for want of
room exactly if its evaluation uses up the stack, at whatever call this is
(`evaluateWithin_of_parse`).
-/

namespace Appraisal

namespace Datum

/-! ## Comparison -/

/-- Compare the items of two lists in order, up to the first two that differ. -/
def allCall (compare : Datum → Datum → Option Bool) : List Datum → List Datum → Option Bool
  | left :: lefts, right :: rights => do
      if ← compare left right then allCall compare lefts rights else some false
  | [], [] => some true
  | _, _ => some false

/-- Compare the fields of two objects in order, up to the first that is missing or differs. -/
def fieldsCall (compare : Datum → Datum → Option Bool) :
    List (String × Datum) → List (String × Datum) → Option Bool
  | [], _ => some true
  | (key, value) :: fields, right =>
      match lookup key right with
      | some other => do
          if ← compare value other then fieldsCall compare fields right else some false
      | none => some false

/-- A call of comparison, where `compare` stands for the calls inside it. -/
def alikeCall (compare : Datum → Datum → Option Bool) : Datum → Datum → Option Bool
  | .list left, .list right =>
      if left.length = right.length then allCall compare left right else some false
  | .object left, .object right =>
      if left.length = right.length then fieldsCall compare left right else some false
  | left, right => some (left.alike right)

/-- Comparison on a stack with room for so many calls; nothing where it is used up. -/
def alikeWithin : (room : Nat) → Datum → Datum → Option Bool
  | 0 => fun _ _ => none
  | room + 1 => alikeCall (alikeWithin room)

theorem descent_pos (left right : Datum) : 0 < left.descent right := by
  unfold descent
  split <;> omega

theorem not_allAlike_of_length_ne {left right : List Datum} (differ : left.length ≠ right.length) :
    allAlike left right = false := by
  induction left generalizing right with
  | nil =>
      cases right with
      | nil => contradiction
      | cons => rfl
  | cons first others induction =>
      cases right with
      | nil => rfl
      | cons other rest =>
          rw [allAlike, induction (by simpa using differ), Bool.and_false]

section Call

variable {room : Nat} {compare : Datum → Datum → Option Bool}
  (compare_eq : ∀ left right, compare left right =
    if left.descent right ≤ room then some (left.alike right) else none)

include compare_eq

theorem allCall_eq (left right : List Datum) :
    allCall compare left right =
      if itemsDescent left right ≤ room then some (allAlike left right) else none := by
  induction left generalizing right with
  | nil => cases right <;> simp [allCall, itemsDescent, allAlike]
  | cons first others induction =>
      cases right with
      | nil => simp [allCall, itemsDescent, allAlike]
      | cons other rest =>
          rw [allCall, itemsDescent, allAlike, compare_eq]
          by_cases fits : first.descent other ≤ room
          · cases first.alike other <;> simp [fits, induction]
          · simp [fits]

theorem fieldsCall_eq (left right : List (String × Datum)) :
    fieldsCall compare left right =
      if fieldsDescent left right ≤ room then some (fieldsAlike left right) else none := by
  induction left with
  | nil => simp [fieldsCall, fieldsDescent, fieldsAlike]
  | cons entry fields induction =>
      obtain ⟨key, value⟩ := entry
      rw [fieldsCall, fieldsDescent, fieldsAlike]
      cases lookup key right with
      | none => simp
      | some other =>
          dsimp only
          rw [compare_eq]
          by_cases fits : value.descent other ≤ room
          · by_cases alike : value.alike other <;> simp [fits, alike, induction]
          · simp [fits]

theorem alikeCall_eq (left right : Datum) :
    alikeCall compare left right =
      if left.descent right ≤ room + 1 then some (left.alike right) else none := by
  unfold alikeCall
  split
  · rename_i left right
    rw [descent, alike]
    split
    · simp [allCall_eq compare_eq]
    · rename_i differ
      simp [not_allAlike_of_length_ne differ]
  · rename_i left right
    rw [descent, alike]
    split
    · rename_i same
      simp [fieldsCall_eq compare_eq, same]
    · rename_i differ
      simp [differ]
  · rw [descent, if_pos (Nat.le_add_left 1 room)] <;> assumption

end Call

/-- Comparison on a stack comes to its end if there is room for its descent, and says then what
comparison says. -/
theorem alikeWithin_eq (room : Nat) (left right : Datum) :
    left.alikeWithin room right =
      if left.descent right ≤ room then some (left.alike right) else none := by
  induction room generalizing left right with
  | zero => rw [alikeWithin, if_neg (Nat.not_le.mpr (descent_pos left right))]
  | succ room induction => exact alikeCall_eq induction left right

end Datum

namespace Condition

open Attempt

/-! ## Evaluation -/

/-- Equality on a stack with room for so many calls. -/
def equalsWithin (room : Nat) (shared : Bool) (left right : Datum) : Option Bool :=
  if isTruth left != isTruth right then some false
  else if shared && left.isContainer then (if room = 0 then none else some true)
  else left.alikeWithin room right

theorem equalsWithin_eq (room : Nat) (shared : Bool) (left right : Datum) :
    equalsWithin room shared left right =
      if comparisons shared left right .equal ≤ room then some (equals shared left right)
      else none := by
  rw [equalsWithin, comparisons, equals]
  split
  · simp
  · split
    · rename_i one
      cases room <;> simp [one]
    · rename_i two
      rw [Datum.alikeWithin_eq]
      simp [two]

namespace Attempt

variable {α β : Type} {room : Nat}

/-- An attempt that comes to its end if there is room for the calls that it makes. -/
def cut (room calls : Nat) (outcome : Except EvaluationFault α) : Attempt α :=
  if calls ≤ room then ended outcome else abandoned

theorem cut_zero (outcome : Except EvaluationFault α) : cut room 0 outcome = ended outcome :=
  if_pos (Nat.zero_le room)

theorem cut_succ (calls : Nat) (outcome : Except EvaluationFault α) :
    cut (room + 1) (calls + 1) outcome = cut room calls outcome := by
  simp only [cut, Nat.add_le_add_iff_right]

/-- One attempt after another needs room for the calls of the one and, if it has a result, for those
of the other. -/
theorem cut_bind (calls : Nat) (first : Except EvaluationFault α) (further : α → Nat)
    (next : α → Except EvaluationFault β) :
    (cut room calls first >>= fun value => cut room (further value) (next value)) =
      cut room
        (max calls (match first with
          | .error _ => 0
          | .ok value => further value))
        (first >>= next) := by
  by_cases fits : calls ≤ room
  · cases first with
    | error fault =>
        rw [cut, cut, if_pos fits, if_pos (Nat.max_le.mpr ⟨fits, Nat.zero_le _⟩)]
        rfl
    | ok value =>
        simp only [cut, Nat.max_le, fits, true_and]
        rfl
  · rw [cut, cut, if_neg fits, if_neg fun both => fits (Nat.max_le.mp both).1]
    rfl

end Attempt

namespace Expression

/-- A call of evaluation as in `evalCall`, with room for so many calls to compare values. -/
def evalCallWithin (context : Datum) (room : Nat) (inner : Expression → Attempt Datum) :
    Expression → Attempt Datum
  | .binary .equal left right => do
      let first ← inner left
      let second ← inner right
      let truth ← ExceptT.lift (equalsWithin room (samePlace context left right) first second)
      pure (.truth truth)
  | .binary .unequal left right => do
      let first ← inner left
      let second ← inner right
      let truth ← ExceptT.lift (equalsWithin room (samePlace context left right) first second)
      pure (.truth !truth)
  | tree => evalCall context inner tree

/-- Evaluation on a stack with room for so many calls. -/
def evalOn (context : Datum) : (room : Nat) → Expression → Attempt Datum
  | 0 => fun _ => abandoned
  | room + 1 => evalCallWithin context room (evalOn context room)

theorem lift_equalsWithin (room : Nat) (shared : Bool) (first second : Datum) :
    ExceptT.lift (equalsWithin room shared first second) =
      cut room (comparisons shared first second .equal) (.ok (equals shared first second)) := by
  rw [equalsWithin_eq, cut]
  split <;> rfl

section Call

variable {context : Datum} {room : Nat} {operator : BinaryOperator} {left right : Expression}

/-- The calls that an operator makes after its left operand has come to a value. -/
def callsAfter (context : Datum) (operator : BinaryOperator) (left right : Expression)
    (first : Datum) : Nat :=
  if proceeds first operator then
    max (right.calls context)
      (match right.eval context with
      | .error _ => 0
      | .ok second => comparisons (samePlace context left right) first second operator)
  else 0

/-- A call for an operator is a call for its left operand and what comes after this. -/
theorem cut_binary {attempt : Datum → Attempt Datum}
    {outcome : Datum → Except EvaluationFault Datum}
    (eval_eq : (binary operator left right).eval context = left.eval context >>= outcome)
    (rest : ∀ first,
      attempt first = cut room (callsAfter context operator left right first) (outcome first)) :
    cut room (left.calls context) (left.eval context) >>= attempt =
      cut (room + 1) ((binary operator left right).calls context)
        ((binary operator left right).eval context) := by
  rw [funext rest, cut_bind, eval_eq, calls, cut_succ]
  cases left.eval context <;> rfl

/-- After the left operand comes a call for the right one and what comes after this. -/
theorem cut_strict {first : Datum} (strict : proceeds first operator = true)
    {attempt : Datum → Attempt Datum} {outcome : Datum → Except EvaluationFault Datum}
    (rest : ∀ second, attempt second =
      cut room (comparisons (samePlace context left right) first second operator)
        (outcome second)) :
    cut room (right.calls context) (right.eval context) >>= attempt =
      cut room (callsAfter context operator left right first) (right.eval context >>= outcome) := by
  rw [funext rest, cut_bind, callsAfter, if_pos strict]
  cases right.eval context <;> rfl

/-- Where the left operand settles the value, nothing more is called. -/
theorem cut_stopped {first : Datum} (stopped : proceeds first operator = false)
    (outcome : Except EvaluationFault Datum) :
    ended outcome = cut room (callsAfter context operator left right first) outcome := by
  rw [callsAfter, if_neg (by simp [stopped]), cut_zero]

/-- The right operand of a junction is judged after it. -/
theorem cut_judged {first : Datum} (strict : proceeds first operator = true)
    (blind : ∀ shared second, comparisons shared first second operator = 0) :
    (do
      let second ← cut room (right.calls context) (right.eval context)
      pure (Datum.truth (← ended (truthy second)))) =
      cut room (callsAfter context operator left right first)
        (do pure (Datum.truth (← truthy (← right.eval context)))) := by
  apply cut_strict strict
  intro second
  rw [blind, cut_zero, ended_bind]
  rfl

/-- A call stands on no more calls than those inside it stand on. -/
theorem evalCallWithin_eq {inner : Expression → Attempt Datum}
    (inner_eq : ∀ operand, inner operand = cut room (operand.calls context) (operand.eval context))
    (tree : Expression) :
    evalCallWithin context room inner tree =
      cut (room + 1) (tree.calls context) (tree.eval context) := by
  cases tree with
  | literal value => exact (if_pos (Nat.le_add_left 1 room)).symm
  | path segments => exact (if_pos (Nat.le_add_left 1 room)).symm
  | unary operator operand =>
      rw [calls, cut_succ]
      by_cases fits : operand.calls context ≤ room
      · have inner_ended : inner operand = ended (operand.eval context) :=
          (inner_eq operand).trans (if_pos fits)
        rw [cut, if_pos fits, ← evalCall_eval]
        exact evalCall_congr context (by simp [operands, inner_ended])
      · have inner_abandoned : inner operand = abandoned := (inner_eq operand).trans (if_neg fits)
        rw [cut, if_neg fits]
        cases operator <;> simp only [evalCallWithin, evalCall, inner_abandoned] <;> rfl
  | binary operator left right =>
      cases operator with
      | conjunction =>
          simp only [evalCallWithin, evalCall, inner_eq]
          apply cut_binary rfl
          intro first
          cases judged : truthy first with
          | error fault => exact cut_stopped (by simp [proceeds, judged, Except.toOption]) _
          | ok truth =>
              cases truth with
              | false => exact cut_stopped (by simp [proceeds, judged, Except.toOption]) _
              | true =>
                  exact cut_judged (by simp [proceeds, judged, Except.toOption]) fun _ _ => rfl
      | disjunction =>
          simp only [evalCallWithin, evalCall, inner_eq]
          apply cut_binary rfl
          intro first
          cases judged : truthy first with
          | error fault => exact cut_stopped (by simp [proceeds, judged, Except.toOption]) _
          | ok truth =>
              cases truth with
              | true => exact cut_stopped (by simp [proceeds, judged, Except.toOption]) _
              | false =>
                  exact cut_judged (by simp [proceeds, judged, Except.toOption]) fun _ _ => rfl
      | equal | unequal =>
          simp only [evalCallWithin, inner_eq, lift_equalsWithin]
          apply cut_binary rfl
          intro first
          apply cut_strict rfl
          intro second
          by_cases fits : comparisons (samePlace context left right) first second .equal ≤ room
          · rw [cut, if_pos fits]
            exact (if_pos fits).symm
          · rw [cut, if_neg fits]
            exact (if_neg fits).symm
      | _ =>
          simp only [evalCallWithin, evalCall, inner_eq]
          apply cut_binary rfl
          intro first
          apply cut_strict rfl
          intro second
          exact (cut_zero _).symm

end Call

/-- Evaluation on a stack comes to its end if there is room for the calls that stand on each other,
and has its value then, or its fault. -/
theorem evalOn_eq (context : Datum) (room : Nat) (tree : Expression) :
    tree.evalOn context room = cut room (tree.calls context) (tree.eval context) := by
  induction room generalizing tree with
  | zero =>
      have positive : 0 < tree.calls context := by cases tree <;> simp [calls]
      exact (if_neg (Nat.not_le.mpr positive)).symm
  | succ room induction => exact evalCallWithin_eq induction tree

end Expression

/-- A parsed text is judged as far as the evaluation of its tree comes on the stack. -/
theorem evaluateWithin_of_parse {text : String} {tree : Expression} (parsed : parse text = .ok tree)
    (stack : Nat) (context : Datum) :
    evaluateWithin stack text context =
      match (tree.evalOn context stack).run with
      | some outcome => (outcome >>= truthy).mapError .evaluation
      | none => .error (.fault .tooDeepToEvaluate) := by
  rw [Expression.evalOn_eq]
  by_cases fits : tree.calls context ≤ stack
  · rw [evaluateWithin_of_fits parsed fits, Attempt.cut, if_pos fits]
    rfl
  · rw [evaluateWithin_of_not_fits parsed fits, Attempt.cut, if_neg fits]
    rfl

end Condition

end Appraisal
