import Appraisal.Proofs.Condition.Shape
import Appraisal.Proofs.Condition.View

/-!
# Room on the stack

The calls of an evaluation that stand on each other are those for the operators along a branch of
the tree and, on top of them, the comparisons down a value of the context.  So there are no more of
them than the tree is high and the context is deep (`calls_le`), and a parsed text needs room for no
more than 193 calls beside the depth of its context (`calls_le_of_parse`).
-/

namespace Appraisal

namespace Datum

mutual

/-- How many data stand in each other at most, from the datum itself down. -/
def depth : Datum → Nat
  | .list items => itemsDepth items + 1
  | .object fields => fieldsDepth fields + 1
  | _ => 1

/-- `depth` of the deepest item. -/
def itemsDepth : List Datum → Nat
  | [] => 0
  | item :: items => max (depth item) (itemsDepth items)

/-- `depth` of the deepest value of a field. -/
def fieldsDepth : List (String × Datum) → Nat
  | [] => 0
  | (_, value) :: fields => max (depth value) (fieldsDepth fields)

end

theorem depth_pos (datum : Datum) : 0 < datum.depth := by
  cases datum <;> simp [depth]

theorem depth_of_not_isContainer {datum : Datum} (scalar : datum.isContainer = false) :
    datum.depth = 1 := by
  cases datum <;> first | rfl | contradiction

theorem depth_le_of_mem {items : List Datum} {item : Datum} (member : item ∈ items) :
    item.depth ≤ itemsDepth items := by
  induction items with
  | nil => contradiction
  | cons first others induction =>
      rw [itemsDepth]
      rcases List.mem_cons.mp member with rfl | member
      · exact Nat.le_max_left _ _
      · exact Nat.le_trans (induction member) (Nat.le_max_right _ _)

theorem depth_le_of_lookup {key : String} {fields : List (String × Datum)} {value : Datum}
    (found : lookup key fields = some value) : value.depth ≤ fieldsDepth fields := by
  induction fields with
  | nil => contradiction
  | cons first others induction =>
      obtain ⟨name, content⟩ := first
      rw [lookup] at found
      rw [fieldsDepth]
      split at found
      · cases found
        exact Nat.le_max_left _ _
      · exact Nat.le_trans (induction found) (Nat.le_max_right _ _)

mutual

/-- A comparison goes no deeper than its left side. -/
theorem descent_le_depth : ∀ left right : Datum, left.descent right ≤ left.depth
  | .list left, .list right => by
      have deepest := itemsDescent_le left right
      rw [descent, depth]
      split <;> omega
  | .object left, .object right => by
      have deepest := fieldsDescent_le left right
      rw [descent, depth]
      split <;> omega
  | .list _, .null | .list _, .truth _ | .list _, .number _ | .list _, .text _
  | .list _, .object _ | .object _, .null | .object _, .truth _ | .object _, .number _
  | .object _, .text _ | .object _, .list _ | .null, _ | .truth _, _ | .number _, _
  | .text _, _ => by
      rw [descent]
      · exact depth_pos _
      all_goals simp

theorem itemsDescent_le : ∀ left right : List Datum, itemsDescent left right ≤ itemsDepth left
  | left :: lefts, right :: rights => by
      have first := descent_le_depth left right
      have others := itemsDescent_le lefts rights
      rw [itemsDescent, itemsDepth]
      split <;> omega
  | [], _ | _ :: _, [] => by simp [itemsDescent]

theorem fieldsDescent_le :
    ∀ left right : List (String × Datum), fieldsDescent left right ≤ fieldsDepth left
  | [], _ => by simp [fieldsDescent]
  | (key, value) :: fields, right => by
      have others := fieldsDescent_le fields right
      rw [fieldsDescent, fieldsDepth]
      cases lookup key right with
      | none => exact Nat.zero_le _
      | some other =>
          have first := descent_le_depth value other
          dsimp only
          split <;> omega

end

end Datum

namespace Condition

theorem comparisons_le (shared : Bool) (first second : Datum) (operator : BinaryOperator) :
    comparisons shared first second operator ≤ first.depth := by
  have deepest := first.descent_le_depth second
  have positive := first.depth_pos
  cases operator with
  | equal | unequal =>
      rw [comparisons]
      split
      · exact Nat.zero_le _
      · split
        · exact positive
        · exact deepest
  | _ => exact Nat.zero_le _

theorem depth_find_le (context : Datum) (path : List String) :
    (find context path).depth ≤ context.depth := by
  refine find_induction (fun datum => datum.depth ≤ context.depth) context.depth_pos ?_ ?_
    (Nat.le_refl _) path
  · intro fields key value shallow found
    rw [Datum.depth] at shallow
    exact Nat.le_trans (Datum.depth_le_of_lookup found) (Nat.le_of_succ_le shallow)
  · intro items index value shallow found
    rw [Datum.depth] at shallow
    exact Nat.le_trans (Datum.depth_le_of_mem (List.mem_of_getElem? found))
      (Nat.le_of_succ_le shallow)

/-- Operators make no lists and no objects. -/
theorem isContainer_of_eval {context value : Datum} {tree : Expression}
    (operators : tree.isLeaf = false) (evaluated : tree.eval context = .ok value) :
    value.isContainer = false := by
  cases tree with
  | literal | path => contradiction
  | unary operator operand =>
      cases operator with
      | negation =>
          rw [eval_negation, map_eq_ok_iff] at evaluated
          obtain ⟨truth, _, rfl⟩ := evaluated
          rfl
      | opposite =>
          rw [Expression.eval, bind_eq_ok_iff] at evaluated
          obtain ⟨inner, _, opposite⟩ := evaluated
          cases inner <;> cases opposite <;> rfl
  | binary operator left right =>
      cases junction : settling? operator with
      | some settling =>
          rw [eval_junction context left right junction, bind_eq_ok_iff] at evaluated
          obtain ⟨truth, _, rest⟩ := evaluated
          split at rest
          · cases rest
            rfl
          · obtain ⟨other, _, rfl⟩ := map_eq_ok_iff.mp rest
            rfl
      | none =>
          rw [eval_strict context left right junction, bind_eq_ok_iff] at evaluated
          obtain ⟨first, _, rest⟩ := evaluated
          rw [bind_eq_ok_iff] at rest
          obtain ⟨second, _, joined⟩ := rest
          cases joined
          rfl

/-- A value is no deeper than the context. -/
theorem depth_le_of_eval {context value : Datum} {tree : Expression}
    (evaluated : tree.eval context = .ok value) : value.depth ≤ context.depth := by
  cases operators : tree.isLeaf with
  | false =>
      rw [Datum.depth_of_not_isContainer (isContainer_of_eval operators evaluated)]
      exact context.depth_pos
  | true =>
      cases tree with
      | literal constant =>
          cases evaluated
          cases constant <;> exact context.depth_pos
      | path segments =>
          rw [← find_eq_of_eval evaluated]
          exact depth_find_le context segments
      | _ => contradiction

/-- No more calls stand on each other than the tree is high and the context is deep. -/
theorem calls_le (context : Datum) (tree : Expression) :
    tree.calls context ≤ tree.height + context.depth := by
  induction tree with
  | literal | path => exact Nat.le_add_right 1 _
  | unary operator operand induction =>
      rw [Expression.calls, Expression.height]
      omega
  | binary operator left right left_induction right_induction =>
      rw [Expression.calls, Expression.height]
      cases left_eq : left.eval context with
      | error fault =>
          dsimp only
          omega
      | ok first =>
          have shallow := depth_le_of_eval left_eq
          cases right.eval context with
          | error fault =>
              dsimp only
              split <;> omega
          | ok second =>
              have few := comparisons_le (samePlace context left right) first second operator
              dsimp only
              split <;> omega

/-- A parsed text needs room for 193 calls beside the depth of its context at most. -/
theorem calls_le_of_parse {text : String} {tree : Expression} (parsed : parse text = .ok tree)
    (context : Datum) : tree.calls context ≤ context.depth + 193 := by
  have low := height_le_of_parse parsed
  have few := calls_le context tree
  omega

end Condition

end Appraisal
