import Appraisal.Condition.Evaluation

/-!
# The nodes and branches of a tree

A branch of a tree leads from its root to one of its leaves.  No branch has more nodes than the tree
is high, and a tree is no higher than its operators allow: those of two operands, counted in the
whole tree, those of one operand, counted along a branch, and a leaf (`height_le`).

Evaluation calls itself for the operands of a node.  With a limit to the calls that are nested it
may come to nothing; it ends as it does without a limit if the tree is no higher than that
(`evalWithin_of_height_le`).
-/

namespace Appraisal.Condition

namespace Expression

/-- Whether a node has no operand. -/
def isLeaf : Expression → Bool
  | .literal _ | .path _ => true
  | _ => false

/-- Whether a node has one operand. -/
def isUnary : Expression → Bool
  | .unary .. => true
  | _ => false

/-- Whether a node has two operands. -/
def isBinary : Expression → Bool
  | .binary .. => true
  | _ => false

/-- The nodes of a tree, each as the tree that it is the root of. -/
def nodes : Expression → List Expression
  | .literal value => [.literal value]
  | .path segments => [.path segments]
  | .unary operator operand => .unary operator operand :: operand.nodes
  | .binary operator left right => .binary operator left right :: (left.nodes ++ right.nodes)

/-- The branches of a tree, each with its nodes from the root to a leaf. -/
def branches : Expression → List (List Expression)
  | .literal value => [[.literal value]]
  | .path segments => [[.path segments]]
  | .unary operator operand => operand.branches.map (.unary operator operand :: ·)
  | .binary operator left right =>
      (left.branches ++ right.branches).map (.binary operator left right :: ·)

theorem countP_isBinary_nodes (tree : Expression) :
    tree.nodes.countP isBinary = tree.binaryCount := by
  induction tree with
  | literal | path => rfl
  | unary operator operand induction =>
      rw [nodes, List.countP_cons_of_neg (by simp [isBinary]), induction, binaryCount]
  | binary operator left right left_induction right_induction =>
      rw [nodes, List.countP_cons_of_pos rfl, List.countP_append, left_induction, right_induction,
        binaryCount]

theorem countP_isUnary_le {tree : Expression} {branch : List Expression}
    (member : branch ∈ tree.branches) : branch.countP isUnary ≤ tree.unaryDepth := by
  induction tree generalizing branch with
  | literal | path =>
      obtain rfl := List.mem_singleton.mp member
      exact Nat.le_refl 0
  | unary operator operand induction =>
      obtain ⟨rest, rest_member, rfl⟩ := List.mem_map.mp member
      rw [List.countP_cons_of_pos rfl, unaryDepth]
      exact Nat.succ_le_succ (induction rest_member)
  | binary operator left right left_induction right_induction =>
      obtain ⟨rest, rest_member, rfl⟩ := List.mem_map.mp member
      rw [List.countP_cons_of_neg (by simp [isUnary]), unaryDepth]
      rcases List.mem_append.mp rest_member with left_member | right_member
      · exact Nat.le_trans (left_induction left_member) (Nat.le_max_left _ _)
      · exact Nat.le_trans (right_induction right_member) (Nat.le_max_right _ _)

theorem length_le_height {tree : Expression} {branch : List Expression}
    (member : branch ∈ tree.branches) : branch.length ≤ tree.height := by
  induction tree generalizing branch with
  | literal | path =>
      obtain rfl := List.mem_singleton.mp member
      exact Nat.le_refl 1
  | unary operator operand induction =>
      obtain ⟨rest, rest_member, rfl⟩ := List.mem_map.mp member
      exact Nat.succ_le_succ (induction rest_member)
  | binary operator left right left_induction right_induction =>
      obtain ⟨rest, rest_member, rfl⟩ := List.mem_map.mp member
      rw [List.length_cons, height, Nat.add_le_add_iff_right]
      rcases List.mem_append.mp rest_member with left_member | right_member
      · exact Nat.le_trans (left_induction left_member) (Nat.le_max_left _ _)
      · exact Nat.le_trans (right_induction right_member) (Nat.le_max_right _ _)

/-- A branch has a leaf, and for the rest operators of one operand or of two. -/
theorem height_le (tree : Expression) :
    tree.height ≤ tree.binaryCount + tree.unaryDepth + 1 := by
  induction tree with
  | literal | path => exact Nat.le_refl 1
  | unary operator operand induction =>
      simp only [height, binaryCount, unaryDepth]
      omega
  | binary operator left right left_induction right_induction =>
      simp only [height, binaryCount, unaryDepth]
      omega

theorem mem_nodes_of_mem_paths {tree : Expression} {segments : List String}
    (member : segments ∈ tree.paths) : .path segments ∈ tree.nodes := by
  induction tree with
  | literal => contradiction
  | path others =>
      obtain rfl := List.mem_singleton.mp member
      exact List.mem_cons_self
  | unary operator operand induction => exact List.mem_cons_of_mem _ (induction member)
  | binary operator left right left_induction right_induction =>
      apply List.mem_cons_of_mem
      rw [List.mem_append]
      exact (List.mem_append.mp member).imp left_induction right_induction

end Expression

/-! ## Nested calls of evaluation -/

/-- A result or a fault, or nothing where calls would be nested deeper than they may. -/
abbrev Attempt (α : Type) : Type := ExceptT EvaluationFault Option α

namespace Attempt

variable {α β : Type}

/-- An attempt that came to its end. -/
def ended (outcome : Except EvaluationFault α) : Attempt α :=
  ExceptT.mk (some outcome)

/-- An attempt that came to nothing. -/
def abandoned : Attempt α :=
  ExceptT.mk none

theorem ended_pure (result : α) : ended (pure result) = pure result :=
  rfl

theorem ended_bind (first : Except EvaluationFault α) (next : α → Except EvaluationFault β) :
    ended (first >>= next) = ended first >>= fun value => ended (next value) := by
  cases first <;> rfl

theorem ended_ite (condition : Prop) [Decidable condition] (first second : Except EvaluationFault α) :
    ended (if condition then first else second) =
      if condition then ended first else ended second := by
  split <;> rfl

end Attempt

namespace Expression

open Attempt

/-- The nodes right below the root. -/
def operands : Expression → List Expression
  | .literal _ | .path _ => []
  | .unary _ operand => [operand]
  | .binary _ left right => [left, right]

/-- A call of evaluation, where `inner` stands for the calls inside it. -/
def evalCall (context : Datum) (inner : Expression → Attempt Datum) : Expression → Attempt Datum
  | .literal value => pure value.value
  | .path segments => ended (resolve context segments)
  | .unary .negation operand => do
      pure (.truth !(← ended (truthy (← inner operand))))
  | .unary .opposite operand => do
      match ← inner operand with
      | .number value => pure (.number value.neg)
      | _ => pure .null
  | .binary .conjunction left right => do
      if ← ended (truthy (← inner left)) then pure (.truth (← ended (truthy (← inner right))))
      else pure (.truth false)
  | .binary .disjunction left right => do
      if ← ended (truthy (← inner left)) then pure (.truth true)
      else pure (.truth (← ended (truthy (← inner right))))
  | .binary .equal left right => do
      let first ← inner left
      let second ← inner right
      pure (.truth (equals (samePlace context left right) first second))
  | .binary .unequal left right => do
      let first ← inner left
      let second ← inner right
      pure (.truth !(equals (samePlace context left right) first second))
  | .binary operator left right => do
      let first ← inner left
      let second ← inner right
      pure (.truth (compares operator first second))

/-- Evaluation with no more than some calls nested in each other. -/
def evalWithin (context : Datum) : (calls : Nat) → Expression → Attempt Datum
  | 0 => fun _ => abandoned
  | calls + 1 => evalCall context (evalWithin context calls)

variable (context : Datum)

/-- The calls inside a call are those for the operands. -/
theorem evalCall_congr {inner other : Expression → Attempt Datum} {tree : Expression}
    (same : ∀ operand ∈ tree.operands, inner operand = other operand) :
    evalCall context inner tree = evalCall context other tree := by
  cases tree with
  | literal | path => rfl
  | unary operator operand =>
      rw [operands, List.forall_mem_singleton] at same
      cases operator <;> simp only [evalCall, same]
  | binary operator left right =>
      rw [operands, List.forall_mem_cons, List.forall_mem_singleton] at same
      cases operator <;> simp only [evalCall, same]

/-- Evaluation is a call of evaluation inside which evaluation is called. -/
theorem evalCall_eval (tree : Expression) :
    evalCall context (fun inner => ended (inner.eval context)) tree =
      ended (tree.eval context) := by
  cases tree with
  | literal | path => rfl
  | unary operator operand =>
      cases operator with
      | negation => simp only [evalCall, Expression.eval, ended_bind, ended_pure]
      | opposite =>
          simp only [evalCall, Expression.eval, ended_bind]
          refine bind_congr fun value => ?_
          cases value <;> rfl
  | binary operator left right =>
      cases operator <;>
        simp only [evalCall, Expression.eval, ended_bind, ended_pure, ended_ite]

/-- Calls nested as deep as a tree is high are enough for its evaluation. -/
theorem evalWithin_of_height_le {tree : Expression} {calls : Nat} (enough : tree.height ≤ calls) :
    tree.evalWithin context calls = ended (tree.eval context) := by
  have height_pos (other : Expression) : 0 < other.height := by
    cases other <;> simp [height]
  -- A call takes one from the limit, and the operands that it calls for are lower than its tree.
  induction calls generalizing tree with
  | zero => exact absurd enough (Nat.not_le.mpr (height_pos tree))
  | succ calls induction =>
      rw [evalWithin, ← evalCall_eval]
      apply evalCall_congr
      intro operand member
      apply induction
      cases tree with
      | literal | path => contradiction
      | unary operator only =>
          obtain rfl := List.mem_singleton.mp member
          exact Nat.le_of_succ_le_succ enough
      | binary operator left right =>
          obtain ⟨left_low, right_low⟩ := Nat.max_le.mp (Nat.le_of_succ_le_succ enough)
          rw [operands, List.mem_cons, List.mem_singleton] at member
          rcases member with rfl | rfl
          · exact left_low
          · exact right_low

end Expression

end Appraisal.Condition
