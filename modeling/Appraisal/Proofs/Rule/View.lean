import Appraisal.Proofs.Condition.View
import Appraisal.Proofs.Rule.Context
import Appraisal.Proofs.Rule.Isolation

/-!
# What rules see of their context

Rules read the paths that their conditions name, and nothing else of a context.  In particular they
do not see whether a field at the top is null or not there at all, so that a context may leave its
null fields out.
-/

namespace Appraisal

open Condition (SameView SameRoom SamePlaces)

namespace Firing

variable {stack : Nat} {rules : List Rule} {first second : Datum}

/-- Rules whose conditions are judged alike fire alike. -/
theorem of_eq_of_evaluateWithin_eq (same : ∀ rule ∈ rules, rule.isEnabled = true →
      Condition.evaluateWithin stack rule.condition.val first =
        Condition.evaluateWithin stack rule.condition.val second) :
    Firing.of stack first rules = Firing.of stack second rules := by
  induction rules with
  | nil => rfl
  | cons rule others induction =>
      rw [List.forall_mem_cons] at same
      obtain ⟨rule_same, others_same⟩ := same
      rw [Firing.of, Firing.of, induction others_same]
      split
      · rename_i enabled
        rw [rule_same enabled]
      · rfl

/-- Rules whose conditions see the same fire alike, if the stack makes no difference to them. -/
theorem of_eq_of_sameView (formed : first.WellFormed)
    (same : ∀ rule ∈ rules, ∀ tree, rule.tree? = some tree →
      SameView first second tree ∧ SameRoom stack first second tree) :
    Firing.of stack first rules = Firing.of stack second rules := by
  apply of_eq_of_evaluateWithin_eq
  intro rule member enabled
  have found {tree : Condition.Expression}
      (parsed : Condition.parse rule.condition.val = .ok tree) : rule.tree? = some tree :=
    (rule.tree?_eq_some_iff tree).mpr ⟨enabled, parsed⟩
  exact Condition.evaluateWithin_eq_of_sameValues
    (fun tree parsed => (same rule member tree (found parsed)).1.sameValues formed)
    (fun tree parsed => (same rule member tree (found parsed)).2)

/-- Rules do not see whether a key is there with null or not at all. -/
theorem of_eq_of_sameContent {few many : List (String × Datum)}
    (content : Datum.SameContent few many) (stack : Nat) (rules : List Rule) :
    Firing.of stack (.object few) rules = Firing.of stack (.object many) rules :=
  of_eq_of_evaluateWithin_eq fun rule _ _ =>
    Condition.evaluateWithin_eq_of_sameContent stack rule.condition.val content

/-- Rules fire alike in contexts in which they find the same under every key. -/
theorem of_eq_of_field? {one other : RuleContext}
    (same : ∀ key, other.toDatum.field? key = one.toDatum.field? key) (stack : Nat)
    (rules : List Rule) :
    Firing.of stack other.toDatum rules = Firing.of stack one.toDatum rules :=
  of_eq_of_sameContent (fun key => congrArg (·.getD .null) (same key)) stack rules

end Firing

end Appraisal
