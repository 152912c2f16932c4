import Appraisal.Proofs.Condition.Stack
import Appraisal.RuleBook.Store
import Mathlib.Data.List.Basic

/-!
# Active rules and their warnings

Rules that do not take part can be left out before a firing or passed over in it; the firing is the
same (`of_active`).  A firing comes to its end if no evaluation fails for want of a truth value
(`returns_iff`), and it has warned then once about each active rule that is refused, in order
(`entries_of_returns`).

A rule is refused for its text alone, as a text is parsed before anything of the context is seen.
The one other warning is that about an evaluation that used up the stack, so there is none where
every evaluation comes to its end.
-/

namespace Appraisal

namespace Rule

/-- The warning about a rule that is skipped for a fault. -/
def warning (rule : Rule) (fault : Condition.Fault) : Log.Entry :=
  Log.report Log.warning "app.core.rule_engine"
    ("Skipping rule with invalid expression: " ++ fault.message) [("rule_id", .text rule.id.val)]

/-- The warning about a rule for its text; none if this is a condition. -/
def warning? (rule : Rule) : Option Log.Entry :=
  match Condition.parse rule.condition.val with
  | .error fault => some (rule.warning fault)
  | .ok _ => none

/-- The warning about a rule for its text, or for a condition that needs more room on the stack than
there is. -/
def warningWithin? (stack : Nat) (context : Datum) (rule : Rule) : Option Log.Entry :=
  match Condition.parse rule.condition.val with
  | .error fault => some (rule.warning fault)
  | .ok tree =>
      if tree.calls context ≤ stack then none else some (rule.warning .tooDeepToEvaluate)

/-- The evaluation of a rule returns, if it has a condition to evaluate. -/
def Evaluates (stack : Nat) (context : Datum) (rule : Rule) : Prop :=
  ∀ tree, Condition.parse rule.condition.val = .ok tree →
    ∃ truth, Condition.evaluateWithin stack rule.condition.val context = .ok truth

theorem active_cons_of_enabled {rule : Rule} (enabled : rule.isEnabled = true) (rules : List Rule) :
    active (rule :: rules) = rule :: active rules :=
  List.filter_cons_of_pos enabled

theorem active_cons_of_inactive {rule : Rule} (inactive : ¬ rule.isEnabled = true)
    (rules : List Rule) : active (rule :: rules) = active rules :=
  List.filter_cons_of_neg inactive

variable {stack : Nat} {context : Datum} {rule : Rule}

/-- A rule is skipped with the warning that it has coming. -/
theorem warningWithin?_of_refused {fault : Condition.Fault}
    (refused : Condition.evaluateWithin stack rule.condition.val context = .error (.fault fault)) :
    rule.warningWithin? stack context = some (rule.warning fault) := by
  rw [warningWithin?]
  cases parsed : Condition.parse rule.condition.val with
  | error other =>
      rw [Condition.evaluateWithin_of_refused parsed] at refused
      cases refused
      rfl
  | ok tree =>
      dsimp only
      split
      · rename_i fits
        rw [Condition.evaluateWithin_of_fits parsed fits] at refused
        cases held : tree.holds context <;> rw [held] at refused <;> cases refused
      · rename_i deep
        rw [Condition.evaluateWithin_of_not_fits parsed deep] at refused
        cases refused
        rfl

theorem warningWithin?_of_judged {truth : Bool}
    (judged : Condition.evaluateWithin stack rule.condition.val context = .ok truth) :
    rule.warningWithin? stack context = none := by
  rw [warningWithin?]
  cases parsed : Condition.parse rule.condition.val with
  | error fault =>
      rw [Condition.evaluateWithin_of_refused parsed] at judged
      contradiction
  | ok tree =>
      by_cases fits : tree.calls context ≤ stack
      · exact if_pos fits
      · rw [Condition.evaluateWithin_of_not_fits parsed fits] at judged
        contradiction

/-- Where a condition fits on the stack the text alone is warned about. -/
theorem warningWithin?_of_fits
    (fits : ∀ tree, Condition.parse rule.condition.val = .ok tree → tree.calls context ≤ stack) :
    rule.warningWithin? stack context = rule.warning? := by
  rw [warningWithin?, warning?]
  cases parsed : Condition.parse rule.condition.val with
  | error fault => rfl
  | ok tree => exact if_pos (fits tree parsed)

theorem Evaluates.fits (evaluates : rule.Evaluates stack context) (tree : Condition.Expression)
    (parsed : Condition.parse rule.condition.val = .ok tree) : tree.calls context ≤ stack := by
  by_contra deep
  obtain ⟨truth, judged⟩ := evaluates tree parsed
  rw [Condition.evaluateWithin_of_not_fits parsed deep] at judged
  contradiction

end Rule

namespace Firing

variable {stack : Nat} {context : Datum} {rule : Rule} {rules : List Rule}

/-- A firing comes to its end. -/
def Returns (firing : Firing) : Prop :=
  ∃ actions, firing.actions = .ok actions

/-! ## One more rule -/

theorem of_cons_of_inactive (inactive : ¬ rule.isEnabled = true) :
    Firing.of stack context (rule :: rules) = Firing.of stack context rules := by
  rw [Firing.of, if_neg inactive]

theorem of_cons_of_refused (enabled : rule.isEnabled = true) {fault : Condition.Fault}
    (refused : Condition.evaluateWithin stack rule.condition.val context = .error (.fault fault)) :
    Firing.of stack context (rule :: rules) =
      ⟨⟨rule.id, fault⟩ :: (Firing.of stack context rules).skipped,
        (Firing.of stack context rules).actions⟩ := by
  rw [Firing.of, if_pos enabled, refused]

/-- A rule that is judged is not skipped; the firing returns if that of the others does. -/
theorem of_cons_of_judged (enabled : rule.isEnabled = true) {truth : Bool}
    (judged : Condition.evaluateWithin stack rule.condition.val context = .ok truth) :
    (Firing.of stack context (rule :: rules)).skipped = (Firing.of stack context rules).skipped ∧
      ((Firing.of stack context (rule :: rules)).Returns ↔
        (Firing.of stack context rules).Returns) := by
  cases truth with
  | false =>
      rw [Firing.of, if_pos enabled, judged]
      exact ⟨rfl, Iff.rfl⟩
  | true =>
      have fired : Firing.of stack context (rule :: rules) =
          ⟨(Firing.of stack context rules).skipped,
            (Firing.of stack context rules).actions.map (rule.actions ++ ·)⟩ := by
        rw [Firing.of, if_pos enabled, judged]
      rw [fired, Returns, Returns]
      refine ⟨rfl, ?_⟩
      cases (Firing.of stack context rules).actions <;> simp [Except.map]

theorem not_returns_of_failed (enabled : rule.isEnabled = true) {fault : Condition.EvaluationFault}
    (failed :
      Condition.evaluateWithin stack rule.condition.val context = .error (.evaluation fault)) :
    ¬ (Firing.of stack context (rule :: rules)).Returns := by
  rw [Firing.of, if_pos enabled, failed]
  rintro ⟨actions, returned⟩
  contradiction

/-! ## All rules -/

/-- Rules that do not take part have no effect on a firing. -/
theorem of_active (stack : Nat) (context : Datum) (rules : List Rule) :
    Firing.of stack context (Rule.active rules) = Firing.of stack context rules := by
  induction rules with
  | nil => rfl
  | cons rule others induction =>
      by_cases enabled : rule.isEnabled = true
      · rw [Rule.active_cons_of_enabled enabled, Firing.of, Firing.of, induction]
      · rw [Rule.active_cons_of_inactive enabled, of_cons_of_inactive enabled, induction]

/-- A firing returns if no evaluation of an active rule fails. -/
theorem returns_iff :
    (Firing.of stack context rules).Returns ↔
      ∀ rule ∈ Rule.active rules, ∀ fault,
        Condition.evaluateWithin stack rule.condition.val context ≠ .error (.evaluation fault) := by
  induction rules with
  | nil => exact ⟨fun _ rule member => absurd member List.not_mem_nil, fun _ => ⟨[], rfl⟩⟩
  | cons rule others induction =>
      by_cases enabled : rule.isEnabled = true
      · rw [Rule.active_cons_of_enabled enabled, List.forall_mem_cons, ← induction]
        cases judged : Condition.evaluateWithin stack rule.condition.val context with
        | ok truth => simp [(of_cons_of_judged enabled judged).2]
        | error failure =>
            cases failure with
            | fault fault => simp [of_cons_of_refused enabled judged, Returns]
            | evaluation fault => simp [not_returns_of_failed enabled judged]
      · rw [of_cons_of_inactive enabled, Rule.active_cons_of_inactive enabled, induction]

/-- A firing that returns has warned about the active rules that are refused, in order. -/
theorem entries_of_returns (returned : (Firing.of stack context rules).Returns) :
    (Firing.of stack context rules).entries =
      (Rule.active rules).filterMap (Rule.warningWithin? stack context) := by
  induction rules with
  | nil => rfl
  | cons rule others induction =>
      by_cases enabled : rule.isEnabled = true
      · rw [Rule.active_cons_of_enabled enabled, List.filterMap_cons]
        cases judged : Condition.evaluateWithin stack rule.condition.val context with
        | ok truth =>
            obtain ⟨skipped_eq, returns_iff_others⟩ := of_cons_of_judged enabled judged
            rw [Rule.warningWithin?_of_judged judged, ← induction (returns_iff_others.mp returned),
              entries, skipped_eq]
            rfl
        | error failure =>
            cases failure with
            | fault fault =>
                rw [of_cons_of_refused enabled judged] at returned ⊢
                rw [Rule.warningWithin?_of_refused judged, ← induction returned]
                rfl
            | evaluation fault => exact absurd returned (not_returns_of_failed enabled judged)
      · rw [of_cons_of_inactive enabled] at returned ⊢
        rw [Rule.active_cons_of_inactive enabled, induction returned]

/-- Where every condition fits on the stack, only the texts of the rules are warned about. -/
theorem entries_of_fits (returned : (Firing.of stack context rules).Returns)
    (fits : ∀ rule ∈ Rule.active rules, ∀ tree,
      Condition.parse rule.condition.val = .ok tree → tree.calls context ≤ stack) :
    (Firing.of stack context rules).entries = (Rule.active rules).filterMap Rule.warning? := by
  rw [entries_of_returns returned]
  exact List.filterMap_congr fun rule member => Rule.warningWithin?_of_fits (fits rule member)

end Firing

namespace Store

end Store

end Appraisal
