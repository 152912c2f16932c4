import Appraisal.Proofs.Condition.Lexing
import Appraisal.Rule.Firing

/-!
# Rules beside each other

A rule adds its actions, or nothing, to those of the other rules of a list, wherever it stands and
whatever its condition is.  One thing alone takes this from it and from all the others: the truth
value of a whole number too large for a double, asked for by any rule of the list.  A rule whose
evaluation needs more of the stack than there is adds nothing, and does no harm to the others.
-/

namespace Appraisal

open Condition (truthOf Oversized)

namespace Rule

/-- The condition of a rule that takes part; none if the text is no condition. -/
def tree? (rule : Rule) : Option Condition.Expression :=
  if rule.isEnabled then (Condition.parse rule.condition.val).toOption else none

/-- The condition that a rule is judged by in a context; none if it does not fit on the stack. -/
def judgedTree? (stack : Nat) (context : Datum) (rule : Rule) : Option Condition.Expression :=
  rule.tree?.filter fun tree => tree.calls context ≤ stack

/-- What a rule adds by itself: its actions, if it is judged and its condition means true. -/
def contribution (stack : Nat) (context : Datum) (rule : Rule) : List Action :=
  match rule.judgedTree? stack context with
  | none => []
  | some tree => if truthOf (tree.meaning context) then rule.actions else []

/-- The truth value of an oversized number is asked for when the rule is judged. -/
def Overflows (stack : Nat) (context : Datum) (rule : Rule) : Prop :=
  ∃ tree, rule.judgedTree? stack context = some tree ∧
    ∃ datum ∈ tree.judged context, Oversized datum

end Rule

/-- The condition of a rule is that of an enabled rule whose text is parsed. -/
theorem Rule.tree?_eq_some_iff (rule : Rule) (tree : Condition.Expression) :
    rule.tree? = some tree ↔
      rule.isEnabled = true ∧ Condition.parse rule.condition.val = .ok tree := by
  rw [Rule.tree?]
  by_cases enabled : rule.isEnabled = true
  · rw [if_pos enabled, and_iff_right enabled]
    cases Condition.parse rule.condition.val with
    | error fault => simp [Except.toOption]
    | ok other => simp [Except.toOption]
  · rw [if_neg enabled]
    simp [enabled]

theorem Rule.judgedTree?_eq_some_iff {stack : Nat} {context : Datum} {rule : Rule}
    {tree : Condition.Expression} :
    rule.judgedTree? stack context = some tree ↔
      rule.tree? = some tree ∧ tree.calls context ≤ stack := by
  rw [Rule.judgedTree?, Option.filter_eq_some_iff, decide_eq_true_eq]

theorem Rule.parse_of_judgedTree? {stack : Nat} {context : Datum} {rule : Rule}
    {tree : Condition.Expression} (found : rule.judgedTree? stack context = some tree) :
    Condition.parse rule.condition.val = .ok tree :=
  ((rule.tree?_eq_some_iff tree).mp (Rule.judgedTree?_eq_some_iff.mp found).1).2

/-- A rule that takes part is judged by its condition, if that is parsed and fits on the stack. -/
theorem Rule.judgedTree?_eq_some_of_parse {stack : Nat} {context : Datum} {rule : Rule}
    {tree : Condition.Expression} (enabled : rule.isEnabled = true)
    (parsed : Condition.parse rule.condition.val = .ok tree) (fits : tree.calls context ≤ stack) :
    rule.judgedTree? stack context = some tree :=
  Rule.judgedTree?_eq_some_iff.mpr ⟨(rule.tree?_eq_some_iff tree).mpr ⟨enabled, parsed⟩, fits⟩

namespace Firing

variable {stack : Nat} {context : Datum} {rule : Rule}

/-- A rule that is not judged adds nothing. -/
theorem actions_cons_of_none (missing : rule.judgedTree? stack context = none)
    (rules : List Rule) :
    (Firing.of stack context (rule :: rules)).actions =
      (Firing.of stack context rules).actions := by
  rw [Firing.of]
  split
  · rename_i enabled
    cases parsed : Condition.parse rule.condition.val with
    | error fault => rw [Condition.evaluateWithin_of_refused parsed]
    | ok tree =>
        by_cases fits : tree.calls context ≤ stack
        · have found := Rule.judgedTree?_eq_some_of_parse enabled parsed fits
          rw [missing] at found
          contradiction
        · rw [Condition.evaluateWithin_of_not_fits parsed fits]
  · rfl

/-- A rule that is judged adds its actions if its condition holds. -/
theorem actions_cons_of_some {tree : Condition.Expression}
    (found : rule.judgedTree? stack context = some tree) (rules : List Rule) :
    (Firing.of stack context (rule :: rules)).actions =
      tree.holds context >>= fun truth =>
        if truth then (Firing.of stack context rules).actions.map (rule.actions ++ ·)
        else (Firing.of stack context rules).actions := by
  obtain ⟨found, fits⟩ := Rule.judgedTree?_eq_some_iff.mp found
  obtain ⟨enabled, parsed⟩ := (rule.tree?_eq_some_iff tree).mp found
  rw [Firing.of, if_pos enabled, Condition.evaluateWithin_of_fits parsed fits]
  cases tree.holds context with
  | error fault => rfl
  | ok truth => cases truth <;> rfl

/-- A rule that does not overflow adds its contribution in front of what the others add. -/
theorem actions_cons (quiet : ¬ rule.Overflows stack context) (rules : List Rule) :
    (Firing.of stack context (rule :: rules)).actions =
      (Firing.of stack context rules).actions.map (rule.contribution stack context ++ ·) := by
  have nothing : (Firing.of stack context rules).actions =
      (Firing.of stack context rules).actions.map ([] ++ ·) := by
    cases (Firing.of stack context rules).actions <;> rfl
  cases found : rule.judgedTree? stack context with
  | none =>
      rw [actions_cons_of_none found, Rule.contribution, found]
      exact nothing
  | some tree =>
      have parsed := Rule.parse_of_judgedTree? found
      have small : ∀ datum ∈ tree.judged context, ¬ Oversized datum := by
        intro datum member large
        exact quiet ⟨tree, found, datum, member, large⟩
      rw [actions_cons_of_some found, Rule.contribution, found,
        Condition.holds_eq_ok (Condition.parse_plain parsed) small]
      dsimp only
      cases truthOf (tree.meaning context) with
      | true => rfl
      | false => exact nothing

/-- A rule that overflows stops the firing. -/
theorem actions_cons_of_overflows (overflows : rule.Overflows stack context) (rules : List Rule) :
    (Firing.of stack context (rule :: rules)).actions = .error .tooLarge := by
  obtain ⟨tree, found, large⟩ := overflows
  have parsed := Rule.parse_of_judgedTree? found
  rw [actions_cons_of_some found, Condition.holds_eq_error (Condition.parse_plain parsed) large]
  rfl

/-- Rules of which none overflows add their contributions in order. -/
theorem actions_eq_ok {rules : List Rule} (quiet : ∀ rule ∈ rules, ¬ rule.Overflows stack context) :
    (Firing.of stack context rules).actions =
      .ok (rules.flatMap fun rule => rule.contribution stack context) := by
  induction rules with
  | nil => rfl
  | cons rule others induction =>
      rw [List.forall_mem_cons] at quiet
      obtain ⟨rule_quiet, others_quiet⟩ := quiet
      rw [actions_cons rule_quiet, induction others_quiet, List.flatMap_cons]
      rfl

/-- Rules of which one overflows add nothing at all. -/
theorem actions_eq_error {rules : List Rule} (loud : ∃ rule ∈ rules, rule.Overflows stack context) :
    (Firing.of stack context rules).actions = .error .tooLarge := by
  induction rules with
  | nil =>
      obtain ⟨rule, member, _⟩ := loud
      contradiction
  | cons rule others induction =>
      by_cases overflows : rule.Overflows stack context
      · exact actions_cons_of_overflows overflows others
      · obtain ⟨other, member, other_overflows⟩ := loud
        rcases List.mem_cons.mp member with rfl | member
        · exact absurd other_overflows overflows
        · rw [actions_cons overflows, induction ⟨other, member, other_overflows⟩]
          rfl

/--
A rule among others is isolated: the others fire as they do without it, and it adds its
contribution in its place.
-/
def Isolated (stack : Nat) (context : Datum) (before : List Rule) (rule : Rule)
    (after : List Rule) : Prop :=
  ∃ first last,
    (Firing.of stack context before).actions = .ok first ∧
      (Firing.of stack context after).actions = .ok last ∧
      (Firing.of stack context (before ++ after)).actions = .ok (first ++ last) ∧
      (Firing.of stack context (before ++ rule :: after)).actions =
        .ok (first ++ rule.contribution stack context ++ last)

/--
A rule is isolated in its place of a list exactly if neither it nor another rule of the list
overflows; otherwise the list adds nothing and fails for an oversized number.
-/
theorem isolated_iff (stack : Nat) (context : Datum) (before : List Rule) (rule : Rule)
    (after : List Rule) :
    (Isolated stack context before rule after ↔
        ∀ other ∈ before ++ rule :: after, ¬ other.Overflows stack context) ∧
      ((∃ other ∈ before ++ rule :: after, other.Overflows stack context) →
        (Firing.of stack context (before ++ rule :: after)).actions = .error .tooLarge) := by
  refine ⟨⟨?_, ?_⟩, actions_eq_error⟩
  · rintro ⟨first, last, _, _, _, together⟩ other member overflows
    rw [actions_eq_error ⟨other, member, overflows⟩] at together
    contradiction
  · intro quiet
    rw [List.forall_mem_append, List.forall_mem_cons] at quiet
    obtain ⟨before_quiet, rule_quiet, after_quiet⟩ := quiet
    have without_quiet : ∀ other ∈ before ++ after, ¬ other.Overflows stack context := by
      rw [List.forall_mem_append]
      exact ⟨before_quiet, after_quiet⟩
    have with_quiet : ∀ other ∈ before ++ rule :: after, ¬ other.Overflows stack context := by
      rw [List.forall_mem_append, List.forall_mem_cons]
      exact ⟨before_quiet, rule_quiet, after_quiet⟩
    refine ⟨_, _, actions_eq_ok before_quiet, actions_eq_ok after_quiet, ?_, ?_⟩
    · rw [actions_eq_ok without_quiet, List.flatMap_append]
    · rw [actions_eq_ok with_quiet, List.flatMap_append, List.flatMap_cons, List.append_assoc]

/-- A rule about a number beyond the doubles silences a rule that always holds. -/
theorem not_isolated_of_oversized :
    let huge : Datum := .object [("n", .whole (Int.pow 2 1024))]
    let about : Rule := ⟨⟨"about", by decide⟩, ⟨"n", by decide⟩, [], none, none, none⟩
    let flag : Action := .flag ⟨"SURE", by decide⟩ none
    let sure : Rule := ⟨⟨"sure", by decide⟩, ⟨"true", by decide⟩, [flag], none, none, none⟩
    (Firing.of 100 huge [sure]).actions = .ok [flag] ∧
      (Firing.of 100 huge [about, sure]).actions = .error .tooLarge ∧
      ¬ Isolated 100 huge [] about [sure] := by
  intro huge about flag sure
  have sure_fires : (Firing.of 100 huge [sure]).actions = .ok [flag] := by
    have enabled : sure.isEnabled = true := rfl
    have lexed : Condition.lexeme? ['t', 'r', 'u', 'e'] =
        some (.word ['t', 'r', 'u', 'e'], []) := rfl
    have parsed : Condition.parse "true" = .ok (.literal (.truth true)) := by
      rw [Condition.parse_of_lexeme rfl rfl (by decide) lexed]
      rfl
    have found : sure.judgedTree? 100 huge = some (.literal (.truth true)) :=
      Rule.judgedTree?_eq_some_of_parse enabled parsed (by decide)
    rw [actions_cons_of_some found]
    rfl
  have about_overflows : about.Overflows 100 huge := by
    have enabled : about.isEnabled = true := rfl
    have lexed : Condition.lexeme? ['n'] = some (.word ['n'], []) := rfl
    have parsed : Condition.parse "n" = .ok (.path ["n"]) := by
      rw [Condition.parse_of_lexeme rfl rfl (by decide) lexed]
      rfl
    have found : about.judgedTree? 100 huge = some (.path ["n"]) :=
      Rule.judgedTree?_eq_some_of_parse enabled parsed (by decide)
    refine ⟨.path ["n"], found, .whole (Int.pow 2 1024), ?_, ?_⟩
    · rw [Condition.Expression.judged, List.mem_append, List.mem_singleton]
      exact .inr rfl
    · rw [Condition.oversized_whole_iff]
      decide +kernel
  have both_fail := actions_cons_of_overflows about_overflows [sure]
  refine ⟨sure_fires, both_fail, ?_⟩
  rintro ⟨first, last, _, _, _, together⟩
  rw [List.nil_append, both_fail] at together
  contradiction

end Firing

end Appraisal
