import Appraisal.Proofs.Fallible
import Appraisal.Proofs.Service.Assessment

/-!
# Counted rules

An assessment counts the rules that take part, and the actions that follow from those that are
triggered.  A rule may have any number of actions: the second number is that of the triggered rules
if each of them has one (`counts_of_assess`), and may otherwise be larger than the first.
-/

namespace Appraisal

namespace Rule

/-- A rule takes part and its condition is judged to be true in a context. -/
def isTriggered (stack : Nat) (context : Datum) (rule : Rule) : Bool :=
  rule.isEnabled &&
    (Condition.evaluateWithin stack rule.condition.val context).toOption == some true

theorem isTriggered_iff {stack : Nat} {context : Datum} {rule : Rule} :
    rule.isTriggered stack context = true ↔
      rule.isEnabled = true ∧
        Condition.evaluateWithin stack rule.condition.val context = .ok true := by
  rw [isTriggered, Bool.and_eq_true, beq_iff_eq]
  cases Condition.evaluateWithin stack rule.condition.val context <;> simp [Except.toOption]

end Rule

namespace Firing

variable {stack : Nat} {context : Datum} {rule : Rule} {rules : List Rule}
  {actions : List Action}

theorem actions_cons_of_isTriggered (triggered : rule.isTriggered stack context = true)
    (rules : List Rule) :
    (Firing.of stack context (rule :: rules)).actions =
      (Firing.of stack context rules).actions.map (rule.actions ++ ·) := by
  obtain ⟨enabled, judged⟩ := Rule.isTriggered_iff.mp triggered
  rw [Firing.of, if_pos enabled, judged]

/-- A rule that is not triggered may stop the firing, and otherwise has no effect on the actions. -/
theorem actions_of_cons (quiet : ¬ rule.isTriggered stack context = true)
    (fired : (Firing.of stack context (rule :: rules)).actions = .ok actions) :
    (Firing.of stack context rules).actions = .ok actions := by
  rw [Firing.of] at fired
  by_cases enabled : rule.isEnabled = true
  · rw [if_pos enabled] at fired
    cases judged : Condition.evaluateWithin stack rule.condition.val context with
    | error failure =>
        rw [judged] at fired
        cases failure with
        | fault => exact fired
        | evaluation => contradiction
    | ok truth =>
        rw [judged] at fired
        cases truth with
        | false => exact fired
        | true => exact absurd (Rule.isTriggered_iff.mpr ⟨enabled, judged⟩) quiet
  · rw [if_neg enabled] at fired
    exact fired

/-- The actions of a firing that is not stopped are those of the triggered rules, in order. -/
theorem actions_eq_flatMap_triggered
    (fired : (Firing.of stack context rules).actions = .ok actions) :
    actions = (rules.filter (Rule.isTriggered stack context)).flatMap Rule.actions := by
  induction rules generalizing actions with
  | nil =>
      cases fired
      rfl
  | cons rule others induction =>
      by_cases triggered : rule.isTriggered stack context = true
      · rw [actions_cons_of_isTriggered triggered] at fired
        rw [List.filter_cons_of_pos triggered, List.flatMap_cons]
        obtain ⟨more, rest, rfl⟩ := map_eq_ok_iff.mp fired
        rw [← induction rest]
      · rw [List.filter_cons_of_neg triggered]
        exact induction (actions_of_cons triggered fired)

end Firing

namespace Service

/--
An assessment counts the active rules of its store, and the actions of those among them that are
triggered in its context.  If each triggered rule has one action, this is the number of triggered
rules; and whenever it is, it is at most the number of active ones.
-/
theorem counts_of_assess {occasion : Occasion} {question : Question} {service : Service}
    {assessment : Assessment} (given : (service.assess occasion question).result = .ok assessment) :
    ∃ context rules,
      question.context assessment.classification.category assessment.verdict.outcome = .ok context ∧
      service.rules occasion = .ok rules ∧
      let triggered := (Rule.active rules).filter (Rule.isTriggered occasion.stack context.toDatum)
      assessment.verdict.rulesTotal = (Rule.active rules).length ∧
        assessment.verdict.rulesTriggered = (triggered.flatMap Rule.actions).length ∧
        ((∀ rule ∈ triggered, rule.actions.length = 1) →
          assessment.verdict.rulesTriggered = triggered.length) ∧
        (assessment.verdict.rulesTriggered = triggered.length →
          (assessment.verdict.rulesTriggered : Int) ≤ assessment.verdict.rulesTotal) := by
  obtain ⟨context, rules, actions, grounds⟩ := assess_eq_ok_iff.mp given
  refine ⟨context, rules, grounds.seen, grounds.stored, ?_⟩
  intro triggered
  have total : assessment.verdict.rulesTotal = (Rule.active rules).length := by
    rw [grounds.decided, Verdict.decide]
  have counted : assessment.verdict.rulesTriggered = (triggered.flatMap Rule.actions).length := by
    rw [grounds.decided, Verdict.decide, Firing.actions_eq_flatMap_triggered grounds.fired]
  refine ⟨total, counted, ?_, ?_⟩
  · intro single
    rw [counted, List.length_flatMap, List.map_congr_left single]
    simp
  · intro exact_count
    rw [exact_count, total]
    exact Int.ofNat_le.mpr (List.length_filter_le _ _)

/-- Of three rules one is disabled, and one of the others is triggered. -/
theorem counts_of_three_rules :
    let warn : Rule := ⟨⟨"warn", by decide⟩, ⟨"overall100 >= 70", by decide⟩,
      [.flag ⟨"WARN", by decide⟩ none], none, none, none⟩
    let stop : Rule := ⟨⟨"stop", by decide⟩, ⟨"overall100 < 70", by decide⟩,
      [.gate .overall .fail none], none, none, none⟩
    let draft : Rule := ⟨⟨"draft", by decide⟩, ⟨"true", by decide⟩,
      [.gate .overall .review none], none, none, some false⟩
    let question : Question :=
      ⟨Dimension.all.map fun dimension => (dimension.name, .double 9), .double 0, some .general,
        default, [], [], []⟩
    let service : Service :=
      ⟨default, ⟨.double 0.6, false, ⟨"ml-classifier", 3, by decide, 30000⟩⟩, .initial,
        .memory (.ofRules [warn, stop, draft] 50)⟩
    let occasion : Occasion := ⟨⟨⟨0⟩, 0, none, none⟩, false, 0, .abandoned, 100⟩
    ∃ assessment, (service.assess occasion question).result = .ok assessment ∧
      ∃ context, question.context .general assessment.verdict.outcome = .ok context ∧
        (Rule.active [warn, stop, draft]).filter
            (Rule.isTriggered occasion.stack context.toDatum) = [warn] ∧
        assessment.verdict.rulesTotal = 2 ∧ assessment.verdict.rulesTriggered = 1 := by
  intro warn stop draft question service occasion
  have passed : (service.assess occasion question).result.toOption.any (fun assessment =>
      assessment.classification.category = .general ∧
        (question.context .general assessment.verdict.outcome).toOption.any (fun context =>
          (Rule.active [warn, stop, draft]).filter
            (Rule.isTriggered occasion.stack context.toDatum) = [warn]) = true) = true := by
    decide +kernel
  obtain ⟨assessment, given, passed⟩ := exists_of_any_toOption passed
  obtain ⟨general, passed⟩ := of_decide_eq_true passed
  obtain ⟨context, rules, seen, stored, total, _, single, _⟩ := counts_of_assess given
  obtain rfl : rules = [warn, stop, draft] := Except.ok.inj stored.symm
  rw [general] at seen
  rw [seen] at passed
  have triggered := of_decide_eq_true passed
  rw [triggered] at single
  exact ⟨assessment, given, context, seen, triggered, total, single (by decide)⟩

/-- One triggered rule with two flags counts twice, which is more than there are rules. -/
theorem counts_of_two_flags :
    let both : Rule := ⟨⟨"both", by decide⟩, ⟨"overall100 >= 70", by decide⟩,
      [.flag ⟨"ONE", by decide⟩ none, .flag ⟨"TWO", by decide⟩ none], none, none, none⟩
    let question : Question :=
      ⟨Dimension.all.map fun dimension => (dimension.name, .double 9), .double 0, some .general,
        default, [], [], []⟩
    let service : Service :=
      ⟨default, ⟨.double 0.6, false, ⟨"ml-classifier", 3, by decide, 30000⟩⟩, .initial,
        .memory (.ofRules [both] 50)⟩
    let occasion : Occasion := ⟨⟨⟨0⟩, 0, none, none⟩, false, 0, .abandoned, 100⟩
    ∃ assessment context, (service.assess occasion question).result = .ok assessment ∧
      question.context .general assessment.verdict.outcome = .ok context ∧
      (Rule.active [both]).filter (Rule.isTriggered occasion.stack context.toDatum) = [both] ∧
      assessment.verdict.rulesTotal = 1 ∧ assessment.verdict.rulesTriggered = 2 := by
  intro both question service occasion
  have passed : (service.assess occasion question).result.toOption.any (fun assessment =>
      assessment.verdict.rulesTotal = 1 ∧ assessment.verdict.rulesTriggered = 2 ∧
        (question.context .general assessment.verdict.outcome).toOption.any (fun context =>
          (Rule.active [both]).filter
            (Rule.isTriggered occasion.stack context.toDatum) = [both]) = true) = true := by
    decide +kernel
  obtain ⟨assessment, given, passed⟩ := exists_of_any_toOption passed
  obtain ⟨total, twice, passed⟩ := of_decide_eq_true passed
  obtain ⟨context, seen, triggered⟩ := exists_of_any_toOption passed
  exact ⟨assessment, context, given, seen, of_decide_eq_true triggered, total, twice⟩

end Service

end Appraisal
