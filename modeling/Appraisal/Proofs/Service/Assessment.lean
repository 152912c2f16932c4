import Appraisal.Proofs.Rule.Isolation
import Appraisal.Proofs.Verdict.Worsening
import Appraisal.Service.Assessment
import Mathlib.Data.List.Flatten

/-!
# Assessments with further rules

The rules come last in an assessment: classification, score and context are settled without them.
Each rule adds its actions or nothing, so further rules add further actions, and the verdict stays
as it is or becomes worse.
-/

namespace Appraisal

section Grounds

variable {occasion : Occasion} {question : Question} {service : Service}

/-- What an assessment rests on: the context of its idea, the stored rules, and the actions that the
active ones give. -/
structure Grounds (occasion : Occasion) (question : Question) (service : Service)
    (assessment : Assessment) (context : RuleContext) (rules : List Rule)
    (actions : List Action) : Prop where
  classified : (service.classify occasion question).1 = .ok assessment.classification
  scored :
    Service.score question assessment.classification.category = .ok assessment.verdict.outcome
  seen : question.context assessment.classification.category assessment.verdict.outcome =
    .ok context
  stored : service.rules occasion = .ok rules
  fired : (Firing.of occasion.stack context.toDatum (Rule.active rules)).actions = .ok actions
  decided : assessment.verdict = Verdict.decide service.thresholds assessment.verdict.outcome
    actions (Rule.active rules).length question.flags

namespace Service

/-- A classification changes nothing of a service but its breaker. -/
theorem classify_service (occasion : Occasion) (question : Question) (service : Service) :
    ∃ breaker, (service.classify occasion question).2.2 = { service with breaker } := by
  rw [classify]
  cases question.category with
  | none => exact ⟨_, rfl⟩
  | some category => exact ⟨service.breaker, rfl⟩

/-- A classification does not look at the rules. -/
theorem classify_of_store (occasion : Occasion) (question : Question) (service : Service)
    (other : Store) :
    (classify occasion question { service with store := other }).1 =
      (service.classify occasion question).1 := by
  rw [classify, classify]
  cases question.category <;> rfl

/-- An idea is judged exactly if the rules can be loaded and give actions. -/
theorem judge_eq_ok_iff {classification : Classification} {outcome : Outcome Float}
    {context : RuleContext} {assessment : Assessment} :
    (service.judge occasion question classification outcome context).1 = .ok assessment ↔
      ∃ rules actions, service.rules occasion = .ok rules ∧
        (Firing.of occasion.stack context.toDatum (Rule.active rules)).actions = .ok actions ∧
        service.conclude question classification outcome (Rule.active rules) actions =
          assessment := by
  rw [judge]
  cases stored : service.rules occasion with
  | error fault => simp
  | ok rules =>
      dsimp only
      cases fired : (Firing.of occasion.stack context.toDatum (Rule.active rules)).actions with
      | error fault => simp [fired]
      | ok actions => simp [fired]

/-- An assessment is given exactly on its grounds. -/
theorem assess_eq_ok_iff {assessment : Assessment} :
    (service.assess occasion question).result = .ok assessment ↔
      ∃ context rules actions,
        Grounds occasion question service assessment context rules actions := by
  obtain ⟨breaker, later_eq⟩ := classify_service occasion question service
  rcases parts : service.classify occasion question with ⟨classified, first, later⟩
  rw [parts] at later_eq
  obtain rfl : later = { service with breaker } := later_eq
  constructor
  · intro answered
    rw [assess, parts] at answered
    cases classified with
    | error fault => contradiction
    | ok classification =>
        dsimp only at answered
        cases scored : score question classification.category with
        | error fault =>
            rw [scored] at answered
            contradiction
        | ok outcome =>
            cases seen : question.context classification.category outcome with
            | error problems =>
                rw [scored] at answered
                simp only [Except.mapError, bind, Except.bind, seen] at answered
                contradiction
            | ok context =>
                rw [scored] at answered
                simp only [Except.mapError, bind, Except.bind, seen] at answered
                obtain ⟨rules, actions, stored, fired, rfl⟩ := judge_eq_ok_iff.mp answered
                refine ⟨context, rules, actions, ?_, scored, seen, stored, fired, rfl⟩
                rw [parts]
                rfl
  · rintro ⟨context, rules, actions, grounds⟩
    have classified_eq : classified = .ok assessment.classification := by
      rw [← grounds.classified, parts]
    rw [assess, parts, classified_eq]
    dsimp only
    rw [grounds.scored]
    simp only [Except.mapError, bind, Except.bind, grounds.seen]
    exact judge_eq_ok_iff.mpr ⟨rules, actions, grounds.stored, grounds.fired,
      congrArg (Assessment.mk assessment.classification) grounds.decided.symm⟩

end Service

end Grounds

/-- The actions of a firing that is not stopped are the contributions of its rules, in order. -/
theorem Firing.eq_flatMap_of_actions {stack : Nat} {context : Datum} {rules : List Rule}
    {actions : List Action}
    (fired : (Firing.of stack context rules).actions = .ok actions) :
    actions = rules.flatMap fun rule => rule.contribution stack context := by
  have quiet : ∀ rule ∈ rules, ¬ rule.Overflows stack context := by
    intro rule member overflows
    rw [Firing.actions_eq_error ⟨rule, member, overflows⟩] at fired
    contradiction
  rw [Firing.actions_eq_ok quiet] at fired
  exact (Except.ok.inj fired).symm

/-- Rules that are inserted among others insert their actions among the actions of the others. -/
theorem Firing.actions_sublist {stack : Nat} {context : Datum} {few many : List Rule}
    {fewer more : List Action} (inserted : few.Sublist many)
    (few_fired : (Firing.of stack context (Rule.active few)).actions = .ok fewer)
    (many_fired : (Firing.of stack context (Rule.active many)).actions = .ok more) :
    fewer.Sublist more := by
  rw [eq_flatMap_of_actions few_fired, eq_flatMap_of_actions many_fired]
  exact (inserted.filter Rule.isEnabled).flatMap _

namespace Service

/--
Further rules make a verdict worse or leave it as it is.  Take two runs on the same question, one
with the rules of a service, the other with further rules inserted among them at any places, and
let both give an assessment.  Both have the same classification, the same outcome, which is that of
scoring the classified category, and with it the same score and the same reasons.  The status of the
second run is as bad or worse, and it has all flags of the first run, and all penalties in order.
-/
theorem assess_of_inserted_rules {occasion : Occasion} {question : Question} {service : Service}
    {other : Store} {few many : List Rule} {first second : Assessment}
    (few_stored : service.rules occasion = .ok few)
    (many_stored : rules occasion { service with store := other } = .ok many)
    (inserted : few.Sublist many)
    (first_given : (service.assess occasion question).result = .ok first)
    (second_given : (assess occasion question { service with store := other }).result =
      .ok second) :
    second.classification = first.classification ∧
      score question first.classification.category = .ok first.verdict.outcome ∧
      first.verdict.Worsens second.verdict := by
  obtain ⟨context, few', fewer, few_grounds⟩ := assess_eq_ok_iff.mp first_given
  obtain ⟨context', many', more, many_grounds⟩ := assess_eq_ok_iff.mp second_given
  obtain rfl : few' = few := Except.ok.inj (few_grounds.stored.symm.trans few_stored)
  obtain rfl : many' = many := Except.ok.inj (many_grounds.stored.symm.trans many_stored)
  -- Up to the rules both runs compute the same: each step fixes what the next one starts from.
  have classification_eq : second.classification = first.classification := by
    have second_classified := many_grounds.classified
    rw [classify_of_store, few_grounds.classified] at second_classified
    exact (Except.ok.inj second_classified).symm
  have outcome_eq : second.verdict.outcome = first.verdict.outcome := by
    have second_scored := many_grounds.scored
    rw [classification_eq, few_grounds.scored] at second_scored
    exact (Except.ok.inj second_scored).symm
  have context_eq : context' = context := by
    have second_seen := many_grounds.seen
    rw [classification_eq, outcome_eq, few_grounds.seen] at second_seen
    exact (Except.ok.inj second_seen).symm
  subst context_eq
  have actions_inserted : fewer.Sublist more :=
    Firing.actions_sublist inserted few_grounds.fired many_grounds.fired
  refine ⟨classification_eq, few_grounds.scored, ?_⟩
  rw [few_grounds.decided, many_grounds.decided, outcome_eq]
  exact Verdict.worsens_decide service.thresholds first.verdict.outcome actions_inserted _ _ _

/-- A gate that always fails is put in front of a rule that always warns. -/
theorem assess_of_stop_before_warn :
    let warn : Rule :=
      ⟨⟨"warn", by decide⟩, ⟨"true", by decide⟩, [.flag ⟨"WARN", by decide⟩ none], none, none, none⟩
    let stop : Rule :=
      ⟨⟨"stop", by decide⟩, ⟨"true", by decide⟩, [.gate .overall .fail none], none, none, none⟩
    let question : Question :=
      ⟨Dimension.all.map fun dimension => (dimension.name, .double 9), .double 0, some .general,
        default, [], [], ["NEW"]⟩
    let service : Service :=
      ⟨{ (default : Settings) with goMinimum := 70, reviewMinimum := 40 },
        ⟨.double 0.6, false, ⟨"ml-classifier", 3, by decide, 30000⟩⟩, .initial,
        .memory (.ofRules [warn] 50)⟩
    let other : Store := .memory (.ofRules [stop, warn] 50)
    let occasion : Occasion := ⟨⟨⟨0⟩, 0, none, none⟩, false, 0, .abandoned, 100⟩
    ∃ first second,
      (service.assess occasion question).result = .ok first ∧
        (assess occasion question { service with store := other }).result = .ok second ∧
        first.verdict.status = .go ∧ second.verdict.status = .noGo ∧
        second.classification = first.classification ∧
        score question first.classification.category = .ok first.verdict.outcome ∧
        first.verdict.Worsens second.verdict := by
  intro warn stop question service other occasion
  have lexed : Condition.lexeme? ['t', 'r', 'u', 'e'] =
      some (.word ['t', 'r', 'u', 'e'], []) := rfl
  have parsed : Condition.parse "true" = .ok (.literal (.truth true)) := by
    rw [Condition.parse_of_lexeme rfl rfl (by decide) lexed]
    rfl
  have fits (context : Datum) :
      (Condition.Expression.literal (.truth true)).calls context ≤ occasion.stack :=
    show 1 ≤ 100 by decide
  have warn_found (context : Datum) :
      warn.judgedTree? occasion.stack context = some (.literal (.truth true)) :=
    Rule.judgedTree?_eq_some_of_parse rfl parsed (fits context)
  have stop_found (context : Datum) :
      stop.judgedTree? occasion.stack context = some (.literal (.truth true)) :=
    Rule.judgedTree?_eq_some_of_parse rfl parsed (fits context)
  obtain ⟨outcome, scored, good⟩ : ∃ outcome, score question .general = .ok outcome ∧
      Verdict.statusOfOutcome service.thresholds outcome = .go := ⟨_, rfl, by decide +kernel⟩
  obtain ⟨context, seen⟩ : ∃ context, question.context .general outcome = .ok context := ⟨_, rfl⟩
  have warned : (Firing.of occasion.stack context.toDatum [warn]).actions = .ok warn.actions :=
    Firing.actions_cons_of_some (warn_found _) []
  have stopped : (Firing.of occasion.stack context.toDatum [stop, warn]).actions =
      .ok (stop.actions ++ warn.actions) := by
    rw [Firing.actions_cons_of_some (stop_found _), warned]
    rfl
  let explicit := Classification.explicit .general
  let first := service.conclude question explicit outcome [warn] warn.actions
  let second :=
    service.conclude question explicit outcome [stop, warn] (stop.actions ++ warn.actions)
  have first_given : (service.assess occasion question).result = .ok first :=
    assess_eq_ok_iff.mpr ⟨context, [warn], warn.actions, rfl, scored, seen, rfl, warned, rfl⟩
  have second_given : (assess occasion question { service with store := other }).result =
      .ok second :=
    assess_eq_ok_iff.mpr
      ⟨context, [stop, warn], stop.actions ++ warn.actions, rfl, scored, seen, rfl, stopped, rfl⟩
  refine ⟨first, second, first_given, second_given, good, rfl, ?_⟩
  exact assess_of_inserted_rules rfl rfl (List.sublist_cons_self stop [warn]) first_given
    second_given

end Service

end Appraisal
