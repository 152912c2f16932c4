import Appraisal.Proofs.Fallible
import Appraisal.Proofs.Rule.RoundTrip
import Appraisal.Proofs.Rule.View
import Appraisal.Proofs.Service.Assessment

/-!
# Computed fields cannot be forged

The context of an assessment holds the further fields of the question, and over them the fields
that the assessment computes.  Whatever a question gives under the names of computed fields is lost
before any condition is judged, and it is in this context that the rules are fired.
-/

namespace Appraisal

open Validation

namespace Question

/-- The names of the computed fields. -/
def computedKeys : List String :=
  ["model", "saturationPct", "dimensions10", "overall100", "overall100PreCaps", "gateViolations",
    "flags"]

/-- The computed fields. -/
def computed (question : Question) (category : Category) (outcome : Outcome Float) :
    List (String × Datum) :=
  [("model", .text category.name), ("saturationPct", question.saturation),
    ("dimensions10", .object question.scores), ("overall100", .double outcome.afterCaps),
    ("overall100PreCaps", .double outcome.beforeCaps),
    ("gateViolations", .ofTexts (sortedNames outcome)), ("flags", .ofTexts question.flags)]

/-- What conditions find of the computed fields: the category, the saturation and the scores as they
are read, the results of the scoring, with null in the place of a score that is not finite, and the
flags. -/
structure Seen (question : Question) (category : Category) (outcome : Outcome Float)
    (context : Datum) : Prop where
  model : context.field? "model" = some (.text category.name)
  saturation : ∃ saturation, Validation.optional number question.saturation = .ok saturation ∧
    context.field? "saturationPct" = saturation.map .double
  scores : ∃ scores, mappingOf number (.object question.scores) = .ok scores ∧
    context.field? "dimensions10" = some (.ofDoubleFields scores)
  overall : context.field? "overall100" =
    some (if outcome.afterCaps.isFinite then .double outcome.afterCaps else .null)
  beforeCaps : context.field? "overall100PreCaps" =
    some (if outcome.beforeCaps.isFinite then .double outcome.beforeCaps else .null)
  violations : context.field? "gateViolations" = some (.ofTexts (sortedNames outcome))
  flags : context.field? "flags" = some (.ofTexts question.flags)

variable {question : Question} {category : Category} {outcome : Outcome Float}

theorem context_eq_check (question : Question) (category : Category) (outcome : Outcome Float) :
    question.context category outcome = RuleContext.check (.object
      (Datum.merged question.extras (question.computed category outcome))) :=
  rfl

/-- In a context the computed fields stand over the further ones. -/
theorem lookup_merged_computed (question : Question) (category : Category)
    (outcome : Outcome Float) (extras : List (String × Datum)) (key : String) :
    Datum.lookup key (Datum.merged extras (question.computed category outcome)) =
      (Datum.lookup key (question.computed category outcome)).or (Datum.lookup key extras) := by
  have distinct : ((question.computed category outcome).map Prod.fst).Nodup := by
    change computedKeys.Nodup
    decide
  exact Datum.lookup_merged key extras distinct

/-- Further fields that differ under computed keys only come to the same in a context. -/
theorem lookup_merged_eq {extras others : List (String × Datum)}
    (agree : ∀ key ∉ computedKeys, Datum.lookup key others = Datum.lookup key extras)
    (key : String) :
    Datum.lookup key (Datum.merged others (question.computed category outcome)) =
      Datum.lookup key (Datum.merged extras (question.computed category outcome)) := by
  rw [lookup_merged_computed, lookup_merged_computed]
  by_cases known : key ∈ computedKeys
  · cases found : Datum.lookup key (question.computed category outcome) with
    | some value => rfl
    | none => exact absurd known (Datum.lookup_eq_none_iff.mp found)
  · rw [agree key known]

/-- A computed field is read from a context as it is. -/
theorem lookup_context {key : String} {value : Datum}
    (found : Datum.lookup key (question.computed category outcome) = some value) :
    Datum.lookup key (Datum.merged question.extras (question.computed category outcome)) =
      some value := by
  rw [lookup_merged_computed, found]
  rfl

theorem withoutSpecials_ofTexts (texts : List String) :
    (Datum.ofTexts texts).withoutSpecials = .ofTexts texts := by
  have items_eq (change : Number → Datum) :
      Datum.mapItemNumbers change (texts.map .text) = texts.map .text := by
    induction texts with
    | nil => rfl
    | cons text others induction =>
        rw [List.map_cons, Datum.mapItemNumbers, Datum.mapNumbers, induction]
        all_goals simp
  rw [Datum.withoutSpecials, Datum.ofTexts, Datum.mapNumbers, items_eq]

theorem memberOf_name (category : Category) :
    memberOf Category.options (.text category.name) = .ok category := by
  cases category <;> rfl

/-- Conditions find the computed fields, whatever the further ones are. -/
theorem seen_of_context (distinct : (question.extras.map Prod.fst).Nodup) {context : RuleContext}
    (built : question.context category outcome = .ok context) :
    question.Seen category outcome context.toDatum := by
  rw [context_eq_check] at built
  have context_distinct :=
    RuleContext.distinct_of_check (Datum.nodup_keys_merged _ distinct) built
  obtain ⟨model_read, saturation_read, scores_read, extras_eq⟩ := RuleContext.of_check built
  have further (key : String) (value : Datum) (unknown : key ∉ RuleContext.knownKeys)
      (given : value.isNull = false)
      (found : Datum.lookup key (question.computed category outcome) = some value) :
      context.toDatum.field? key = some value.withoutSpecials := by
    rw [RuleContext.field?_further context_distinct unknown, extras_eq,
      RuleContext.lookup_further unknown, lookup_context found, Option.filter_some, given]
    rfl
  refine ⟨?_, ?_, ?_, ?_, ?_, ?_, ?_⟩
  · have found : Datum.lookup "model" (Datum.merged question.extras
        (question.computed category outcome)) = some (.text category.name) := lookup_context rfl
    have read := required_of_lookup found (memberOf_name category)
    obtain rfl : context.model = category := Except.ok.inj (model_read.symm.trans read)
    exact RuleContext.field?_model context
  · have found : Datum.lookup "saturationPct" (Datum.merged question.extras
        (question.computed category outcome)) = some question.saturation := lookup_context rfl
    rw [absentable, defaulted, found] at saturation_read
    exact ⟨context.saturation, Checked.under_eq_ok_iff.mp saturation_read,
      RuleContext.field?_saturation context_distinct⟩
  · have found : Datum.lookup "dimensions10" (Datum.merged question.extras
        (question.computed category outcome)) = some (.object question.scores) :=
      lookup_context rfl
    rw [absentable, defaulted, found] at scores_read
    have read : (mappingOf number (.object question.scores)).map some = .ok context.scores :=
      Checked.under_eq_ok_iff.mp scores_read
    rw [RuleContext.field?_scores context_distinct]
    cases scores_eq : mappingOf number (.object question.scores) with
    | error problems =>
        rw [scores_eq] at read
        contradiction
    | ok scores =>
        rw [scores_eq] at read
        rw [← Except.ok.inj read]
        exact ⟨scores, rfl, rfl⟩
  · exact further "overall100" (.double outcome.afterCaps) (by decide) rfl rfl
  · exact further "overall100PreCaps" (.double outcome.beforeCaps) (by decide) rfl rfl
  · rw [further "gateViolations" (.ofTexts (sortedNames outcome)) (by decide) rfl rfl,
      withoutSpecials_ofTexts]
  · rw [further "flags" (.ofTexts question.flags) (by decide) rfl rfl, withoutSpecials_ofTexts]

/-- Further fields that differ under computed keys only are refused alike, or give contexts in which
the same is found. -/
theorem context_of_agree (category : Category) (outcome : Outcome Float)
    {others : List (String × Datum)}
    (distinct : (question.extras.map Prod.fst).Nodup)
    (others_distinct : (others.map Prod.fst).Nodup)
    (agree : ∀ key ∉ computedKeys, Datum.lookup key others = Datum.lookup key question.extras) :
    (∃ problems, question.context category outcome = .error problems ∧
      context { question with extras := others } category outcome = .error problems) ∨
      ∃ one other, question.context category outcome = .ok one ∧
        context { question with extras := others } category outcome = .ok other ∧
        ∀ key, other.toDatum.field? key = one.toDatum.field? key := by
  rw [context_eq_check, context_eq_check]
  exact RuleContext.check_of_lookup_eq (Datum.nodup_keys_merged _ distinct)
    (Datum.nodup_keys_merged _ others_distinct) (lookup_merged_eq agree)

end Question

namespace Service

/-- Contexts in which the same is found are judged alike. -/
theorem judge_of_field? (occasion : Occasion) (question : Question) (service : Service)
    (classification : Classification) (outcome : Outcome Float) {one other : RuleContext}
    (same : ∀ key, other.toDatum.field? key = one.toDatum.field? key) :
    service.judge occasion question classification outcome other =
      service.judge occasion question classification outcome one := by
  rw [judge, judge]
  cases service.rules occasion with
  | error fault => rfl
  | ok rules =>
      dsimp only
      rw [Firing.of_eq_of_field? same]

/-- An assessment that comes as far as a context is what is judged in it. -/
theorem assess_of_context {occasion : Occasion} {question : Question} {service : Service}
    {classification : Classification} {outcome : Outcome Float} {context : RuleContext}
    (classified : (service.classify occasion question).1 = .ok classification)
    (scored : score question classification.category = .ok outcome)
    (built : question.context classification.category outcome = .ok context) :
    (service.assess occasion question).result =
        (service.judge occasion question classification outcome context).1 ∧
      ∃ first, (service.assess occasion question).entries =
        first ++ (service.judge occasion question classification outcome context).2 := by
  obtain ⟨breaker, later_eq⟩ := classify_service occasion question service
  rcases parts : service.classify occasion question with ⟨given, first, later⟩
  rw [parts] at classified later_eq
  obtain rfl : given = .ok classification := classified
  obtain rfl : later = { service with breaker } := later_eq
  rw [assess, parts]
  dsimp only
  rw [scored]
  simp only [Except.mapError, bind, Except.bind, built]
  exact ⟨rfl, first, rfl⟩

/-- What is judged in a context is what the active rules make of it when they are fired there. -/
theorem judge_of_rules {occasion : Occasion} {question : Question} {service : Service}
    {rules : List Rule} (stored : service.rules occasion = .ok rules)
    (classification : Classification) (outcome : Outcome Float) (context : RuleContext) :
    let firing := Firing.of occasion.stack context.toDatum (Rule.active rules)
    let judged := service.judge occasion question classification outcome context
    judged.1 = (firing.actions.mapError .condition).map
        (service.conclude question classification outcome (Rule.active rules)) ∧
      firing.entries <+: judged.2 := by
  intro firing judged
  have judged_eq :
      judged = service.judge occasion question classification outcome context := rfl
  rw [judge, stored] at judged_eq
  dsimp only at judged_eq
  rw [judged_eq]
  cases (Firing.of occasion.stack context.toDatum (Rule.active rules)).actions with
  | error fault => exact ⟨rfl, List.prefix_refl _⟩
  | ok actions => exact ⟨rfl, List.prefix_append _ _⟩

/--
Computed fields cannot be forged.  If two rows of further fields agree under every key but those of
the computed fields, whatever stands under these, the same question with the one or the other has
the same answer or the same fault, the same log entries, and leaves the same service.  And wherever
a run comes as far as a context and to the rules of its store, it answers and reports what comes of
firing the active ones in this context, in which conditions find the computed fields of the run.
-/
theorem assess_of_forged_extras (occasion : Occasion) (service : Service) {question : Question}
    {others : List (String × Datum)} (distinct : (question.extras.map Prod.fst).Nodup)
    (others_distinct : (others.map Prod.fst).Nodup)
    (agree : ∀ key ∉ Question.computedKeys,
      Datum.lookup key others = Datum.lookup key question.extras) :
    service.assess occasion { question with extras := others } = service.assess occasion question ∧
      ∀ classification outcome context,
        (service.classify occasion question).1 = .ok classification →
        score question classification.category = .ok outcome →
        question.context classification.category outcome = .ok context →
          question.Seen classification.category outcome context.toDatum ∧
          ∀ rules, service.rules occasion = .ok rules →
            let firing := Firing.of occasion.stack context.toDatum (Rule.active rules)
            (service.assess occasion question).result =
                (firing.actions.mapError .condition).map
                  (service.conclude question classification outcome (Rule.active rules)) ∧
              firing.entries <:+: (service.assess occasion question).entries := by
  constructor
  · -- Neither the classification nor the scoring looks at further fields, so both runs are one run up
    -- to the context.
    have classified_eq : service.classify occasion { question with extras := others } =
        service.classify occasion question := rfl
    rw [assess, assess, classified_eq]
    rcases service.classify occasion question with ⟨classified, first, later⟩
    cases classified with
    | error fault => rfl
    | ok classification =>
        have score_eq : score { question with extras := others } classification.category =
            score question classification.category := rfl
        dsimp only
        rw [score_eq]
        cases score question classification.category with
        | error fault => rfl
        | ok outcome =>
            simp only [Except.mapError, bind, Except.bind]
            rcases Question.context_of_agree classification.category outcome distinct
                others_distinct agree with
              ⟨problems, refused, others_refused⟩ | ⟨one, other, built, others_built, same⟩
            · rw [refused, others_refused]
            · rw [built, others_built]
              simp only [pure, Except.pure]
              rw [← judge_of_field? occasion question later classification outcome same]
              rfl
  · intro classification outcome context classified scored built
    refine ⟨Question.seen_of_context distinct built, ?_⟩
    intro rules stored firing
    obtain ⟨result_eq, first, entries_eq⟩ := assess_of_context classified scored built
    obtain ⟨judged_eq, reported⟩ := judge_of_rules stored classification outcome context
    rw [result_eq, entries_eq]
    exact ⟨judged_eq, reported.isInfix.trans (List.suffix_append first _).isInfix⟩

/-- A question that forges its score, its flags and its category beside a field of its own: of two
rules about the score only the one fires that holds of the computed score. -/
theorem assess_of_forged_score :
    let high : Rule := ⟨⟨"high", by decide⟩, ⟨"overall100 >= 95", by decide⟩,
      [.flag ⟨"HIGH", by decide⟩ none], none, none, none⟩
    let fair : Rule := ⟨⟨"fair", by decide⟩, ⟨"overall100 < 95 && region == 'emea'", by decide⟩,
      [.flag ⟨"FAIR", by decide⟩ none], none, none, none⟩
    let question : Question :=
      ⟨Dimension.all.map fun dimension => (dimension.name, .double 9), .double 0, some .general,
        default, [], [("region", .text "emea")], ["NEW"]⟩
    let forged : List (String × Datum) :=
      [("overall100", .double 100), ("region", .text "emea"), ("flags", .null), ("model", .whole 3)]
    let service : Service :=
      ⟨default, ⟨.double 0.6, false, ⟨"ml-classifier", 3, by decide, 30000⟩⟩, .initial,
        .memory (.ofRules [high, fair] 50)⟩
    let occasion : Occasion := ⟨⟨⟨0⟩, 0, none, none⟩, false, 0, .abandoned, 100⟩
    service.assess occasion { question with extras := forged } = service.assess occasion question ∧
      ∃ outcome context, score question .general = .ok outcome ∧
        question.context .general outcome = .ok context ∧
        question.Seen .general outcome context.toDatum ∧
        (service.assess occasion { question with extras := forged }).result =
          .ok (service.conclude question (.explicit .general) outcome [high, fair] fair.actions) := by
  intro high fair question forged service occasion
  have distinct : (question.extras.map Prod.fst).Nodup := by decide
  have forged_distinct : (forged.map Prod.fst).Nodup := by decide
  have agree : ∀ key ∉ Question.computedKeys,
      Datum.lookup key forged = Datum.lookup key question.extras := by
    intro key unknown
    simp only [Question.computedKeys, List.mem_cons, not_or] at unknown
    obtain ⟨not_model, _, _, not_overall, _, _, not_flags, _⟩ := unknown
    simp only [forged, question, Datum.lookup, if_neg (Ne.symm not_model),
      if_neg (Ne.symm not_overall), if_neg (Ne.symm not_flags)]
  have passed : (score question .general).toOption.any (fun outcome =>
      (question.context .general outcome).toOption.any (fun context =>
        (Firing.of occasion.stack context.toDatum [high, fair]).actions.toOption =
          some fair.actions)) = true := by
    decide +kernel
  obtain ⟨outcome, scored, passed⟩ := exists_of_any_toOption passed
  obtain ⟨context, built, passed⟩ := exists_of_any_toOption passed
  have fired : (Firing.of occasion.stack context.toDatum [high, fair]).actions =
      .ok fair.actions :=
    eq_ok_of_toOption (of_decide_eq_true passed)
  obtain ⟨same, seen⟩ :=
    assess_of_forged_extras occasion service distinct forged_distinct agree
  obtain ⟨found, judged⟩ := seen (.explicit .general) outcome context rfl scored built
  obtain ⟨result_eq, _⟩ := judged [high, fair] rfl
  refine ⟨same, outcome, context, scored, built, found, ?_⟩
  rw [same, result_eq]
  change (Except.mapError _ (Firing.of occasion.stack context.toDatum [high, fair]).actions).map _ = _
  rw [fired]
  rfl

end Service

end Appraisal
