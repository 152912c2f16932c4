import Appraisal.Proofs.Datum.Fields
import Appraisal.Rule.Context

/-!
# Checked contexts

What a checked context takes from the fields it is read from, and what conditions find in it.
-/

namespace Appraisal

open Validation

theorem Validation.Checked.app_eq_ok_iff {α β : Type} {function : Checked (α → β)}
    {argument : Checked α} {result : β} :
    function.app argument = .ok result ↔
      ∃ apply value, function = .ok apply ∧ argument = .ok value ∧ apply value = result := by
  cases function <;> cases argument <;> simp [Checked.app]

theorem Validation.Checked.under_eq_ok_iff {α : Type} {step : Step} {outcome : Checked α}
    {value : α} :
    outcome.under step = .ok value ↔ outcome = .ok value := by
  cases outcome <;> simp [Checked.under, Except.mapError]

namespace RuleContext

/-- The keys of further fields are distinct, and none of those that a context gives a meaning to. -/
def Distinct (context : RuleContext) : Prop :=
  (knownKeys ++ context.extras.map Prod.fst).Nodup

theorem not_mem_knownKeys_iff {key : String} :
    key ∉ knownKeys ↔ key ≠ "model" ∧ key ≠ "saturationPct" ∧ key ≠ "dimensions10" := by
  simp [knownKeys]

variable {context : RuleContext}

theorem Distinct.lookup_extras (distinct : context.Distinct) {key : String}
    (known : key ∈ knownKeys) : Datum.lookup key context.extras = none :=
  Datum.lookup_eq_none_iff.mpr fun further => List.disjoint_of_nodup_append distinct known further

theorem Distinct.extras (distinct : context.Distinct) : (context.extras.map Prod.fst).Nodup :=
  (List.nodup_append.mp distinct).2.1

/-- What rules find under a key comes from the three known fields, or from the present further
fields. -/
theorem field?_toDatum (context : RuleContext) (key : String) :
    context.toDatum.field? key =
      (((Datum.lookup key [("model", .text context.model.name)]).or
        (Datum.lookup key
          (context.saturation.map fun value => ("saturationPct", Datum.double value)).toList)).or
        (Datum.lookup key (context.scores.map fun values =>
          ("dimensions10", Datum.ofDoubleFields values)).toList)).or
        ((Datum.lookup key (Datum.present context.extras)).map Datum.withoutSpecials) := by
  rw [toDatum, Datum.field?, Datum.lookup_append, Datum.lookup_append, Datum.lookup_append,
    Datum.lookup_map_values, Datum.present]

theorem field?_model (context : RuleContext) :
    context.toDatum.field? "model" = some (.text context.model.name) :=
  rfl

theorem field?_saturation (distinct : context.Distinct) :
    context.toDatum.field? "saturationPct" = context.saturation.map .double := by
  rw [field?_toDatum, Datum.lookup_present distinct.extras,
    distinct.lookup_extras (by simp [knownKeys])]
  cases context.saturation <;> cases context.scores <;> rfl

theorem field?_scores (distinct : context.Distinct) :
    context.toDatum.field? "dimensions10" = context.scores.map .ofDoubleFields := by
  rw [field?_toDatum, Datum.lookup_present distinct.extras,
    distinct.lookup_extras (by simp [knownKeys])]
  cases context.saturation <;> cases context.scores <;> rfl

/-- Further fields are found without their infinite and undefined doubles, unless they are null. -/
theorem field?_further (distinct : context.Distinct) {key : String} (unknown : key ∉ knownKeys) :
    context.toDatum.field? key =
      ((Datum.lookup key context.extras).filter fun value => !value.isNull).map
        Datum.withoutSpecials := by
  obtain ⟨not_model, not_saturation, not_scores⟩ := not_mem_knownKeys_iff.mp unknown
  rw [field?_toDatum, Datum.lookup_present distinct.extras]
  cases context.saturation <;> cases context.scores <;>
    simp [Datum.lookup, Ne.symm not_model, Ne.symm not_saturation, Ne.symm not_scores]

/-! ## Null fields -/

/-- The fields of a context, those with null included. -/
def fields (context : RuleContext) : List (String × Datum) :=
  [("model", .text context.model.name), ("saturationPct", .ofDouble? context.saturation),
    ("dimensions10", (context.scores.map Datum.ofDoubleFields).getD .null)] ++
    context.extras.map fun (key, value) => (key, value.withoutSpecials)

/-- Leaving the null fields out leaves the content of a context as it is. -/
theorem sameContent_toDatum (distinct : context.Distinct) :
    ∃ few, context.toDatum = .object few ∧ Datum.SameContent few context.fields := by
  refine ⟨_, rfl, fun key => ?_⟩
  change (context.toDatum.field? key).getD .null = _
  by_cases known : key ∈ knownKeys
  · simp only [knownKeys, List.mem_cons, List.not_mem_nil, or_false] at known
    rcases known with rfl | rfl | rfl
    · rfl
    · have found : Datum.lookup "saturationPct" context.fields =
          some (.ofDouble? context.saturation) := rfl
      rw [field?_saturation distinct, found]
      cases context.saturation <;> rfl
    · have found : Datum.lookup "dimensions10" context.fields =
          some ((context.scores.map Datum.ofDoubleFields).getD .null) := rfl
      rw [field?_scores distinct, found]
      cases context.scores <;> rfl
  · rw [field?_further distinct known, fields, Datum.lookup_append, Datum.lookup_map_values]
    obtain ⟨not_model, not_saturation, not_scores⟩ := not_mem_knownKeys_iff.mp known
    simp only [Datum.lookup, if_neg (Ne.symm not_model), if_neg (Ne.symm not_saturation),
      if_neg (Ne.symm not_scores), Option.none_or]
    cases Datum.lookup key context.extras with
    | none => rfl
    | some value => cases value <;> rfl

/-! ## Checks -/

/-- The fields that a context keeps as they are. -/
def further (fields : List (String × Datum)) : List (String × Datum) :=
  fields.filter fun field => !knownKeys.contains field.1

/-- A checked context holds what its fields are read as. -/
theorem of_check {fields : List (String × Datum)} (checked : check (.object fields) = .ok context) :
    required fields "model" (memberOf Category.options) = .ok context.model ∧
      absentable fields "saturationPct" number = .ok context.saturation ∧
      absentable fields "dimensions10" (mappingOf number) = .ok context.scores ∧
      context.extras = further fields := by
  rw [check, record] at checked
  simp only [bind, Except.bind] at checked
  obtain ⟨_, kept, known_read, kept_eq, rfl⟩ := Checked.app_eq_ok_iff.mp checked
  obtain ⟨_, scores, two_read, scores_read, rfl⟩ := Checked.app_eq_ok_iff.mp known_read
  obtain ⟨_, saturation, one_read, saturation_read, rfl⟩ := Checked.app_eq_ok_iff.mp two_read
  obtain ⟨_, model, built, model_read, rfl⟩ := Checked.app_eq_ok_iff.mp one_read
  cases built
  exact ⟨model_read, saturation_read, scores_read, (Except.ok.inj kept_eq).symm⟩

/-- Fields that agree on the known keys are checked alike, but for the further fields. -/
theorem check_of_known {first second : List (String × Datum)}
    (same : ∀ key ∈ knownKeys, Datum.lookup key second = Datum.lookup key first) :
    check (.object second) =
      (check (.object first)).map fun context => { context with extras := further second } := by
  simp only [knownKeys, List.forall_mem_cons] at same
  obtain ⟨model_same, saturation_same, scores_same, _⟩ := same
  have model_eq : required second "model" (memberOf Category.options) =
      required first "model" (memberOf Category.options) := by
    rw [required, required, model_same]
  have saturation_eq : absentable second "saturationPct" number =
      absentable first "saturationPct" number := by
    rw [absentable, absentable, defaulted, defaulted, saturation_same]
  have scores_eq : absentable second "dimensions10" (mappingOf number) =
      absentable first "dimensions10" (mappingOf number) := by
    rw [absentable, absentable, defaulted, defaulted, scores_same]
  rw [check, check, record, record]
  simp only [bind, Except.bind, model_eq, saturation_eq, scores_eq]
  cases required first "model" (memberOf Category.options) <;>
    cases absentable first "saturationPct" number <;>
    cases absentable first "dimensions10" (mappingOf number) <;> rfl

theorem lookup_further {key : String} (unknown : key ∉ knownKeys)
    (fields : List (String × Datum)) :
    Datum.lookup key (further fields) = Datum.lookup key fields := by
  have kept : (!knownKeys.contains key) = true := by simpa using unknown
  exact Datum.lookup_filter_keys (fun name => !knownKeys.contains name) kept fields

/-- A context that is checked from distinct fields has distinct fields. -/
theorem distinct_of_check {fields : List (String × Datum)} (distinct : (fields.map Prod.fst).Nodup)
    (checked : check (.object fields) = .ok context) : context.Distinct := by
  obtain ⟨_, _, _, extras_eq⟩ := of_check checked
  rw [Distinct, extras_eq, List.nodup_append]
  refine ⟨by decide, (List.filter_sublist.map Prod.fst).nodup distinct, ?_⟩
  rintro key known other member rfl
  obtain ⟨field, field_member, rfl⟩ := List.mem_map.mp member
  simp only [further, List.mem_filter, Bool.not_eq_true', List.contains_eq_mem,
    decide_eq_false_iff_not] at field_member
  exact field_member.2 known

/-- Distinct fields with the same values under their keys, in whatever order, are refused alike, or
checked as contexts in which the same is found. -/
theorem check_of_lookup_eq {first second : List (String × Datum)}
    (first_distinct : (first.map Prod.fst).Nodup) (second_distinct : (second.map Prod.fst).Nodup)
    (same : ∀ key, Datum.lookup key second = Datum.lookup key first) :
    (∃ problems, check (.object first) = .error problems ∧
      check (.object second) = .error problems) ∨
      ∃ one other, check (.object first) = .ok one ∧ check (.object second) = .ok other ∧
        ∀ key, other.toDatum.field? key = one.toDatum.field? key := by
  have second_eq := check_of_known fun key _ => same key
  cases checked : check (.object first) with
  | error problems =>
      rw [checked] at second_eq
      exact .inl ⟨problems, rfl, second_eq⟩
  | ok context =>
      rw [checked] at second_eq
      refine .inr ⟨context, _, rfl, second_eq, fun key => ?_⟩
      have distinct := distinct_of_check first_distinct checked
      have other_distinct := distinct_of_check second_distinct second_eq
      obtain ⟨_, _, _, extras_eq⟩ := of_check checked
      -- The two contexts share what they read from known keys; the order of further fields differs.
      by_cases known : key ∈ knownKeys
      · simp only [knownKeys, List.mem_cons, List.not_mem_nil, or_false] at known
        rcases known with rfl | rfl | rfl
        · rfl
        · rw [field?_saturation distinct, field?_saturation other_distinct]
        · rw [field?_scores distinct, field?_scores other_distinct]
      · rw [field?_further distinct known, field?_further other_distinct known, extras_eq,
          lookup_further known, lookup_further known, same]

end RuleContext

end Appraisal
