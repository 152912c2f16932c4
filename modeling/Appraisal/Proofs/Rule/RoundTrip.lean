import Appraisal.Proofs.Datum.Fields
import Appraisal.Rule.Decoding
import Appraisal.Rule.Encoding

/-!
# Rules written and read again

What is stored of a rule or of a history entry is read as the same rule or entry.  A payload has no
null fields; leaving them out changes nothing for a field that may be absent, and the other fields
are never null.
-/

namespace Appraisal

open Validation

namespace Validation

/-! ## Fields of payloads -/

section Fields

variable {α : Type} {fields : List (String × Datum)} {value : Datum}

theorem required_of_lookup {key : String} (found : Datum.lookup key fields = some value)
    {check : Check α} {result : α} (passed : check value = .ok result) :
    required fields key check = .ok result := by
  rw [required, found]
  dsimp only
  rw [passed]
  rfl

theorem defaulted_of_lookup {key : String} (found : Datum.lookup key fields = some value)
    {default : α} {check : Check α} {result : α} (passed : check value = .ok result) :
    defaulted fields key default check = .ok result := by
  rw [defaulted, found]
  dsimp only
  rw [passed]
  rfl

/-- A field that is never null is found in a payload. -/
theorem lookup_present_of_given (distinct : (fields.map Prod.fst).Nodup) {key : String}
    (found : Datum.lookup key fields = some value) (given : value.isNull = false) :
    Datum.lookup key (Datum.present fields) = some value := by
  rw [Datum.lookup_present distinct, found, Option.filter_some, given]
  rfl

/-- A field that may be null is read from a payload with or without it. -/
theorem absentable_present (distinct : (fields.map Prod.fst).Nodup) {key : String}
    (found : Datum.lookup key fields = some value) {check : Check α} {result : Option α}
    (passed : optional check value = .ok result) :
    absentable (Datum.present fields) key check = .ok result := by
  cases null : value.isNull with
  | false => exact defaulted_of_lookup (lookup_present_of_given distinct found null) passed
  | true =>
      obtain rfl : value = .null := by
        cases value <;> simp_all [Datum.isNull]
      rw [absentable, defaulted, Datum.lookup_present distinct, found, Option.filter_some]
      exact passed

end Fields

theorem optional_text (value : Option String) : optional text (.ofText? value) = .ok value := by
  cases value <;> rfl

theorem optional_truth (value : Option Bool) : optional truth (.ofTruth? value) = .ok value := by
  cases value <;> rfl

theorem nonEmptyText_val (value : { value : String // value ≠ "" }) :
    nonEmptyText (.text value.val) = .ok value := by
  rw [nonEmptyText, dif_pos value.property]

/-- A list is read as it was written if each item is. -/
theorem listOf_map {α : Type} {check : Check α} {write : α → Datum}
    (again : ∀ value, check (write value) = .ok value) (values : List α) :
    listOf check (.list (values.map write)) = .ok values := by
  have each (index : Nat) : items check index (values.map write) = values.map .ok := by
    induction values generalizing index with
    | nil => rfl
    | cons value others induction =>
        rw [List.map_cons, items, again, induction, List.map_cons]
        rfl
  rw [listOf, each, Checked.sequence_map_ok]

end Validation

/-! ## Actions, rules and histories -/

theorem Action.checkTarget_name (target : GateTarget) :
    Action.checkTarget (.text target.name) = .ok target := by
  cases target with
  | dimension axis => cases axis <;> rfl
  | overall => rfl

theorem Action.oneOf_demands_name (demand : GateDemand) :
    oneOf Action.demands (.text demand.name) = .ok demand := by
  cases demand <;> rfl

theorem Action.distinct_fields (action : Action) : (action.fields.map Prod.fst).Nodup := by
  cases action with
  | flag code message =>
      change ["type", "code", "message"].Nodup
      decide
  | gate target demand reason =>
      change ["type", "dimension", "action", "reason"].Nodup
      decide

theorem Action.check_payload (action : Action) : Action.check action.payload = .ok action := by
  have distinct := action.distinct_fields
  cases action with
  | flag code message =>
      have kind : Datum.lookup "type" (Datum.present (Action.flag code message).fields) =
          some (.text "flag") := lookup_present_of_given distinct rfl rfl
      rw [payload, check, kind, checkFlag,
        required_of_lookup (lookup_present_of_given distinct rfl rfl) (nonEmptyText_val code),
        absentable_present distinct rfl (optional_text message)]
      rfl
  | gate target demand reason =>
      have kind : Datum.lookup "type" (Datum.present (Action.gate target demand reason).fields) =
          some (.text "gate") := lookup_present_of_given distinct rfl rfl
      rw [payload, check, kind, checkGate,
        defaulted_of_lookup (lookup_present_of_given distinct rfl rfl) (checkTarget_name target),
        defaulted_of_lookup (lookup_present_of_given distinct rfl rfl)
          (oneOf_demands_name demand),
        absentable_present distinct rfl (optional_text reason)]
      rfl

theorem RuleId.check_val (id : RuleId) : RuleId.check (.text id.val) = .ok id := by
  have given : id.val ≠ "" := by
    intro empty
    have visible := id.property
    rw [empty] at visible
    exact absurd visible (by decide)
  rw [RuleId.check, if_neg given, dif_pos id.property]

theorem Rule.distinct_fields (writeAction : Action → Datum) (rule : Rule) :
    ((rule.fields writeAction).map Prod.fst).Nodup := by
  change ["id", "when", "then", "description", "version", "enabled"].Nodup
  decide

/-- A stored rule is read as it was. -/
theorem Rule.check_payload (rule : Rule) : Rule.check rule.payload = .ok rule := by
  have distinct := rule.distinct_fields Action.payload
  rw [Rule.check, payload, record]
  simp only [bind, Except.bind]
  rw [required_of_lookup (lookup_present_of_given distinct rfl rfl) (RuleId.check_val rule.id),
    required_of_lookup (lookup_present_of_given distinct rfl rfl)
      (nonEmptyText_val rule.condition),
    required_of_lookup (lookup_present_of_given distinct rfl rfl)
      (listOf_map Action.check_payload rule.actions),
    absentable_present distinct rfl (optional_text rule.description),
    absentable_present distinct rfl (optional_text rule.version),
    absentable_present distinct rfl (optional_truth rule.enabled)]
  rfl

/-- A stored history entry is read as it was. -/
theorem HistoryEntry.check_payload (entry : HistoryEntry) :
    HistoryEntry.check entry.payload = .ok entry := by
  have moment_read : whole (.whole entry.moment) = .ok entry.moment := rfl
  have actor_read : text (.text entry.actor) = .ok entry.actor := rfl
  have rules_read := listOf_map Rule.check_payload entry.rules
  rw [HistoryEntry.check, payload, record]
  simp only [bind, Except.bind]
  rw [required_of_lookup rfl moment_read, required_of_lookup rfl actor_read,
    required_of_lookup rfl rules_read]
  rfl

/-! ## Payloads are records without nulls -/

theorem Action.withoutNulls_toDatum (action : Action) :
    action.toDatum.withoutNulls = action.payload := by
  cases action with
  | flag code message => simp [payload, toDatum, fields]
  | gate target demand reason => simp [payload, toDatum, fields]

theorem Rule.withoutNulls_toDatum (rule : Rule) : rule.toDatum.withoutNulls = rule.payload := by
  simp [payload, toDatum, fields, Function.comp_def, Action.withoutNulls_toDatum]

theorem HistoryEntry.withoutNulls_toDatum (entry : HistoryEntry) :
    entry.toDatum.withoutNulls = entry.payload := by
  simp [payload, toDatum, Datum.present, Datum.isNull, Function.comp_def, Rule.withoutNulls_toDatum]

theorem Rule.checkAll_payloads (rules : List Rule) :
    Rule.checkAll (rules.map Rule.payload) = .ok rules := by
  induction rules with
  | nil => rfl
  | cons rule others induction =>
      rw [List.map_cons, checkAll, checkRaw, check_payload, induction]
      rfl

/--
What is stored of some rules or history entries is their full records without the null fields at any
depth, and it is read as the same rules or entries, in the same order.  So rules that were read from
raw data are accepted again as they are listed, and are the same rules.
-/
theorem payloads_read_again :
    (∀ rules : List Rule,
      (Datum.list (rules.map Rule.toDatum)).withoutNulls = .list (rules.map Rule.payload) ∧
        listOf Rule.check (.list (rules.map Rule.payload)) = .ok rules) ∧
    (∀ entries : List HistoryEntry,
      (Datum.list (entries.map HistoryEntry.toDatum)).withoutNulls =
          .list (entries.map HistoryEntry.payload) ∧
        listOf HistoryEntry.check (.list (entries.map HistoryEntry.payload)) = .ok entries) ∧
    ∀ (data : List Datum) (rules : List Rule), Rule.checkAll data = .ok rules →
      Rule.checkAll (rules.map Rule.payload) = .ok rules := by
  refine ⟨fun rules => ⟨?_, listOf_map Rule.check_payload rules⟩,
    fun entries => ⟨?_, listOf_map HistoryEntry.check_payload entries⟩, ?_⟩
  · simp [Function.comp_def, Rule.withoutNulls_toDatum]
  · simp [Function.comp_def, HistoryEntry.withoutNulls_toDatum]
  · intro data rules _
    exact Rule.checkAll_payloads rules

/-- Two raw rules with nulls, unknown keys, fields left out and a truth value given as a word. -/
theorem payloads_read_again_of_raw :
    let data : List Datum :=
      [.object [("id", .text "off"), ("when", .text "true"), ("then", .list
          [.object [("type", .text "gate"), ("reason", .null), ("weight", .whole 1)],
            .object [("code", .text "LATE"), ("type", .text "flag")]]),
          ("description", .null), ("enabled", .text "no")],
        .object [("enabled", .null), ("then", .list [.object [("type", .text "gate"),
          ("dimension", .text "demand"), ("action", .text "fail")]]), ("when", .text "x > 1"),
          ("id", .text "unset")]]
    let rules : List Rule :=
      [⟨⟨"off", by decide⟩, ⟨"true", by decide⟩,
          [.gate .overall .review none, .flag ⟨"LATE", by decide⟩ none], none, none, some false⟩,
        ⟨⟨"unset", by decide⟩, ⟨"x > 1", by decide⟩, [.gate (.dimension .demand) .fail none], none,
          none, none⟩]
    Rule.checkAll data = .ok rules ∧ Rule.checkAll (rules.map Rule.payload) = .ok rules := by
  intro data rules
  have accepted : Rule.checkAll data = .ok rules := by
    decide +kernel
  exact ⟨accepted, payloads_read_again.2.2 data rules accepted⟩

end Appraisal
