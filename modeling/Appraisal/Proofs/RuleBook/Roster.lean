import Appraisal.RuleBook.Memory
import Mathlib.Data.List.Nodup

/-!
# Rosters

A roster is a map from names to rules that remembers the order in which names were entered: a rule
put under a known name takes the place of the old one, and a rule with a new name comes last.  A
rule book in memory is, call after call, the roster of the changes that went through.
-/

namespace Appraisal

/-- Rules by name, and the names in the order in which they were entered. -/
structure Roster where
  /-- The names, the earliest one first. -/
  names : List RuleId
  /-- The rule of a name. -/
  find : RuleId → Option Rule
  /-- No name is entered twice. -/
  distinct : names.Nodup
  /-- A name that is entered has a rule, and the rule has that name. -/
  named : ∀ name ∈ names, ∃ rule, find name = some rule ∧ rule.id = name
  /-- A name that is not entered has none. -/
  unnamed : ∀ name, name ∉ names → find name = none

namespace Roster

/-- The rules in the order of their names. -/
def rules (roster : Roster) : List Rule :=
  roster.names.filterMap roster.find

/-- Nothing entered. -/
def empty : Roster where
  names := []
  find _ := none
  distinct := .nil
  named := by simp
  unnamed := by simp

section Put

variable {names : List RuleId} {find : RuleId → Option Rule} {rule : Rule}

/-- The names after a rule was put under its own; a new name is entered last. -/
def enter (name : RuleId) (names : List RuleId) : List RuleId :=
  if names.contains name then names else names ++ [name]

theorem enter_of_mem {name : RuleId} (known : name ∈ names) : enter name names = names := by
  rw [enter, if_pos (List.contains_iff_mem.mpr known)]

theorem enter_of_not_mem {name : RuleId} (new : name ∉ names) :
    enter name names = names ++ [name] := by
  rw [enter, if_neg (mt List.contains_iff_mem.mp new)]

theorem mem_enter_iff (name other : RuleId) :
    other ∈ enter name names ↔ other ∈ names ∨ other = name := by
  by_cases known : name ∈ names
  · rw [enter_of_mem known]
    constructor
    · exact .inl
    · rintro (member | rfl)
      · exact member
      · exact known
  · rw [enter_of_not_mem known, List.mem_append, List.mem_singleton]

theorem nodup_enter (distinct : names.Nodup) (name : RuleId) : (enter name names).Nodup := by
  by_cases known : name ∈ names
  · rwa [enter_of_mem known]
  · rw [enter_of_not_mem known, List.nodup_append]
    refine ⟨distinct, List.nodup_singleton name, ?_⟩
    intro other member again again_member same
    rw [List.mem_singleton] at again_member
    rw [same, again_member] at member
    exact known member

theorem enter_cons_of_ne {first name : RuleId} (different : first ≠ name) :
    enter name (first :: names) = first :: enter name names := by
  by_cases known : name ∈ names
  · rw [enter_of_mem known, enter_of_mem (List.mem_cons_of_mem first known)]
  · have new : name ∉ first :: names := by
      simp [known, different.symm]
    rw [enter_of_not_mem known, enter_of_not_mem new, List.cons_append]

theorem named_update (named : ∀ name ∈ names, ∃ rule, find name = some rule ∧ rule.id = name) :
    ∀ name ∈ enter rule.id names,
      ∃ other, Function.update find rule.id (some rule) name = some other ∧ other.id = name := by
  intro name member
  by_cases same : name = rule.id
  · subst same
    exact ⟨rule, Function.update_self .., rfl⟩
  · rw [Function.update_of_ne same]
    rcases (mem_enter_iff _ _).mp member with member | entered
    · exact named name member
    · exact absurd entered same

theorem unnamed_update (unnamed : ∀ name, name ∉ names → find name = none) :
    ∀ name, name ∉ enter rule.id names →
      Function.update find rule.id (some rule) name = none := by
  intro name absent
  rw [mem_enter_iff, not_or] at absent
  obtain ⟨new, different⟩ := absent
  rw [Function.update_of_ne different]
  exact unnamed name new

end Put

/-- Put a rule under its name. -/
def put (rule : Rule) (roster : Roster) : Roster where
  names := enter rule.id roster.names
  find := Function.update roster.find rule.id (some rule)
  distinct := nodup_enter roster.distinct rule.id
  named := named_update roster.named
  unnamed := unnamed_update roster.unnamed

/-- The roster of a list of rules, put one after the other. -/
def ofRules (rules : List Rule) : Roster :=
  rules.foldl (fun roster rule => roster.put rule) empty

/-- The roster after a call: a list with a repeated name changes nothing. -/
def changed (roster : Roster) : Call → Roster
  | .upsert rule _ => roster.put rule
  | .replaceAll rules _ => if (rules.map Rule.id).Nodup then ofRules rules else roster
  | _ => roster

theorem ids_filterMap {names : List RuleId} {find : RuleId → Option Rule}
    (named : ∀ name ∈ names, ∃ rule, find name = some rule ∧ rule.id = name) :
    (names.filterMap find).map Rule.id = names := by
  induction names with
  | nil => rfl
  | cons name others induction =>
      rw [List.forall_mem_cons] at named
      obtain ⟨⟨rule, found, rule_id⟩, others_named⟩ := named
      rw [List.filterMap_cons_some found, List.map_cons, rule_id, induction others_named]

/-- The rules have the names that are entered, in order. -/
theorem ids_rules (roster : Roster) : roster.rules.map Rule.id = roster.names :=
  ids_filterMap roster.named

/-- Replacing or appending a rule in a row is putting it under its name. -/
theorem upsertIn_filterMap (rule : Rule) {names : List RuleId} {find : RuleId → Option Rule}
    (distinct : names.Nodup)
    (named : ∀ name ∈ names, ∃ rule, find name = some rule ∧ rule.id = name) :
    rule.upsertIn (names.filterMap find) =
      (enter rule.id names).filterMap (Function.update find rule.id (some rule)) := by
  induction names with
  | nil => simp [enter, Rule.upsertIn]
  | cons name others induction =>
      rw [List.nodup_cons] at distinct
      obtain ⟨once, others_distinct⟩ := distinct
      rw [List.forall_mem_cons] at named
      obtain ⟨⟨existing, found, rfl⟩, others_named⟩ := named
      rw [List.filterMap_cons_some found, Rule.upsertIn]
      by_cases same : existing.id = rule.id
      · have untouched : others.filterMap (Function.update find rule.id (some rule)) =
            others.filterMap find := by
          apply List.filterMap_congr
          intro name member
          apply Function.update_of_ne
          rintro rfl
          exact once (same ▸ member)
        have replaced : Function.update find rule.id (some rule) existing.id = some rule := by
          rw [same, Function.update_self]
        have known : rule.id ∈ existing.id :: others := same ▸ List.mem_cons_self
        rw [if_pos same, enter_of_mem known, List.filterMap_cons_some replaced, untouched]
      · have kept : Function.update find rule.id (some rule) existing.id = some existing := by
          rw [Function.update_of_ne same, found]
        rw [if_neg same, induction others_distinct others_named, enter_cons_of_ne same,
          List.filterMap_cons_some kept]

theorem rules_put (rule : Rule) (roster : Roster) :
    (roster.put rule).rules = rule.upsertIn roster.rules :=
  (upsertIn_filterMap rule roster.distinct roster.named).symm

theorem rules_foldl_put {rules : List Rule} {roster : Roster}
    (distinct : (roster.names ++ rules.map Rule.id).Nodup) :
    (rules.foldl (fun roster rule => roster.put rule) roster).rules = roster.rules ++ rules := by
  induction rules generalizing roster with
  | nil => simp
  | cons rule others induction =>
      have new : rule.id ∉ roster.names := by
        intro known
        have apart := (List.nodup_append.mp distinct).2.2
        exact apart rule.id known rule.id (by simp) rfl
      have appended : (roster.put rule).rules = roster.rules ++ [rule] := by
        rw [rules_put, Rule.upsertIn_of_not_mem]
        rwa [ids_rules]
      have names_put : (roster.put rule).names = roster.names ++ [rule.id] :=
        enter_of_not_mem new
      rw [List.foldl_cons, induction, appended, List.append_assoc, List.singleton_append]
      rwa [names_put, List.append_assoc, List.singleton_append]

/-- The rules of a list with distinct names come in the order of the list. -/
theorem rules_ofRules {rules : List Rule} (distinct : (rules.map Rule.id).Nodup) :
    (ofRules rules).rules = rules :=
  rules_foldl_put distinct

end Roster

namespace MemoryBook

/-- The book after some calls, each at a moment. -/
def after (book : MemoryBook) (calls : List (Int × Call)) : MemoryBook :=
  calls.foldl (fun book call => (book.answer call.1 call.2).2.2) book

/-- A list with distinct names becomes the current one. -/
theorem write_of_distinct {rules : List Rule} (distinct : (rules.map Rule.id).Nodup) (moment : Int)
    (actor : String) (book : MemoryBook) :
    book.write moment actor rules =
      .ok ⟨rules, HistoryEntry.capped book.limit (book.history ++ [⟨moment, actor, rules⟩]),
        book.limit⟩ := by
  have unrepeated : Rule.repeated? [] rules = none := by
    rw [Rule.repeated?_eq_none_iff]
    exact ⟨distinct, by simp⟩
  rw [write, unrepeated]

/-- A list with a repeated name is refused. -/
theorem write_of_repeated {rules : List Rule} (repeated : ¬ (rules.map Rule.id).Nodup)
    (moment : Int) (actor : String) (book : MemoryBook) :
    ∃ refused, book.write moment actor rules = .error refused := by
  cases found : Rule.repeated? [] rules with
  | none => exact absurd ((Rule.repeated?_eq_none_iff [] rules).mp found).1 repeated
  | some id => exact ⟨⟨id⟩, by rw [write, found]⟩

section Mirrored

variable {book : MemoryBook} {roster : Roster}

/-- A change to one rule goes through if the book is a roster. -/
theorem answer_upsert (mirrored : book.rules = roster.rules) (moment : Int) (rule : Rule)
    (actor : String) :
    (book.answer moment (.upsert rule actor)).1 = .ok .done ∧
      (book.answer moment (.upsert rule actor)).2.2.rules = (roster.put rule).rules := by
  have distinct : ((rule.upsertIn book.rules).map Rule.id).Nodup := by
    rw [mirrored, ← Roster.rules_put, Roster.ids_rules]
    exact (roster.put rule).distinct
  have written := write_of_distinct distinct moment actor book
  rw [answer, upsert, written, changed, Roster.rules_put, mirrored]
  exact ⟨rfl, rfl⟩

/-- One call changes a book as it changes its roster. -/
theorem rules_answer (mirrored : book.rules = roster.rules) (moment : Int) (call : Call) :
    (book.answer moment call).2.2.rules = (roster.changed call).rules := by
  cases call with
  | upsert rule actor => exact (answer_upsert mirrored moment rule actor).2
  | replaceAll rules actor =>
      rw [Roster.changed]
      split
      · rename_i distinct
        rw [answer, write_of_distinct distinct, changed, Roster.rules_ofRules distinct]
      · rename_i repeated
        obtain ⟨refused, refused_eq⟩ := write_of_repeated repeated moment actor book
        rw [answer, refused_eq, changed, mirrored]
  | _ => exact mirrored

/-- Some calls change a book as they change its roster. -/
theorem rules_after (mirrored : book.rules = roster.rules) (calls : List (Int × Call)) :
    (book.after calls).rules =
      (calls.foldl (fun roster call => roster.changed call.2) roster).rules := by
  induction calls generalizing book roster with
  | nil => exact mirrored
  | cons call others induction => exact induction (rules_answer mirrored call.1 call.2)

end Mirrored

/--
Whatever was called on a book whose rules had distinct names, it holds the rules of the roster to
which the same calls were made, and distinct names again.  It lists these rules, puts any one rule
among them, and refuses exactly the lists with a repeated name, which leave it as it was.
-/
theorem answer_after_calls {rules : List Rule} (distinct : (rules.map Rule.id).Nodup)
    (limit : Int) (calls : List (Int × Call)) (moment : Int) :
    let book := (ofRules rules limit).after calls
    let roster := calls.foldl (fun roster call => roster.changed call.2) (Roster.ofRules rules)
    (book.rules.map Rule.id).Nodup ∧
      (book.answer moment .listAll).1 = .ok (.rules roster.rules) ∧
      (book.answer moment .list).1 =
        .ok (.rules (roster.rules.filter fun rule => rule.enabled ≠ some false)) ∧
      (∀ rule actor, (book.answer moment (.upsert rule actor)).1 = .ok .done) ∧
      ∀ others actor,
        ((others.map Rule.id).Nodup →
            (book.answer moment (.replaceAll others actor)).1 = .ok .done) ∧
          (¬ (others.map Rule.id).Nodup →
            ∃ refused,
              book.answer moment (.replaceAll others actor) = (.error refused, [], book)) := by
  intro book roster
  have mirrored : book.rules = roster.rules :=
    rules_after (Roster.rules_ofRules distinct).symm calls
  refine ⟨?_, ?_, ?_, ?_, ?_⟩
  · rw [mirrored, Roster.ids_rules]
    exact roster.distinct
  · rw [answer, mirrored]
  · have enabled_eq : Rule.isEnabled = fun rule => decide (rule.enabled ≠ some false) := by
      funext rule
      rw [Rule.isEnabled, bne, beq_eq_decide, decide_not]
    rw [answer, mirrored, Rule.active, enabled_eq]
  · intro rule actor
    exact (answer_upsert mirrored moment rule actor).1
  · intro others actor
    constructor
    · intro others_distinct
      rw [answer, write_of_distinct others_distinct, changed]
    · intro repeated
      obtain ⟨refused, refused_eq⟩ := write_of_repeated repeated moment actor book
      exact ⟨refused, by rw [answer, refused_eq, changed]⟩

/-- A new rule, a refused list and a replaced rule. -/
theorem answer_after_three_calls :
    let first : Rule := ⟨⟨"a", by decide⟩, ⟨"x", by decide⟩, [], none, none, none⟩
    let second : Rule := ⟨⟨"b", by decide⟩, ⟨"y", by decide⟩, [], none, none, some false⟩
    let other : Rule := ⟨⟨"a", by decide⟩, ⟨"z", by decide⟩, [], none, none, some true⟩
    let book := (ofRules [first] 10).after
      [(1, .upsert second "system"), (2, .replaceAll [second, second] "system"),
        (3, .upsert other "system")]
    ([first].map Rule.id).Nodup ∧
      (book.answer 4 .listAll).1 = .ok (.rules [other, second]) ∧
      (book.answer 4 .list).1 = .ok (.rules [other]) := by
  intro first second other book
  have distinct : ([first].map Rule.id).Nodup := List.nodup_singleton _
  obtain ⟨_, all_rules, enabled_rules, _⟩ := answer_after_calls distinct 10
    [(1, .upsert second "system"), (2, .replaceAll [second, second] "system"),
      (3, .upsert other "system")] 4
  refine ⟨distinct, all_rules.trans ?_, enabled_rules.trans ?_⟩
  · rfl
  · rfl

end MemoryBook

end Appraisal
