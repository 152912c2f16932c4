import Appraisal.Rule.Firing

/-!
# Rule books

A rule book holds the current rules and the history of their changes.  Changes replace or insert one
rule, or replace all of them; a rule list with a repeated name is refused.  The history keeps the
latest entries up to a limit, and none at all if the limit is not positive.
-/

namespace Appraisal

/-- What a rule book can be asked to do. -/
inductive Call
  /-- Put a rule in the place of the one with its name, or at the end. -/
  | upsert (rule : Rule) (actor : String)
  /-- Put a list of rules in the place of all. -/
  | replaceAll (rules : List Rule) (actor : String)
  /-- Give the enabled rules. -/
  | list
  /-- Give all rules. -/
  | listAll
  /-- Give the history. -/
  | history
  /-- Fire given rules in a context, on a stack with room for so many calls. -/
  | evaluate (stack : Nat) (rules : List Rule) (context : Datum)
  /-- Fire the enabled rules in a context, on a stack with room for so many calls. -/
  | evaluateActive (stack : Nat) (context : Datum)

/-- What a rule book answers when nothing fails; `done` answers a change. -/
inductive Reply
  | done
  | rules (rules : List Rule)
  | history (entries : List HistoryEntry)
  | fired (firing : Firing)
  | active (rules : List Rule) (firing : Firing)

/-- What a rule book reports about a call. -/
inductive Notice
  /-- A change was made; the list has so many rules now. -/
  | changed (count : Nat) (actor : String)
  /-- A row could not be read. -/
  | unreadable (key text : String)
  /-- A row could not be written. -/
  | unwritable (key text : String)
  deriving DecidableEq, Repr

/-- The log entry of a notice. -/
def Notice.entry : Notice → Log.Entry
  | .changed count actor =>
      Log.report Log.info "app.core.rule_engine" "rules-upsert"
        [("count", .whole count), ("actor", .text actor)]
  | .unreadable key text =>
      ⟨Log.error, "app.db.adaptive_rules", some "_get",
        "Failed to read " ++ key ++ ": " ++ text, []⟩
  | .unwritable key text =>
      ⟨Log.error, "app.db.adaptive_rules", some "_set",
        "Failed to write " ++ key ++ ": " ++ text, []⟩

/-- The log entries that belong to a reply. -/
def Reply.entries : Reply → List Log.Entry
  | .fired firing | .active _ firing => firing.entries
  | _ => []

namespace Rule

/-- Put a rule in the place of the first one with its name, or at the end. -/
def upsertIn (rule : Rule) : List Rule → List Rule
  | [] => [rule]
  | existing :: rules =>
      if existing.id = rule.id then rule :: rules else existing :: upsertIn rule rules

/-- The first name that occurs a second time, in the order of the second occurrences. -/
def repeated? (seen : List RuleId) : List Rule → Option RuleId
  | [] => none
  | rule :: rules =>
      if rule.id ∈ seen then some rule.id else repeated? (rule.id :: seen) rules

theorem upsertIn_of_not_mem {rule : Rule} {rules : List Rule} (absent : rule.id ∉ rules.map Rule.id) :
    rule.upsertIn rules = rules ++ [rule] := by
  induction rules with
  | nil => rfl
  | cons existing others induction =>
      rw [List.map_cons, List.mem_cons, not_or] at absent
      rw [upsertIn, if_neg (Ne.symm absent.1), induction absent.2, List.cons_append]

/-- No name is repeated exactly if the names are distinct and none of them has been seen. -/
theorem repeated?_eq_none_iff (seen : List RuleId) (rules : List Rule) :
    repeated? seen rules = none ↔
      (rules.map Rule.id).Nodup ∧ ∀ name ∈ rules.map Rule.id, name ∉ seen := by
  induction rules generalizing seen with
  | nil => simp [repeated?]
  | cons rule others induction =>
      rw [repeated?, List.map_cons, List.nodup_cons, List.forall_mem_cons]
      split
      · rename_i known
        simp [known]
      · rename_i new
        rw [induction]
        constructor
        · rintro ⟨distinct, others_new⟩
          refine ⟨⟨?_, distinct⟩, new, ?_⟩
          · intro again
            exact others_new rule.id again List.mem_cons_self
          · intro name member known
            exact others_new name member (List.mem_cons_of_mem rule.id known)
        · rintro ⟨⟨once, distinct⟩, _, others_new⟩
          refine ⟨distinct, ?_⟩
          intro name member known
          rcases List.mem_cons.mp known with rfl | known
          · exact once member
          · exact others_new name member known

/-- The rules that take part in evaluations. -/
def active (rules : List Rule) : List Rule :=
  rules.filter Rule.isEnabled

end Rule

namespace HistoryEntry

/-- The latest entries, up to a limit. -/
def capped (limit : Int) (entries : List HistoryEntry) : List HistoryEntry :=
  entries.drop (entries.length - limit.toNat)

end HistoryEntry

end Appraisal
