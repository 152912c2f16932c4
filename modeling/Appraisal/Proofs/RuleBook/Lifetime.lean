import Appraisal.Proofs.RuleBook.Stages
import Appraisal.Proofs.RuleBook.Trail

/-!
# Lifetimes of rows

What a table shows of the rules and of the history depends on two writings only: the last one of
either row, and whether its lifetime is over.  A shelf keeps these two writings, and each change of
a rule book replaces both, with what is still to be seen at its instant (`Shelf.write`).  A table
shows at any instant what its shelf does (`shown_after_calls`).

A lifetime may be zero or negative, and it may lead out of the calendar.  A change whose rules cannot
be written for that leaves both rows alone; one whose history cannot be written has replaced the
rules.
-/

namespace Appraisal.Ledger

open Validation

/-- The table does not fail. -/
structure Working (here : Circumstance) : Prop where
  reading : here.readFailure = none
  writing : here.writeFailure = none

/-- A row that is written with some lifetime ends within the calendar. -/
def InReach (here : Circumstance) (lifetime : Int) : Prop :=
  ∃ ending, here.now.later lifetime = .ok ending

instance (here : Circumstance) (lifetime : Int) : Decidable (InReach here lifetime) :=
  match ended : here.now.later lifetime with
  | .ok ending => .isTrue ⟨ending, ended⟩
  | .error fault => .isFalse fun ⟨ending, other⟩ => by simp [ended] at other

/-- The table after some calls, each in its circumstance, that began with an empty one. -/
def tableAfter (plan : LedgerPlan) (calls : List (Circumstance × Call)) : Table :=
  calls.foldl (fun table entry => (answer plan entry.1 entry.2 table).2.2) .empty

/-- A list that was written, and when. -/
structure Kept (α : Type) where
  items : List α
  /-- The instant of the writing. -/
  written : Time.Instant

namespace Kept

variable {α : Type}

/-- When a lifetime that starts with the writing is over. -/
def ending (lifetime : Int) (kept : Kept α) : Time.Instant :=
  ⟨kept.written.microseconds + lifetime * 1000000⟩

/-- All of the list before the end of its lifetime; nothing at the end and later. -/
def seen (lifetime : Int) (now : Time.Instant) : Option (Kept α) → List α
  | none => []
  | some kept =>
      if now.microseconds < (kept.ending lifetime).microseconds then kept.items else []

/-- The row of a list. -/
def row (write : α → Datum) (lifetime : Int) (kept : Kept α) : Row :=
  ⟨.list (kept.items.map write), .at (kept.ending lifetime)⟩

end Kept

/-- The last rules and the last history that were written, if any were. -/
structure Shelf where
  rules : Option (Kept Rule)
  history : Option (Kept HistoryEntry)

namespace Shelf

/-- Nothing written. -/
def empty : Shelf := ⟨none, none⟩

/-- Write the history that is still to be seen, with one more entry and cut to its latest ones. -/
def record (plan : LedgerPlan) (here : Circumstance) (entry : HistoryEntry) (shelf : Shelf) :
    Shelf :=
  let entries := Kept.seen plan.historyLifetime here.now shelf.history ++ [entry]
  if InReach here plan.historyLifetime then
    { shelf with history := some ⟨entries.rtake (max plan.limit 0).toNat, here.now⟩ }
  else shelf

/-- Write a list of rules without a repeated name, and record that in the history. -/
def write (plan : LedgerPlan) (here : Circumstance) (actor : String) (rules : List Rule)
    (shelf : Shelf) : Shelf :=
  if (rules.map Rule.id).Nodup ∧ InReach here plan.rulesLifetime then
    record plan here ⟨here.moment, actor, rules⟩ { shelf with rules := some ⟨rules, here.now⟩ }
  else shelf

/-- What a call makes of a shelf; one rule is put among those that are still to be seen. -/
def next (plan : LedgerPlan) (here : Circumstance) (shelf : Shelf) : Call → Shelf
  | .upsert rule actor =>
      shelf.write plan here actor
        (rule.upsertIn (Kept.seen plan.rulesLifetime here.now shelf.rules))
  | .replaceAll rules actor => shelf.write plan here actor rules
  | _ => shelf

/-- The shelf after some calls. -/
def after (plan : LedgerPlan) (calls : List (Circumstance × Call)) : Shelf :=
  calls.foldl (fun shelf entry => shelf.next plan entry.1 entry.2) empty

end Shelf

/-- The rows of a table are those of a shelf, whose rules have distinct names. -/
structure Shelved (plan : LedgerPlan) (table : Table) (shelf : Shelf) : Prop where
  rules : table.get? rulesKey = shelf.rules.map (Kept.row Rule.payload plan.rulesLifetime)
  history :
    table.get? historyKey = shelf.history.map (Kept.row HistoryEntry.payload plan.historyLifetime)
  distinct : ∀ kept ∈ shelf.rules, (kept.items.map Rule.id).Nodup

section Rows

variable {plan : LedgerPlan} {here : Circumstance} {table : Table} {key : String} {α : Type}
  {write : α → Datum} {lifetime : Int}

/-- What is seen of a list is what is loaded of its row. -/
theorem load_of_kept {check : Check α} (again : ∀ value, check (write value) = .ok value)
    {kept : Option (Kept α)} (found : table.get? key = kept.map (Kept.row write lifetime))
    (working : Working here) :
    load (listOf check) plan here table key = .ok (Kept.seen lifetime here.now kept) := by
  cases kept with
  | none =>
      rw [load, fetch, working.reading, found]
      rfl
  | some kept =>
      rw [load, fetch, working.reading, found, Kept.seen]
      -- A lifetime is over at its very end.
      by_cases lasting : here.now.microseconds < (kept.ending lifetime).microseconds
      · have unpassed : (kept.ending lifetime).atMost here.now = false :=
          decide_eq_false (by omega)
        simp only [Option.map_some, Kept.row, Expiry.hasPassed, unpassed, if_pos lasting, bind,
          Except.bind]
        rw [listOf_map again]
        rfl
      · have passed : (kept.ending lifetime).atMost here.now = true :=
          decide_eq_true (by omega)
        simp only [Option.map_some, Kept.row, Expiry.hasPassed, passed, if_neg lasting]
        rfl

/-- A lifetime that stays within the calendar ends as many seconds after its start. -/
theorem later_of_inReach (within : InReach here lifetime) :
    here.now.later lifetime = .ok ⟨here.now.microseconds + lifetime * 1000000⟩ := by
  obtain ⟨ending, ended⟩ := within
  rw [Time.Instant.later] at ended ⊢
  split_ifs at ended ⊢
  rfl

theorem save_of_inReach (within : InReach here lifetime) (working : Working here)
    (items : List α) :
    save plan here key lifetime (.list (items.map write)) table =
      .ok (table.put key (Kept.row write lifetime ⟨items, here.now⟩)) :=
  save_eq_ok (later_of_inReach within) working.writing _

theorem save_of_not_inReach (plan : LedgerPlan) (table : Table) (key : String)
    (beyond : ¬ InReach here lifetime) (value : Datum) :
    ∃ fault, save plan here key lifetime value table = .error fault := by
  cases ended : here.now.later lifetime with
  | ok ending => exact absurd ⟨ending, ended⟩ beyond
  | error fault => exact ⟨.lifetime fault, by rw [save, ended]⟩

end Rows

section Changes

variable {plan : LedgerPlan} {here : Circumstance} {table : Table} {shelf : Shelf}

/-- A rule that is put into a list without a repeated name repeats none. -/
theorem nodup_upsertIn (rule : Rule) {rules : List Rule} (distinct : (rules.map Rule.id).Nodup) :
    ((rule.upsertIn rules).map Rule.id).Nodup := by
  have listed := Roster.rules_ofRules distinct
  rw [← listed, ← Roster.rules_put, Roster.ids_rules]
  exact ((Roster.ofRules rules).put rule).distinct

theorem Shelved.put_rules (shelved : Shelved plan table shelf) {rules : List Rule}
    (distinct : (rules.map Rule.id).Nodup) (now : Time.Instant) :
    Shelved plan (table.put rulesKey (Kept.row Rule.payload plan.rulesLifetime ⟨rules, now⟩))
      { shelf with rules := some ⟨rules, now⟩ } where
  rules := by
    rw [Table.get?_put, if_pos rfl]
    rfl
  history := by
    rw [get?_put_of_ne rulesKey_ne_historyKey.symm]
    exact shelved.history
  distinct := by
    rintro kept ⟨⟩
    exact distinct

theorem Shelved.put_history (shelved : Shelved plan table shelf) (entries : List HistoryEntry)
    (now : Time.Instant) :
    Shelved plan
      (table.put historyKey (Kept.row HistoryEntry.payload plan.historyLifetime ⟨entries, now⟩))
      { shelf with history := some ⟨entries, now⟩ } where
  rules := by
    rw [get?_put_of_ne rulesKey_ne_historyKey]
    exact shelved.rules
  history := by
    rw [Table.get?_put, if_pos rfl]
    rfl
  distinct := shelved.distinct

/-- The stages of a change that are about the history write what is recorded on the shelf. -/
theorem run_loadingHistory (shelved : Shelved plan table shelf) (working : Working here)
    (actor : String) (entry : HistoryEntry) (heres : List Circumstance) :
    let final := Writer.run plan (here :: here :: heres) table ⟨actor, .loadingHistory entry⟩
    Shelved plan final.1 (shelf.record plan here entry) ∧
      (final.2.stage.reply = .ok .done ↔ InReach here plan.historyLifetime) := by
  intro final
  let entries := HistoryEntry.capped plan.limit
    (Kept.seen plan.historyLifetime here.now shelf.history ++ [entry])
  have loaded : Writer.next plan here table ⟨actor, .loadingHistory entry⟩ =
      (table, ⟨actor, .savingHistory entry entries⟩) := by
    rw [Writer.next, Stage.next, loadHistory,
      load_of_kept HistoryEntry.check_payload shelved.history working]
  rw [Shelf.record]
  by_cases within : InReach here plan.historyLifetime
  · -- Both stages go through, and the reading was of what the shelf shows.
    let written := table.put historyKey
      (Kept.row HistoryEntry.payload plan.historyLifetime ⟨entries, here.now⟩)
    have saved : Writer.next plan here table ⟨actor, .savingHistory entry entries⟩ =
        (written, ⟨actor, .done entry.rules⟩) := by
      rw [Writer.next, Stage.next, saveHistory, save_of_inReach within working]
    have final_eq : final = (written, ⟨actor, .done entry.rules⟩) := by
      simp only [final, Writer.run, loaded, saved]
      exact run_of_ended rfl heres
    have bound : (max plan.limit 0).toNat = plan.limit.toNat := by omega
    rw [final_eq, if_pos within, bound, ← HistoryEntry.capped_eq_rtake]
    exact ⟨shelved.put_history entries here.now, fun _ => within, fun _ => rfl⟩
  · obtain ⟨fault, failed⟩ := save_of_not_inReach plan table historyKey within
      (.list (entries.map HistoryEntry.payload))
    have stopped : Writer.next plan here table ⟨actor, .savingHistory entry entries⟩ =
        (table, ⟨actor, .failed fault⟩) := by
      rw [Writer.next, Stage.next, saveHistory, failed]
    have final_eq : final = (table, ⟨actor, .failed fault⟩) := by
      simp only [final, Writer.run, loaded, stopped]
      exact run_of_ended rfl heres
    rw [final_eq, if_neg within]
    exact ⟨shelved, by rintro ⟨⟩, fun reached => absurd reached within⟩

/-- A change writes both rows exactly if no name is repeated and both ends are in reach. -/
def GoesThrough (plan : LedgerPlan) (here : Circumstance) (rules : List Rule) : Prop :=
  (rules.map Rule.id).Nodup ∧ InReach here plan.rulesLifetime ∧ InReach here plan.historyLifetime

/-- A change of the rules to a list does to the table what it does to the shelf. -/
theorem run_proposing (shelved : Shelved plan table shelf) (working : Working here)
    (rules : List Rule) (actor : String) (heres : List Circumstance) :
    let final := Writer.run plan (here :: here :: here :: heres) table ⟨actor, .proposing rules⟩
    Shelved plan final.1 (shelf.write plan here actor rules) ∧
      (final.2.stage.reply = .ok .done ↔ GoesThrough plan here rules) := by
  intro final
  rw [Shelf.write, GoesThrough]
  cases found : Rule.repeated? [] rules with
  | some id =>
      have repeated : ¬ (rules.map Rule.id).Nodup := by
        intro distinct
        have unrepeated := (Rule.repeated?_eq_none_iff [] rules).mpr ⟨distinct, by simp⟩
        rw [unrepeated] at found
        contradiction
      have final_eq : final = (table, ⟨actor, .failed (.repeated ⟨id⟩)⟩) := by
        simp only [final, Stage.proposing, found]
        exact run_of_ended rfl _
      rw [final_eq, if_neg fun both => repeated both.1]
      exact ⟨shelved, by rintro ⟨⟩, fun through => absurd through.1 repeated⟩
  | none =>
      have distinct := ((Rule.repeated?_eq_none_iff [] rules).mp found).1
      by_cases within : InReach here plan.rulesLifetime
      · let written := table.put rulesKey
          (Kept.row Rule.payload plan.rulesLifetime ⟨rules, here.now⟩)
        let entry : HistoryEntry := ⟨here.moment, actor, rules⟩
        have saved : Writer.next plan here table ⟨actor, .savingRules rules⟩ =
            (written, ⟨actor, .loadingHistory entry⟩) := by
          rw [Writer.next, Stage.next, saveRules, save_of_inReach within working]
        have final_eq : final =
            Writer.run plan (here :: here :: heres) written ⟨actor, .loadingHistory entry⟩ := by
          simp only [final, Stage.proposing, found]
          rw [Writer.run, saved]
        obtain ⟨still_shelved, answered⟩ := run_loadingHistory
          (shelved.put_rules distinct here.now) working actor entry heres
        rw [final_eq, if_pos ⟨distinct, within⟩]
        exact ⟨still_shelved, by simpa [distinct, within] using answered⟩
      · obtain ⟨fault, failed⟩ := save_of_not_inReach plan table rulesKey within
          (.list (rules.map Rule.payload))
        have stopped : Writer.next plan here table ⟨actor, .savingRules rules⟩ =
            (table, ⟨actor, .failed fault⟩) := by
          rw [Writer.next, Stage.next, saveRules, failed]
        have final_eq : final = (table, ⟨actor, .failed fault⟩) := by
          simp only [final, Stage.proposing, found]
          rw [Writer.run, stopped]
          exact run_of_ended rfl _
        rw [final_eq, if_neg fun both => within both.2]
        exact ⟨shelved, by rintro ⟨⟩, fun through => absurd through.2.1 within⟩

end Changes

/-! ## Calls -/

section Calls

variable {plan : LedgerPlan} {here : Circumstance} {table : Table} {shelf : Shelf}

theorem loadRules_of_shelved (shelved : Shelved plan table shelf) (working : Working here) :
    loadRules plan here table = .ok (Kept.seen plan.rulesLifetime here.now shelf.rules) :=
  load_of_kept Rule.check_payload shelved.rules working

theorem loadHistory_of_shelved (shelved : Shelved plan table shelf) (working : Working here) :
    loadHistory plan here table = .ok (Kept.seen plan.historyLifetime here.now shelf.history) :=
  load_of_kept HistoryEntry.check_payload shelved.history working

theorem nodup_seen (shelved : Shelved plan table shelf) (lifetime : Int) (now : Time.Instant) :
    ((Kept.seen lifetime now shelf.rules).map Rule.id).Nodup := by
  cases found : shelf.rules with
  | none => exact .nil
  | some kept =>
      rw [Kept.seen]
      split
      · exact shelved.distinct kept found
      · exact .nil

theorem answer_replaceAll_of_shelved (shelved : Shelved plan table shelf) (working : Working here)
    (rules : List Rule) (actor : String) :
    let answered := answer plan here (.replaceAll rules actor) table
    Shelved plan answered.2.2 (shelf.next plan here (.replaceAll rules actor)) ∧
      (answered.1 = .ok .done ↔ GoesThrough plan here rules) := by
  intro answered
  obtain ⟨reply_eq, table_eq⟩ : answered.1 = _ ∧ answered.2.2 = _ := answer_eq_run rfl here table
  rw [reply_eq, table_eq]
  exact run_proposing shelved working rules actor [here]

/-- One rule that is put among those to be seen is refused for the ends of the rows only. -/
theorem answer_upsert_of_shelved (shelved : Shelved plan table shelf) (working : Working here)
    (rule : Rule) (actor : String) :
    let answered := answer plan here (.upsert rule actor) table
    Shelved plan answered.2.2 (shelf.next plan here (.upsert rule actor)) ∧
      (answered.1 = .ok .done ↔
        InReach here plan.rulesLifetime ∧ InReach here plan.historyLifetime) := by
  intro answered
  let proposed := rule.upsertIn (Kept.seen plan.rulesLifetime here.now shelf.rules)
  have distinct : (proposed.map Rule.id).Nodup := nodup_upsertIn rule (nodup_seen shelved _ _)
  have loaded : Writer.next plan here table ⟨actor, .loadingRules rule⟩ =
      (table, ⟨actor, .proposing proposed⟩) := by
    rw [Writer.next, Stage.next, loadRules_of_shelved shelved working]
  obtain ⟨reply_eq, table_eq⟩ : answered.1 = _ ∧ answered.2.2 = _ := answer_eq_run rfl here table
  obtain ⟨still_shelved, replied⟩ := run_proposing shelved working proposed actor []
  have run_eq : Writer.run plan (List.replicate 4 here) table ⟨actor, .loadingRules rule⟩ =
      Writer.run plan [here, here, here] table ⟨actor, .proposing proposed⟩ := by
    rw [List.replicate_succ, Writer.run, loaded]
    rfl
  rw [reply_eq, table_eq, run_eq]
  exact ⟨still_shelved, by simpa [GoesThrough, distinct] using replied⟩

/-- A call does to the table what it does to the shelf. -/
theorem shelved_answer (shelved : Shelved plan table shelf) (working : Working here) (call : Call) :
    Shelved plan (answer plan here call table).2.2 (shelf.next plan here call) := by
  cases call with
  | upsert rule actor => exact (answer_upsert_of_shelved shelved working rule actor).1
  | replaceAll rules actor => exact (answer_replaceAll_of_shelved shelved working rules actor).1
  | list | listAll | evaluateActive stack context =>
      rw [answer, loadRules_of_shelved shelved working]
      exact shelved
  | history =>
      rw [answer, loadHistory_of_shelved shelved working]
      exact shelved
  | evaluate stack rules context => exact shelved

theorem shelved_foldl {calls : List (Circumstance × Call)}
    (working : ∀ entry ∈ calls, Working entry.1) (shelved : Shelved plan table shelf) :
    Shelved plan (calls.foldl (fun table entry => (answer plan entry.1 entry.2 table).2.2) table)
      (calls.foldl (fun shelf entry => shelf.next plan entry.1 entry.2) shelf) := by
  induction calls generalizing table shelf with
  | nil => exact shelved
  | cons first others induction =>
      rw [List.forall_mem_cons] at working
      exact induction working.2 (shelved_answer shelved working.1 first.2)

theorem shelved_empty (plan : LedgerPlan) : Shelved plan .empty .empty :=
  ⟨rfl, rfl, by rintro kept ⟨⟩⟩

/-- Some calls do to an empty table what they do to an empty shelf. -/
theorem shelved_after (plan : LedgerPlan) {calls : List (Circumstance × Call)}
    (working : ∀ entry ∈ calls, Working entry.1) :
    Shelved plan (tableAfter plan calls) (Shelf.after plan calls) :=
  shelved_foldl working (shelved_empty plan)

/--
After some calls on an empty table that does not fail, the rules that it lists at any instant are
those of the last writing if their lifetime is not over then, and otherwise none; and so is its
history.  What the writings are is told by the shelf.  One rule can always be put into the table,
and a list exactly if it repeats no name, as long as both rows end within the calendar.
-/
theorem shown_after_calls (plan : LedgerPlan) {calls : List (Circumstance × Call)}
    (working : ∀ entry ∈ calls, Working entry.1) {here : Circumstance}
    (here_working : Working here) :
    let table := tableAfter plan calls
    let shelf := Shelf.after plan calls
    (answer plan here .listAll table).1 =
        .ok (.rules (Kept.seen plan.rulesLifetime here.now shelf.rules)) ∧
      (answer plan here .history table).1 =
        .ok (.history (Kept.seen plan.historyLifetime here.now shelf.history)) ∧
      (∀ rule actor, (answer plan here (.upsert rule actor) table).1 = .ok .done ↔
        InReach here plan.rulesLifetime ∧ InReach here plan.historyLifetime) ∧
      ∀ rules actor, (answer plan here (.replaceAll rules actor) table).1 = .ok .done ↔
        (rules.map Rule.id).Nodup ∧
          InReach here plan.rulesLifetime ∧ InReach here plan.historyLifetime := by
  intro table shelf
  have shelved : Shelved plan table shelf := shelved_after plan working
  refine ⟨?_, ?_, ?_, ?_⟩
  · rw [answer, loadRules_of_shelved shelved here_working]
    rfl
  · rw [answer, loadHistory_of_shelved shelved here_working]
    rfl
  · intro rule actor
    exact (answer_upsert_of_shelved shelved here_working rule actor).2
  · intro rules actor
    exact (answer_replaceAll_of_shelved shelved here_working rules actor).2

/--
A rule is put into a table at the very end of the lifetime of the first one, and seen alone five
seconds later; the history, which lives longer, holds both changes.
-/
theorem shown_after_two_lifetimes :
    let plan : LedgerPlan := ⟨"adaptive_kv", 10, 100, 50⟩
    let first : Rule := ⟨⟨"a", by decide⟩, ⟨"x", by decide⟩, [], none, none, none⟩
    let second : Rule := ⟨⟨"b", by decide⟩, ⟨"y", by decide⟩, [], none, none, some false⟩
    let start : Circumstance := ⟨⟨0⟩, 0, none, none⟩
    let ended : Circumstance := ⟨⟨10000000⟩, 10000, none, none⟩
    let here : Circumstance := ⟨⟨15000000⟩, 15000, none, none⟩
    let calls := [(start, .upsert first "one"), (ended, .upsert second "two")]
    (∀ entry ∈ calls, Working entry.1) ∧ Working here ∧
      (answer plan here .listAll (tableAfter plan calls)).1 = .ok (.rules [second]) ∧
      (answer plan here .history (tableAfter plan calls)).1 =
        .ok (.history [⟨0, "one", [first]⟩, ⟨10000, "two", [second]⟩]) := by
  intro plan first second start ended here calls
  have working : ∀ entry ∈ calls, Working entry.1 := by
    simp only [calls, List.forall_mem_cons]
    exact ⟨⟨rfl, rfl⟩, ⟨rfl, rfl⟩, by simp⟩
  have here_working : Working here := ⟨rfl, rfl⟩
  obtain ⟨rules_eq, history_eq, _⟩ := shown_after_calls plan working here_working
  exact ⟨working, here_working, rules_eq.trans rfl, history_eq.trans rfl⟩

/-- A rule is listed although the change that wrote it was answered with a failure. -/
theorem shown_after_failure :
    let plan : LedgerPlan := ⟨"adaptive_kv", 3600, 253402300800, 50⟩
    let rule : Rule := ⟨⟨"a", by decide⟩, ⟨"true", by decide⟩, [], none, none, none⟩
    let here : Circumstance := ⟨⟨0⟩, 0, none, none⟩
    let answered := answer plan here (.upsert rule "system") .empty
    Working here ∧ answered.1 = .error (.lifetime .beyondCalendar) ∧
      (answer plan here .listAll answered.2.2).1 = .ok (.rules [rule]) ∧
      (answer plan here .listAll answered.2.2).1 ≠ .ok (.rules []) := by
  intro plan rule here answered
  have working : Working here := ⟨rfl, rfl⟩
  have shelved := shelved_answer (shelved_empty plan) working (.upsert rule "system")
  have listed : (answer plan here .listAll answered.2.2).1 = .ok (.rules [rule]) := by
    rw [answer, loadRules_of_shelved shelved working]
    rfl
  refine ⟨working, rfl, listed, ?_⟩
  rw [listed]
  rintro ⟨⟩

end Calls

end Appraisal.Ledger
