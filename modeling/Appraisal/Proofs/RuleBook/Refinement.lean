import Appraisal.Proofs.Rule.RoundTrip
import Appraisal.RuleBook.Store

/-!
# A table does what the memory does

A rule book in a table answers every call as a rule book in memory does, as long as nothing disturbs
the calls: the table does not fail, no row that is read has ended, and the ends of the rows that are
written lie within the calendar.  The two books go through a run side by side; between two calls the
rows of the table hold the payloads of the rules and of the history in memory (`Mirrors`).
-/

namespace Appraisal

open Validation

namespace Call

/-- Whether a call saves rows. -/
def Saves : Call → Prop
  | .upsert .. => True
  | .replaceAll rules _ => (rules.map Rule.id).Nodup
  | _ => False

/-- The keys of the rows that a call reads. -/
def reads : Call → List String
  | .upsert .. => [Ledger.rulesKey, Ledger.historyKey]
  | .replaceAll rules _ => if (rules.map Rule.id).Nodup then [Ledger.historyKey] else []
  | .list | .listAll | .evaluateActive .. => [Ledger.rulesKey]
  | .history => [Ledger.historyKey]
  | .evaluate .. => []

end Call

namespace Ledger

/-- A row can be read and has not ended, if there is one. -/
structure Readable (here : Circumstance) (table : Table) (key : String) : Prop where
  working : here.readFailure = none
  current : ∀ row, table.get? key = some row → row.expiry.hasPassed here.now = .ok false

/-- The table does not fail during a call, and the rows that the call reads have not ended. -/
structure Undisturbed (here : Circumstance) (call : Call) (table : Table) : Prop where
  reading : ∀ key ∈ call.reads, Readable here table key
  saving : call.Saves → here.writeFailure = none

/-- The rows that a call writes end within the calendar. -/
def EndsInCalendar (plan : LedgerPlan) (here : Circumstance) (call : Call) : Prop :=
  call.Saves →
    (∃ ending, here.now.later plan.rulesLifetime = .ok ending) ∧
      ∃ ending, here.now.later plan.historyLifetime = .ok ending

/-- No call of a row of calls is disturbed. -/
def UndisturbedRun (plan : LedgerPlan) : List (Circumstance × Call) → Table → Prop
  | [], _ => True
  | (here, call) :: calls, table =>
      Undisturbed here call table ∧ UndisturbedRun plan calls (answer plan here call table).2.2

/-- A row holds a list; a missing row holds the empty one. -/
def Holds (table : Table) (key : String) (items : List Datum) : Prop :=
  (table.get? key = none ∧ items = []) ∨ ∃ expiry, table.get? key = some ⟨.list items, expiry⟩

/-- The rows of a table hold what a book in memory does. -/
structure Mirrors (plan : LedgerPlan) (table : Table) (book : MemoryBook) : Prop where
  limit : book.limit = plan.limit
  rules : Holds table rulesKey (book.rules.map Rule.payload)
  history : Holds table historyKey (book.history.map HistoryEntry.payload)

theorem rulesKey_ne_historyKey : rulesKey ≠ historyKey := by
  decide

section Rows

variable {plan : LedgerPlan} {here : Circumstance} {table : Table} {key : String}

/-- What a readable row holds is loaded. -/
theorem load_of_holds {α : Type} {check : Check α} {write : α → Datum}
    (again : ∀ value, check (write value) = .ok value) {values : List α}
    (holds : Holds table key (values.map write)) (readable : Readable here table key) :
    load (listOf check) plan here table key = .ok values := by
  obtain ⟨working, current⟩ := readable
  rcases holds with ⟨missing, empty⟩ | ⟨expiry, found⟩
  · have nothing : values = [] := List.map_eq_nil_iff.mp empty
    rw [load, fetch, working, missing, nothing]
    rfl
  · have lasting := current _ found
    rw [load, fetch, working, found]
    simp only [lasting, bind, Except.bind]
    rw [listOf_map again]
    rfl

/-- A row is saved if its end is within the calendar. -/
theorem save_eq_ok {lifetime : Int} {ending : Time.Instant}
    (later : here.now.later lifetime = .ok ending) (working : here.writeFailure = none)
    (value : Datum) :
    save plan here key lifetime value table = .ok (table.put key ⟨value, .at ending⟩) := by
  rw [save, later, working]

theorem holds_put (items : List Datum) (expiry : Expiry) :
    Holds (table.put key ⟨.list items, expiry⟩) key items := by
  refine .inr ⟨expiry, ?_⟩
  rw [Table.get?_put, if_pos rfl]

/-- A row stays as it is when another one is written. -/
theorem get?_put_of_ne {other : String} (different : other ≠ key) (row : Row) :
    (table.put key row).get? other = table.get? other := by
  rw [Table.get?_put, if_neg different]

end Rows

section Step

variable {plan : LedgerPlan} {here : Circumstance} {table : Table} {book : MemoryBook}

/-- What a change needs once its rules are settled. -/
structure Writable (plan : LedgerPlan) (here : Circumstance) (table : Table) : Prop where
  readable : Readable here table historyKey
  working : here.writeFailure = none
  rulesEnd : ∃ ending, here.now.later plan.rulesLifetime = .ok ending
  historyEnd : ∃ ending, here.now.later plan.historyLifetime = .ok ending

/-- Saving a list of rules goes on to its end and mirrors the book with that list. -/
theorem complete_savingRules (mirrors : Mirrors plan table book)
    (writable : Writable plan here table) (rules : List Rule) (actor : String) (count : Nat) :
    ∃ final,
      (Stage.savingRules rules).complete plan actor here (count + 3) table =
        (.ok .done, [.changed rules.length actor], final) ∧
      Mirrors plan final
        ⟨rules, HistoryEntry.capped book.limit (book.history ++ [⟨here.moment, actor, rules⟩]),
          book.limit⟩ := by
  obtain ⟨readable, working, ⟨rulesEnd, rules_later⟩, historyEnd, history_later⟩ := writable
  let entry : HistoryEntry := ⟨here.moment, actor, rules⟩
  let entries := HistoryEntry.capped plan.limit (book.history ++ [entry])
  let middle := table.put rulesKey ⟨.list (rules.map Rule.payload), .at rulesEnd⟩
  let final := middle.put historyKey ⟨.list (entries.map HistoryEntry.payload), .at historyEnd⟩
  have history_row : middle.get? historyKey = table.get? historyKey :=
    get?_put_of_ne rulesKey_ne_historyKey.symm _
  have middle_holds : Holds middle historyKey (book.history.map HistoryEntry.payload) := by
    rw [Holds, history_row]
    exact mirrors.history
  have middle_readable : Readable here middle historyKey := by
    refine ⟨readable.working, ?_⟩
    rw [history_row]
    exact readable.current
  have first : Stage.next plan actor here table (.savingRules rules) =
      (middle, .loadingHistory entry) := by
    rw [Stage.next, saveRules, save_eq_ok rules_later working]
  have second : Stage.next plan actor here middle (.loadingHistory entry) =
      (middle, .savingHistory entry entries) := by
    rw [Stage.next, loadHistory, load_of_holds HistoryEntry.check_payload middle_holds
      middle_readable]
  have third : Stage.next plan actor here middle (.savingHistory entry entries) =
      (final, .done rules) := by
    rw [Stage.next, saveHistory, save_eq_ok history_later working]
  have last : (Stage.done rules).complete plan actor here count final = (.ok .done, [], final) := by
    cases count <;> rfl
  refine ⟨final, ?_, ?_⟩
  · simp only [Stage.complete, first, second, third, last, Stage.notices, List.nil_append,
      List.append_nil]
  · refine ⟨mirrors.limit, ?_, ?_⟩
    · rw [Holds, get?_put_of_ne rulesKey_ne_historyKey]
      exact holds_put _ _
    · rw [mirrors.limit]
      exact holds_put _ _

theorem notices_proposing (actor : String) (before : Stage) (rules : List Rule) :
    Stage.notices actor before (.proposing rules) = [] := by
  rw [Stage.proposing]
  split <;> rfl

/-- Proposing a list of rules ends as writing it into the mirrored book does. -/
theorem complete_proposing (mirrors : Mirrors plan table book) {rules : List Rule}
    (writable : (rules.map Rule.id).Nodup → Writable plan here table) (actor : String)
    (count : Nat) :
    let answered := (Stage.proposing rules).complete plan actor here (count + 3) table
    let remembered := book.changed actor (book.write here.moment actor rules)
    answered.1 = remembered.1.mapError .repeated ∧ answered.2.1 = remembered.2.1 ∧
      Mirrors plan answered.2.2 remembered.2.2 := by
  cases found : Rule.repeated? [] rules with
  | some id =>
      rw [Stage.proposing, MemoryBook.write, found]
      exact ⟨rfl, rfl, mirrors⟩
  | none =>
      have distinct := ((Rule.repeated?_eq_none_iff [] rules).mp found).1
      obtain ⟨final, final_eq, final_mirrors⟩ :=
        complete_savingRules mirrors (writable distinct) rules actor count
      rw [Stage.proposing, MemoryBook.write, found]
      simp only [final_eq]
      exact ⟨rfl, rfl, final_mirrors⟩

/-- An undisturbed call is answered as the mirrored book answers it, and leaves a mirrored book. -/
theorem answer_of_mirrors (mirrors : Mirrors plan table book) {call : Call}
    (undisturbed : Undisturbed here call table) (inCalendar : EndsInCalendar plan here call) :
    let answered := answer plan here call table
    let remembered := book.answer here.moment call
    answered.1 = remembered.1.mapError .repeated ∧ answered.2.1 = remembered.2.1 ∧
      Mirrors plan answered.2.2 remembered.2.2 := by
  obtain ⟨reading, saving⟩ := undisturbed
  have rules_loaded (readable : Readable here table rulesKey) :
      loadRules plan here table = .ok book.rules :=
    load_of_holds Rule.check_payload mirrors.rules readable
  cases call with
  | upsert rule actor =>
      have rules_readable : Readable here table rulesKey := reading rulesKey (by simp [Call.reads])
      have history_readable : Readable here table historyKey :=
        reading historyKey (by simp [Call.reads])
      have loading : Stage.next plan actor here table (.loadingRules rule) =
          (table, .proposing (rule.upsertIn book.rules)) := by
        rw [Stage.next, rules_loaded rules_readable]
      have upserted : answer plan here (.upsert rule actor) table =
          (Stage.proposing (rule.upsertIn book.rules)).complete plan actor here (0 + 3) table := by
        rw [answer, upsert, change, Stage.complete]
        · simp only [loading, notices_proposing, List.nil_append]
        · rintro fault ⟨⟩
        · rintro rules ⟨⟩
      rw [upserted]
      apply complete_proposing mirrors
      intro _
      obtain ⟨rules_end, history_end⟩ := inCalendar trivial
      exact ⟨history_readable, saving trivial, rules_end, history_end⟩
  | replaceAll rules actor =>
      refine complete_proposing mirrors ?_ actor 1
      intro distinct
      have readable : Readable here table historyKey :=
        reading historyKey (by simp [Call.reads, distinct])
      obtain ⟨rules_end, history_end⟩ := inCalendar distinct
      exact ⟨readable, saving distinct, rules_end, history_end⟩
  | list =>
      have loaded := rules_loaded (reading rulesKey (by simp [Call.reads]))
      rw [answer, loaded]
      exact ⟨rfl, rfl, mirrors⟩
  | listAll =>
      have loaded := rules_loaded (reading rulesKey (by simp [Call.reads]))
      rw [answer, loaded]
      exact ⟨rfl, rfl, mirrors⟩
  | history =>
      have readable : Readable here table historyKey := reading historyKey (by simp [Call.reads])
      rw [answer, loadHistory, load_of_holds HistoryEntry.check_payload mirrors.history readable]
      exact ⟨rfl, rfl, mirrors⟩
  | evaluate stack rules context => exact ⟨rfl, rfl, mirrors⟩
  | evaluateActive stack context =>
      have loaded := rules_loaded (reading rulesKey (by simp [Call.reads]))
      rw [answer, loaded]
      exact ⟨rfl, rfl, mirrors⟩

end Step

theorem mirrors_empty (plan : LedgerPlan) :
    Mirrors plan .empty (MemoryBook.ofRules [] plan.limit) :=
  ⟨rfl, .inl ⟨rfl, rfl⟩, .inl ⟨rfl, rfl⟩⟩

end Ledger

namespace Store

/-- What a store answers and reports, call after call. -/
def answers : List (Circumstance × Call) → Store → List (Except StoreFault Reply × List Notice)
  | [], _ => []
  | (here, call) :: calls, store =>
      let (reply, notices, store) := store.answer here call
      (reply, notices) :: answers calls store

/-- Undisturbed calls are answered as the mirrored book answers them. -/
theorem answers_of_mirrors {plan : LedgerPlan} {table : Table} {book : MemoryBook}
    (mirrors : Ledger.Mirrors plan table book) {calls : List (Circumstance × Call)}
    (undisturbed : Ledger.UndisturbedRun plan calls table)
    (inCalendar : ∀ entry ∈ calls, Ledger.EndsInCalendar plan entry.1 entry.2) :
    answers calls (.ledger plan table) = answers calls (.memory book) := by
  induction calls generalizing table book with
  | nil => rfl
  | cons first calls induction =>
      obtain ⟨here, call⟩ := first
      obtain ⟨call_undisturbed, calls_undisturbed⟩ := undisturbed
      rw [List.forall_mem_cons] at inCalendar
      obtain ⟨call_inCalendar, calls_inCalendar⟩ := inCalendar
      obtain ⟨same_reply, same_notices, still_mirrors⟩ :=
        Ledger.answer_of_mirrors mirrors call_undisturbed call_inCalendar
      have others_same := induction still_mirrors calls_undisturbed calls_inCalendar
      have replies_agree (reply : Except RepeatedName Reply) :
          (reply.mapError LedgerFault.repeated).mapError StoreFault.ledger =
            reply.mapError fun refused => .ledger (.repeated refused) := by
        cases reply <;> rfl
      rw [answers, answers]
      simp only [answer, same_reply, same_notices, replies_agree, others_same]

/--
A store that starts with an empty table and one that starts with nothing in memory, with one limit
of the history, answer and report the same to the same undisturbed calls at the same times, if the
rows that are written end within the calendar.
-/
theorem ledger_answers_eq (plan : LedgerPlan) (calls : List (Circumstance × Call))
    (undisturbed : Ledger.UndisturbedRun plan calls .empty)
    (inCalendar : ∀ entry ∈ calls, Ledger.EndsInCalendar plan entry.1 entry.2) :
    answers calls (.ledger plan .empty) =
      answers calls (.memory (MemoryBook.ofRules [] plan.limit)) :=
  answers_of_mirrors (Ledger.mirrors_empty plan) undisturbed inCalendar

/-- A rule is put into a table, and ten seconds later it is listed. -/
theorem ledger_answers_ten_seconds_later :
    let rule : Rule :=
      ⟨⟨"a", by decide⟩, ⟨"x", by decide⟩, [.gate .overall .fail none], none, none, some true⟩
    let early : Circumstance := ⟨⟨0⟩, 0, none, none⟩
    let late : Circumstance := ⟨⟨10000000⟩, 10000, none, none⟩
    let calls := [(early, .upsert rule "system"), (late, .listAll)]
    Ledger.UndisturbedRun .standard calls .empty ∧
      (∀ entry ∈ calls, Ledger.EndsInCalendar .standard entry.1 entry.2) ∧
      answers calls (.ledger .standard .empty) =
        [(.ok .done, [.changed 1 "system"]), (.ok (.rules [rule]), [])] := by
  intro rule early late calls
  have undisturbed : Ledger.UndisturbedRun .standard calls .empty := by
    refine ⟨⟨?_, fun _ => rfl⟩, ⟨?_, ?_⟩, trivial⟩
    · rintro key -
      exact ⟨rfl, by rintro row ⟨⟩⟩
    · intro key member
      obtain rfl : key = Ledger.rulesKey := List.mem_singleton.mp member
      refine ⟨rfl, ?_⟩
      rintro row ⟨⟩
      rfl
    · rintro ⟨⟩
  have inCalendar : ∀ entry ∈ calls, Ledger.EndsInCalendar .standard entry.1 entry.2 := by
    have saved : Ledger.EndsInCalendar .standard early (.upsert rule "system") :=
      fun _ => ⟨⟨_, rfl⟩, ⟨_, rfl⟩⟩
    have listed : Ledger.EndsInCalendar .standard late .listAll := by
      rintro ⟨⟩
    simpa [calls] using And.intro saved listed
  exact ⟨undisturbed, inCalendar, ledger_answers_eq .standard calls undisturbed inCalendar⟩

/-- A lifetime that leads out of the calendar keeps a rule from being put into a table. -/
theorem ledger_answers_ne_beyond_calendar :
    let plan : LedgerPlan := ⟨"adaptive_kv", 253402300800, 604800, 50⟩
    let rule : Rule := ⟨⟨"a", by decide⟩, ⟨"true", by decide⟩, [], none, none, none⟩
    let calls : List (Circumstance × Call) := [(⟨⟨0⟩, 0, none, none⟩, .upsert rule "system")]
    Ledger.UndisturbedRun plan calls .empty ∧
      answers calls (.ledger plan .empty) ≠
        answers calls (.memory (MemoryBook.ofRules [] plan.limit)) := by
  intro plan rule calls
  constructor
  · refine ⟨⟨?_, fun _ => rfl⟩, trivial⟩
    rintro key -
    exact ⟨rfl, by rintro row ⟨⟩⟩
  · have refused : answers calls (.ledger plan .empty) =
        [(.error (.ledger (.lifetime .beyondCalendar)), [])] := rfl
    have accepted : answers calls (.memory (MemoryBook.ofRules [] plan.limit)) =
        [(.ok .done, [.changed 1 "system"])] := rfl
    rw [refused, accepted]
    simp

end Store

end Appraisal
