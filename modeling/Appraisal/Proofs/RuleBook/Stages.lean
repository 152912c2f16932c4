import Appraisal.Proofs.RuleBook.Refinement

/-!
# Changes that fail on the way

A change of a rule book in a table goes through its stages one by one, and the table may fail, or
time may pass, between any two of them.  A change that fails at the rules leaves the table as it
was.  One that fails at the history has saved its rules; there is nothing that takes them back.
-/

namespace Appraisal

open Validation

namespace Ledger

/-- A change under way, and who makes it. -/
structure Writer where
  actor : String
  stage : Stage

/-- The writer of a call, before the first stage; a call that changes nothing has none. -/
def Writer.ofCall? : Call → Option Writer
  | .upsert rule actor => some ⟨actor, .loadingRules rule⟩
  | .replaceAll rules actor => some ⟨actor, .proposing rules⟩
  | _ => none

/-- Make one stage of a change. -/
def Writer.next (plan : LedgerPlan) (here : Circumstance) (table : Table) (writer : Writer) :
    Table × Writer :=
  let (table, stage) := writer.stage.next plan writer.actor here table
  (table, { writer with stage })

/-- Make some stages of a change, each in a circumstance of its own. -/
def Writer.run (plan : LedgerPlan) : List Circumstance → Table → Writer → Table × Writer
  | [], table, writer => (table, writer)
  | here :: others, table, writer =>
      run plan others (writer.next plan here table).1 (writer.next plan here table).2

/-- What a stage that is over answers. -/
def Stage.reply : Stage → Except LedgerFault Reply
  | .failed fault => .error fault
  | _ => .ok .done

/-- How many stages are left at most. -/
def Stage.left : Stage → Nat
  | .loadingRules _ => 4
  | .savingRules _ => 3
  | .loadingHistory _ => 2
  | .savingHistory .. => 1
  | .done _ | .failed _ => 0

section Turns

variable {plan : LedgerPlan} {actor : String} {here : Circumstance} {table : Table}

/-- All that one stage can do to the table and to the change. -/
inductive Turn (plan : LedgerPlan) (actor : String) (here : Circumstance) (table : Table) :
    Stage → Table → Stage → Prop
  | rulesLoaded {rule : Rule} {rules : List Rule} (loaded : loadRules plan here table = .ok rules) :
      Turn plan actor here table (.loadingRules rule) table (.proposing (rule.upsertIn rules))
  | rulesUnread {rule : Rule} {fault : LedgerFault}
      (failed : loadRules plan here table = .error fault) :
      Turn plan actor here table (.loadingRules rule) table (.failed fault)
  | rulesSaved {rules : List Rule} {after : Table}
      (saved : saveRules plan here rules table = .ok after) :
      Turn plan actor here table (.savingRules rules) after
        (.loadingHistory ⟨here.moment, actor, rules⟩)
  | rulesUnsaved {rules : List Rule} {fault : LedgerFault}
      (failed : saveRules plan here rules table = .error fault) :
      Turn plan actor here table (.savingRules rules) table (.failed fault)
  | historyLoaded {entry : HistoryEntry} {entries : List HistoryEntry}
      (loaded : loadHistory plan here table = .ok entries) :
      Turn plan actor here table (.loadingHistory entry) table
        (.savingHistory entry (HistoryEntry.capped plan.limit (entries ++ [entry])))
  | historyUnread {entry : HistoryEntry} {fault : LedgerFault}
      (failed : loadHistory plan here table = .error fault) :
      Turn plan actor here table (.loadingHistory entry) table (.failed fault)
  | historySaved {entry : HistoryEntry} {entries : List HistoryEntry} {after : Table}
      (saved : saveHistory plan here entries table = .ok after) :
      Turn plan actor here table (.savingHistory entry entries) after (.done entry.rules)
  | historyUnsaved {entry : HistoryEntry} {entries : List HistoryEntry} {fault : LedgerFault}
      (failed : saveHistory plan here entries table = .error fault) :
      Turn plan actor here table (.savingHistory entry entries) table (.failed fault)
  | stillDone {rules : List Rule} : Turn plan actor here table (.done rules) table (.done rules)
  | stillFailed {fault : LedgerFault} :
      Turn plan actor here table (.failed fault) table (.failed fault)

theorem turn_next (stage : Stage) :
    Turn plan actor here table stage (stage.next plan actor here table).1
      (stage.next plan actor here table).2 := by
  cases stage with
  | loadingRules rule =>
      rw [Stage.next]
      cases outcome : loadRules plan here table with
      | ok rules => exact .rulesLoaded outcome
      | error fault => exact .rulesUnread outcome
  | savingRules rules =>
      rw [Stage.next]
      cases outcome : saveRules plan here rules table with
      | ok after => exact .rulesSaved outcome
      | error fault => exact .rulesUnsaved outcome
  | loadingHistory entry =>
      rw [Stage.next]
      cases outcome : loadHistory plan here table with
      | ok entries => exact .historyLoaded outcome
      | error fault => exact .historyUnread outcome
  | savingHistory entry entries =>
      rw [Stage.next]
      cases outcome : saveHistory plan here entries table with
      | ok after => exact .historySaved outcome
      | error fault => exact .historyUnsaved outcome
  | done rules => exact .stillDone
  | failed fault => exact .stillFailed

/-- A turn is what a stage does. -/
theorem next_eq_of_turn {stage later : Stage} {after : Table}
    (turn : Turn plan actor here table stage after later) :
    stage.next plan actor here table = (after, later) := by
  cases turn with
  | rulesLoaded outcome | rulesUnread outcome | rulesSaved outcome | rulesUnsaved outcome
  | historyLoaded outcome | historyUnread outcome | historySaved outcome
  | historyUnsaved outcome => rw [Stage.next, outcome]
  | stillDone | stillFailed => rfl

/-- A list of rules is saved next, or it is refused because of a repeated name. -/
theorem proposing_cases (rules : List Rule) :
    ((rules.map Rule.id).Nodup ∧ Stage.proposing rules = .savingRules rules) ∨
      ∃ refused, Stage.proposing rules = .failed (.repeated refused) := by
  rw [Stage.proposing]
  cases found : Rule.repeated? [] rules with
  | none => exact .inl ⟨((Rule.repeated?_eq_none_iff [] rules).mp found).1, rfl⟩
  | some id => exact .inr ⟨⟨id⟩, rfl⟩

/-- Rules with distinct names are saved next. -/
theorem proposing_of_nodup {rules : List Rule} (distinct : (rules.map Rule.id).Nodup) :
    Stage.proposing rules = .savingRules rules := by
  have none_repeated : Rule.repeated? [] rules = none :=
    (Rule.repeated?_eq_none_iff [] rules).mpr ⟨distinct, fun _ _ => List.not_mem_nil⟩
  rw [Stage.proposing, none_repeated]

/-- What is saved is put into the table, with an end. -/
theorem eq_put_of_save {key : String} {lifetime : Int} {value : Datum} {after : Table}
    (saved : save plan here key lifetime value table = .ok after) :
    ∃ expiry, after = table.put key ⟨value, expiry⟩ := by
  rw [save] at saved
  split at saved
  · contradiction
  · contradiction
  · rename_i ending _ _
    exact ⟨.at ending, (Except.ok.inj saved).symm⟩

theorem left_proposing (rules : List Rule) : (Stage.proposing rules).left ≤ 3 := by
  rcases proposing_cases rules with ⟨_, saving⟩ | ⟨refused, failed⟩
  · rw [saving]
    exact Nat.le_refl _
  · rw [failed]
    exact Nat.zero_le 3

/-- Each turn brings a change closer to its end. -/
theorem left_of_turn {stage : Stage} {after : Table} {later : Stage}
    (turn : Turn plan actor here table stage after later) : later.left ≤ stage.left - 1 := by
  cases turn with
  | rulesLoaded => exact left_proposing _
  | rulesSaved | historyLoaded | historySaved => exact Nat.le_refl _
  | rulesUnread | rulesUnsaved | historyUnread | historyUnsaved => exact Nat.zero_le _
  | stillDone | stillFailed => exact Nat.le_refl _

end Turns

/-! ## Changes as runs of stages -/

section Runs

variable {plan : LedgerPlan} {table : Table}

/-- A run begins with a turn. -/
theorem run_cons_of_turn {here : Circumstance} {actor : String} {stage later : Stage}
    {after : Table} (turn : Turn plan actor here table stage after later)
    (others : List Circumstance) :
    Writer.run plan (here :: others) table ⟨actor, stage⟩ =
      Writer.run plan others after ⟨actor, later⟩ := by
  rw [Writer.run, Writer.next, next_eq_of_turn turn]

/-- Nothing more is done about a change that is over. -/
theorem run_of_ended {writer : Writer} (ended : writer.stage.left = 0) (heres : List Circumstance) :
    writer.run plan heres table = (table, writer) := by
  induction heres with
  | nil => rfl
  | cons here others induction =>
      have unchanged : writer.next plan here table = (table, writer) := by
        obtain ⟨actor, stage⟩ := writer
        cases stage with
        | done rules => rfl
        | failed fault => rfl
        | _ => contradiction
      rw [Writer.run, unchanged, induction]

/-- A change as a whole is its run in one circumstance. -/
theorem complete_eq_run (actor : String) (here : Circumstance) (count : Nat) (table : Table)
    (stage : Stage) :
    let final := Writer.run plan (List.replicate count here) table ⟨actor, stage⟩
    (stage.complete plan actor here count table).1 = final.2.stage.reply ∧
      (stage.complete plan actor here count table).2.2 = final.1 := by
  induction count generalizing table stage with
  | zero => cases stage <;> exact ⟨rfl, rfl⟩
  | succ count induction =>
      cases stage with
      | done rules =>
          rw [run_of_ended rfl]
          exact ⟨rfl, rfl⟩
      | failed fault =>
          rw [run_of_ended rfl]
          exact ⟨rfl, rfl⟩
      | _ => exact induction _ _

/-- A call that changes something is answered by the run of its writer in one circumstance. -/
theorem answer_eq_run {call : Call} {writer : Writer} (begun : Writer.ofCall? call = some writer)
    (here : Circumstance) (table : Table) :
    let final := writer.run plan (List.replicate 4 here) table
    (answer plan here call table).1 = final.2.stage.reply ∧
      (answer plan here call table).2.2 = final.1 := by
  cases call with
  | upsert rule actor =>
      cases begun
      exact complete_eq_run actor here 4 table (.loadingRules rule)
  | replaceAll rules actor =>
      cases begun
      exact complete_eq_run actor here 4 table (.proposing rules)
  | _ => contradiction

end Runs

/-! ## Failures -/

section Failures

variable {plan : LedgerPlan} {actor : String} {before : Table} {call : Call}
  {heres : List Circumstance}

/-- The rules that a call is to store in the table that it finds, and the circumstances that are left
for the stages from there on.  To put a rule among others it has loaded these in the first one. -/
inductive Proposes (plan : LedgerPlan) (before : Table) :
    Call → List Circumstance → List Rule → List Circumstance → Prop
  | upsert {rule : Rule} {actor : String} {here : Circumstance} {rest : List Circumstance}
      {loaded : List Rule} (found : loadRules plan here before = .ok loaded) :
      Proposes plan before (.upsert rule actor) (here :: rest) (rule.upsertIn loaded) rest
  | replaceAll (rules : List Rule) (actor : String) (heres : List Circumstance) :
      Proposes plan before (.replaceAll rules actor) heres rules heres

/-- A table after the rules of a call were saved in a circumstance, and nothing else. -/
structure Stored (plan : LedgerPlan) (before : Table) (call : Call) (heres : List Circumstance)
    (rules : List Rule) (here : Circumstance) (rest : List Circumstance) (after : Table) :
    Prop where
  proposed : Proposes plan before call heres rules (here :: rest)
  distinct : (rules.map Rule.id).Nodup
  saved : saveRules plan here rules before = .ok after
  /-- The row of the rules holds exactly these rules, and all other rows are as they were. -/
  put : ∃ expiry, after = before.put rulesKey ⟨.list (rules.map Rule.payload), expiry⟩

/--
How a call fails that meets some circumstances one after the other: what its stages have come to, in
which of them it fails and for which fault, and the table that it leaves.
-/
inductive Fails (plan : LedgerPlan) (actor : String) (before : Table) :
    Call → List Circumstance → Table → LedgerFault → Prop
  /-- The rules cannot be loaded. -/
  | rulesUnread {rule : Rule} {here : Circumstance} {rest : List Circumstance} {fault : LedgerFault}
      (failed : loadRules plan here before = .error fault) :
      Fails plan actor before (.upsert rule actor) (here :: rest) before fault
  /-- A name is repeated among the rules that are to be stored. -/
  | repeated {call : Call} {heres rest : List Circumstance} {rules : List Rule} {id : RuleId}
      (proposed : Proposes plan before call heres rules rest)
      (again : Rule.repeated? [] rules = some id) :
      Fails plan actor before call heres before (.repeated ⟨id⟩)
  /-- The rules cannot be saved. -/
  | rulesUnsaved {call : Call} {heres rest : List Circumstance} {here : Circumstance}
      {rules : List Rule} {fault : LedgerFault}
      (proposed : Proposes plan before call heres rules (here :: rest))
      (distinct : (rules.map Rule.id).Nodup)
      (failed : saveRules plan here rules before = .error fault) :
      Fails plan actor before call heres before fault
  /-- The rules are saved, and the history cannot be loaded. -/
  | historyUnread {call : Call} {heres rest : List Circumstance} {here next : Circumstance}
      {rules : List Rule} {after : Table} {fault : LedgerFault}
      (stored : Stored plan before call heres rules here (next :: rest) after)
      (failed : loadHistory plan next after = .error fault) :
      Fails plan actor before call heres after fault
  /-- The rules are saved and the history is loaded, but it cannot be saved with the new entry. -/
  | historyUnsaved {call : Call} {heres rest : List Circumstance} {here next last : Circumstance}
      {rules : List Rule} {entries : List HistoryEntry} {after : Table} {fault : LedgerFault}
      (stored : Stored plan before call heres rules here (next :: last :: rest) after)
      (loaded : loadHistory plan next after = .ok entries)
      (failed : saveHistory plan last
        (HistoryEntry.capped plan.limit (entries ++ [⟨here.moment, actor, rules⟩])) after =
          .error fault) :
      Fails plan actor before call heres after fault

/-- What has come of a call at a stage, with some circumstances still to be met. -/
def Follows (plan : LedgerPlan) (actor : String) (before : Table) (call : Call)
    (heres rest : List Circumstance) (now : Table) : Stage → Prop
  | .loadingRules rule => now = before ∧ rest = heres ∧ call = .upsert rule actor
  | .savingRules rules =>
      now = before ∧ Proposes plan before call heres rules rest ∧ (rules.map Rule.id).Nodup
  | .loadingHistory entry =>
      ∃ here rules, entry = ⟨here.moment, actor, rules⟩ ∧
        Stored plan before call heres rules here rest now
  | .savingHistory entry entries =>
      ∃ here next rules loaded, entry = ⟨here.moment, actor, rules⟩ ∧
        Stored plan before call heres rules here (next :: rest) now ∧
        loadHistory plan next now = .ok loaded ∧
        entries = HistoryEntry.capped plan.limit (loaded ++ [entry])
  | .done _ => True
  | .failed fault => Fails plan actor before call heres now fault

theorem follows_proposing {rules : List Rule} {rest : List Circumstance}
    (proposed : Proposes plan before call heres rules rest) :
    Follows plan actor before call heres rest before (.proposing rules) := by
  rw [Stage.proposing]
  cases found : Rule.repeated? [] rules with
  | none => exact ⟨rfl, proposed, ((Rule.repeated?_eq_none_iff [] rules).mp found).1⟩
  | some id => exact .repeated proposed found

/-- A writer begins where its call does. -/
theorem follows_ofCall? {writer : Writer} (begun : Writer.ofCall? call = some writer) :
    Follows plan writer.actor before call heres heres before writer.stage := by
  cases call with
  | upsert rule actor =>
      cases begun
      exact ⟨rfl, rfl, rfl⟩
  | replaceAll rules actor =>
      cases begun
      exact follows_proposing (.replaceAll rules actor heres)
  | _ => contradiction

/-- One turn keeps what has come of a call. -/
theorem follows_turn {here : Circumstance} {rest : List Circumstance} {now after : Table}
    {stage later : Stage} (follows : Follows plan actor before call heres (here :: rest) now stage)
    (turn : Turn plan actor here now stage after later) :
    Follows plan actor before call heres rest after later := by
  cases turn with
  | rulesLoaded loaded =>
      obtain ⟨rfl, rfl, rfl⟩ := follows
      exact follows_proposing (.upsert loaded)
  | rulesUnread failed =>
      obtain ⟨rfl, rfl, rfl⟩ := follows
      exact .rulesUnread failed
  | rulesSaved saved =>
      obtain ⟨rfl, proposed, distinct⟩ := follows
      exact ⟨here, _, rfl, proposed, distinct, saved, eq_put_of_save saved⟩
  | rulesUnsaved failed =>
      obtain ⟨rfl, proposed, distinct⟩ := follows
      exact .rulesUnsaved proposed distinct failed
  | historyLoaded loaded =>
      obtain ⟨saving, rules, rfl, stored⟩ := follows
      exact ⟨saving, here, rules, _, rfl, stored, loaded, rfl⟩
  | historyUnread failed =>
      obtain ⟨saving, rules, rfl, stored⟩ := follows
      exact .historyUnread stored failed
  | historySaved => trivial
  | historyUnsaved failed =>
      obtain ⟨saving, loading, rules, entries, rfl, stored, loaded, rfl⟩ := follows
      exact .historyUnsaved stored loaded failed
  | stillDone | stillFailed => exact follows

/-- A run keeps what has come of a call. -/
theorem follows_run {rest : List Circumstance} {now : Table} {writer : Writer}
    (follows : Follows plan writer.actor before call heres rest now writer.stage) :
    Follows plan writer.actor before call heres [] (writer.run plan rest now).1
      (writer.run plan rest now).2.stage := by
  induction rest generalizing now writer with
  | nil => exact follows
  | cons here others induction => exact induction (follows_turn follows (turn_next writer.stage))

/-- Once the rules of a call are proposed, its run is a run from there on. -/
theorem run_of_proposes {writer : Writer} {rules : List Rule} {rest : List Circumstance}
    (begun : Writer.ofCall? call = some writer)
    (proposed : Proposes plan before call heres rules rest) :
    writer.run plan heres before = Writer.run plan rest before ⟨writer.actor, .proposing rules⟩ := by
  cases proposed with
  | upsert found =>
      cases begun
      exact run_cons_of_turn (.rulesLoaded found) rest
  | replaceAll =>
      cases begun
      rfl

/-- Once the rules of a call are stored, its run is a run from there on. -/
theorem Stored.run_eq {writer : Writer} {rules : List Rule} {here : Circumstance}
    {rest : List Circumstance} {after : Table}
    (stored : Stored plan before call heres rules here rest after)
    (begun : Writer.ofCall? call = some writer) :
    writer.run plan heres before =
      Writer.run plan rest after
        ⟨writer.actor, .loadingHistory ⟨here.moment, writer.actor, rules⟩⟩ := by
  rw [run_of_proposes begun stored.proposed, proposing_of_nodup stored.distinct]
  exact run_cons_of_turn (.rulesSaved stored.saved) rest

/-- A call that fails in one of the ways does so when it is run. -/
theorem Fails.run_eq {writer : Writer} {after : Table} {fault : LedgerFault}
    (fails : Fails plan writer.actor before call heres after fault)
    (begun : Writer.ofCall? call = some writer) :
    writer.run plan heres before = (after, ⟨writer.actor, .failed fault⟩) := by
  obtain ⟨actor, stage⟩ := writer
  cases fails with
  | rulesUnread failed =>
      cases begun
      exact (run_cons_of_turn (.rulesUnread failed) _).trans (run_of_ended rfl _)
  | repeated proposed again =>
      rw [run_of_proposes begun proposed, Stage.proposing, again]
      exact run_of_ended rfl _
  | rulesUnsaved proposed distinct failed =>
      rw [run_of_proposes begun proposed, proposing_of_nodup distinct]
      exact (run_cons_of_turn (.rulesUnsaved failed) _).trans (run_of_ended rfl _)
  | historyUnread stored failed =>
      rw [stored.run_eq begun]
      exact (run_cons_of_turn (.historyUnread failed) _).trans (run_of_ended rfl _)
  | historyUnsaved stored loaded failed =>
      rw [stored.run_eq begun, run_cons_of_turn (.historyLoaded loaded)]
      exact (run_cons_of_turn (.historyUnsaved failed) _).trans (run_of_ended rfl _)

/-- A call is run to a failure exactly in one of the ways to fail. -/
theorem run_failed_iff {writer : Writer} {after : Table} {fault : LedgerFault}
    (begun : Writer.ofCall? call = some writer) :
    ((writer.run plan heres before).1 = after ∧
        (writer.run plan heres before).2.stage = .failed fault) ↔
      Fails plan writer.actor before call heres after fault := by
  constructor
  · rintro ⟨rfl, failed⟩
    have follows : Follows plan writer.actor before call heres []
        (writer.run plan heres before).1 (writer.run plan heres before).2.stage :=
      follows_run (follows_ofCall? begun)
    rwa [failed] at follows
  · intro fails
    rw [fails.run_eq begun]
    exact ⟨rfl, rfl⟩

theorem reply_eq_error_iff {stage : Stage} {fault : LedgerFault} :
    stage.reply = .error fault ↔ stage = .failed fault := by
  cases stage <;> simp [Stage.reply]

/-- A failed call leaves the history as it was. -/
theorem Fails.history_eq {after : Table} {fault : LedgerFault}
    (fails : Fails plan actor before call heres after fault) :
    after.get? historyKey = before.get? historyKey := by
  cases fails with
  | rulesUnread | repeated | rulesUnsaved => rfl
  | historyUnread stored | historyUnsaved stored =>
      obtain ⟨expiry, rfl⟩ := stored.put
      exact get?_put_of_ne rulesKey_ne_historyKey.symm _

/--
A call that fails does so in one of five ways (`Fails`).  If its rules cannot be loaded, repeat a
name or cannot be saved, it leaves the table as it was; if its rules are saved and the history cannot
be loaded or saved, the row of the rules holds exactly the rules that the call was to store, with
distinct names, and all other rows are as they were.  It always leaves the history as it was.  Each
way tells the circumstances that the stages of the call met up to the one that failed, and a run
fails in this way exactly in these circumstances: loading and saving may fail in any pattern.  A call
that is answered at once meets the same circumstance at all of its stages.
-/
theorem table_of_failed {call : Call} {writer : Writer}
    (begun : Writer.ofCall? call = some writer) (plan : LedgerPlan) (before : Table) :
    (∀ heres after fault,
        (writer.run plan heres before).1 = after ∧
            (writer.run plan heres before).2.stage = .failed fault ↔
          Fails plan writer.actor before call heres after fault) ∧
      (∀ here after fault,
        (answer plan here call before).1 = .error fault ∧
            (answer plan here call before).2.2 = after ↔
          Fails plan writer.actor before call (List.replicate 4 here) after fault) ∧
      ∀ heres after fault, Fails plan writer.actor before call heres after fault →
        after.get? historyKey = before.get? historyKey := by
  refine ⟨fun _ _ _ => run_failed_iff begun, ?_, fun _ _ _ => Fails.history_eq⟩
  intro here after fault
  have ⟨reply_eq, table_eq⟩ : _ ∧ (answer plan here call before).2.2 = _ :=
    answer_eq_run begun here before
  rw [reply_eq, table_eq, reply_eq_error_iff, and_comm]
  exact run_failed_iff begun

/-- The table is lost after a rule was saved, before the history is loaded. -/
theorem table_of_failed_at_history :
    let rule : Rule := ⟨⟨"a", by decide⟩, ⟨"x", by decide⟩, [], none, none, none⟩
    let call : Call := .upsert rule "system"
    let writer : Writer := ⟨"system", .loadingRules rule⟩
    let fine : Circumstance := ⟨⟨0⟩, 0, none, none⟩
    let lost : Circumstance := ⟨⟨0⟩, 0, some "connection reset", none⟩
    let heres := [fine, fine, lost]
    let fault : LedgerFault := .reading "adaptive_kv" "connection reset"
    let after := (writer.run .standard heres .empty).1
    Writer.ofCall? call = some writer ∧
      (writer.run .standard heres .empty).2.stage = .failed fault ∧
      Fails .standard "system" .empty call heres after fault ∧
      ¬ Fails .standard "system" .empty call heres .empty fault ∧
      after.get? historyKey = none ∧
      (answer .standard lost call .empty).1 = .error fault ∧
      Fails .standard "system" .empty call (List.replicate 4 lost) .empty fault := by
  intro rule call writer fine lost heres fault after
  have begun : Writer.ofCall? call = some writer := rfl
  have failed : (writer.run .standard heres .empty).2.stage = .failed fault := rfl
  have refused : (answer .standard lost call .empty).1 = .error fault := rfl
  have untouched : (answer .standard lost call .empty).2.2 = .empty := rfl
  have written : after.get? rulesKey ≠ Table.empty.get? rulesKey := by
    rintro ⟨⟩
  obtain ⟨runs, answers, history⟩ := table_of_failed begun .standard .empty
  have fails := (runs heres after fault).mp ⟨rfl, failed⟩
  refine ⟨begun, failed, fails, ?_, history heres after fault fails, refused,
    (answers lost .empty fault).mp ⟨refused, untouched⟩⟩
  intro untouched_fails
  obtain ⟨empty_eq, _⟩ := (runs heres .empty fault).mpr untouched_fails
  exact written (congrArg (·.get? rulesKey) empty_eq)

/-- A list that is answered with a failure to load the history is in the table nevertheless. -/
theorem rules_of_failed_replaceAll :
    let rule : Rule := ⟨⟨"a", by decide⟩, ⟨"true", by decide⟩, [], none, none, none⟩
    let here : Circumstance := ⟨⟨0⟩, 0, some "connection reset", none⟩
    let answered := answer .standard here (.replaceAll [rule] "system") .empty
    answered.1 = .error (.reading "adaptive_kv" "connection reset") ∧
      answered.2.2.get? rulesKey ≠ Table.empty.get? rulesKey := by
  intro rule here answered
  refine ⟨rfl, ?_⟩
  rintro ⟨⟩

end Failures

end Ledger

end Appraisal
