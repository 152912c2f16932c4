import Appraisal.Rule.Decoding
import Appraisal.Rule.Encoding
import Appraisal.RuleBook.Memory
import Appraisal.RuleBook.Table

/-!
# Rule books in a table

A rule book whose rules and history are two rows of a table, with a lifetime each that every write
restarts.  The table may fail, and its rows may hold anything.

A change is made in up to four stages, each of which uses the table once: load the rules, save the
rules, load the history, save the history.  What is saved by an earlier stage stays saved when a
later one fails.  Changes of several writers may interleave between the stages; the last writer of
a row wins.
-/

namespace Appraisal

/-- How a rule book uses its table. -/
structure LedgerPlan where
  /-- The name of the table. -/
  table : String
  /-- How long rules live, in seconds. -/
  rulesLifetime : Int
  /-- How long the history lives, in seconds. -/
  historyLifetime : Int
  /-- How many changes are kept. -/
  limit : Int
  deriving DecidableEq, Repr

/-- The plan that is used unless another one is given. -/
def LedgerPlan.standard : LedgerPlan := ⟨"adaptive_kv", 3600, 604800, 50⟩

/-- What a stage meets: the time, and the failure of the table if it has one. -/
structure Circumstance where
  /-- The instant of the stage. -/
  now : Time.Instant
  /-- The same in milliseconds. -/
  moment : Int
  /-- What is said when a row cannot be read. -/
  readFailure : Option String
  /-- What is said when a row cannot be written. -/
  writeFailure : Option String
  deriving DecidableEq, Repr

/-- Why a rule book in a table does not answer. -/
inductive LedgerFault
  /-- A row cannot be read. -/
  | reading (table text : String)
  /-- A row cannot be written. -/
  | writing (table text : String)
  /-- The end of a row cannot be told. -/
  | expiry (fault : ExpiryFault)
  /-- The end of a new row is out of reach. -/
  | lifetime (fault : Time.SpanFault)
  /-- A row does not hold what it should. -/
  | invalid (problems : List Validation.Problem)
  /-- A rule list has a repeated name. -/
  | repeated (refused : RepeatedName)
  deriving DecidableEq, Repr

/-- The sentence that describes a fault; problems of rows speak for themselves. -/
def LedgerFault.message : LedgerFault → String
  | .reading table text => "Supabase error reading " ++ table ++ ": " ++ text
  | .writing table text => "Supabase error writing " ++ table ++ ": " ++ text
  | .expiry fault => fault.message
  | .lifetime fault => fault.message
  | .invalid _ => ""
  | .repeated refused => refused.message

namespace Ledger

/-- The key of the rules. -/
def rulesKey : String := "adaptive:rules"

/-- The key of the history. -/
def historyKey : String := "adaptive:rules:history"

/-- The value under a key, unless its row has ended or there is none. -/
def fetch (plan : LedgerPlan) (here : Circumstance) (table : Table) (key : String) :
    Except LedgerFault (Option Datum) :=
  match here.readFailure with
  | some text => .error (.reading plan.table text)
  | none =>
      match table.get? key with
      | none => .ok none
      | some row =>
          match row.expiry.hasPassed here.now with
          | .error fault => .error (.expiry fault)
          | .ok true => .ok none
          | .ok false => .ok (some row.value)

/-- A list under a key; anything that is no list counts as none. -/
def load {α : Type} (check : Validation.Check (List α)) (plan : LedgerPlan) (here : Circumstance)
    (table : Table) (key : String) : Except LedgerFault (List α) := do
  match ← fetch plan here table key with
  | some (.list items) => (check (.list items)).mapError .invalid
  | _ => pure []

/-- The rules in the table. -/
def loadRules (plan : LedgerPlan) (here : Circumstance) (table : Table) :
    Except LedgerFault (List Rule) :=
  load (Validation.listOf Rule.check) plan here table rulesKey

/-- The history in the table. -/
def loadHistory (plan : LedgerPlan) (here : Circumstance) (table : Table) :
    Except LedgerFault (List HistoryEntry) :=
  load (Validation.listOf HistoryEntry.check) plan here table historyKey

/-- Write a value under a key, for a lifetime from now on. -/
def save (plan : LedgerPlan) (here : Circumstance) (key : String) (lifetime : Int) (value : Datum)
    (table : Table) : Except LedgerFault Table :=
  match here.now.later lifetime, here.writeFailure with
  | .error fault, _ => .error (.lifetime fault)
  | .ok _, some text => .error (.writing plan.table text)
  | .ok instant, none => .ok (table.put key ⟨value, .at instant⟩)

/-- Write the rules. -/
def saveRules (plan : LedgerPlan) (here : Circumstance) (rules : List Rule) (table : Table) :
    Except LedgerFault Table :=
  save plan here rulesKey plan.rulesLifetime (.list (rules.map Rule.payload)) table

/-- Write the history. -/
def saveHistory (plan : LedgerPlan) (here : Circumstance) (entries : List HistoryEntry)
    (table : Table) : Except LedgerFault Table :=
  save plan here historyKey plan.historyLifetime (.list (entries.map HistoryEntry.payload)) table

/-- How far a change has come. -/
inductive Stage
  /-- The rules are to be loaded, to put one rule among them. -/
  | loadingRules (rule : Rule)
  /-- The rules are to be saved. -/
  | savingRules (rules : List Rule)
  /-- The rules are saved; the history is to be loaded, to add an entry to it. -/
  | loadingHistory (entry : HistoryEntry)
  /-- The history is to be saved; `entry` is the new one in it. -/
  | savingHistory (entry : HistoryEntry) (entries : List HistoryEntry)
  /-- The change is made, with this list of rules. -/
  | done (rules : List Rule)
  /-- The change is given up. -/
  | failed (fault : LedgerFault)
  deriving DecidableEq, Repr

/-- Go on to save a list of rules, unless a name is repeated in it. -/
def Stage.proposing (rules : List Rule) : Stage :=
  match Rule.repeated? [] rules with
  | some id => .failed (.repeated ⟨id⟩)
  | none => .savingRules rules

/-- Make one stage of a change by an actor. -/
def Stage.next (plan : LedgerPlan) (actor : String) (here : Circumstance) (table : Table) :
    Stage → Table × Stage
  | .loadingRules rule =>
      match loadRules plan here table with
      | .ok rules => (table, .proposing (rule.upsertIn rules))
      | .error fault => (table, .failed fault)
  | .savingRules rules =>
      match saveRules plan here rules table with
      | .ok table => (table, .loadingHistory ⟨here.moment, actor, rules⟩)
      | .error fault => (table, .failed fault)
  | .loadingHistory entry =>
      match loadHistory plan here table with
      | .ok entries =>
          (table, .savingHistory entry (HistoryEntry.capped plan.limit (entries ++ [entry])))
      | .error fault => (table, .failed fault)
  | .savingHistory entry entries =>
      match saveHistory plan here entries table with
      | .ok table => (table, .done entry.rules)
      | .error fault => (table, .failed fault)
  | stage => (table, stage)

/-- The row that a stage was about to use. -/
def Stage.key : Stage → String
  | .loadingHistory _ | .savingHistory .. => historyKey
  | _ => rulesKey

/-- What is reported about a fault at a key. -/
def faultNotices (key : String) : LedgerFault → List Notice
  | .reading _ text => [.unreadable key text]
  | .writing _ text => [.unwritable key text]
  | _ => []

/-- What is reported about a stage that was made. -/
def Stage.notices (actor : String) (before after : Stage) : List Notice :=
  match after with
  | .failed fault => faultNotices before.key fault
  | .done rules => [.changed rules.length actor]
  | _ => []

/-- The outcome of a change: the table, and what is reported and answered. -/
def Stage.complete (plan : LedgerPlan) (actor : String) (here : Circumstance) :
    (count : Nat) → Table → Stage → Except LedgerFault Reply × List Notice × Table
  | 0, table, stage =>
      match stage with
      | .failed fault => (.error fault, [], table)
      | _ => (.ok .done, [], table)
  | count + 1, table, stage =>
      match stage with
      | .failed fault => (.error fault, [], table)
      | .done _ => (.ok .done, [], table)
      | stage =>
          let (table, after) := stage.next plan actor here table
          let (reply, notices, table) := after.complete plan actor here count table
          (reply, stage.notices actor after ++ notices, table)

/-- Make a change as a whole: four stages are enough for any. -/
def change (plan : LedgerPlan) (actor : String) (here : Circumstance) (start : Stage)
    (table : Table) : Except LedgerFault Reply × List Notice × Table :=
  start.complete plan actor here 4 table

/-- Insert or replace one rule. -/
def upsert (plan : LedgerPlan) (here : Circumstance) (actor : String) (rule : Rule) (table : Table) :
    Except LedgerFault Reply × List Notice × Table :=
  change plan actor here (.loadingRules rule) table

/-- Replace all rules. -/
def replaceAll (plan : LedgerPlan) (here : Circumstance) (actor : String) (rules : List Rule)
    (table : Table) : Except LedgerFault Reply × List Notice × Table :=
  change plan actor here (.proposing rules) table

/-- Answer from what is loaded; the table stays as it is. -/
def answerFrom {α : Type} (key : String) (table : Table) (reply : α → Reply) :
    Except LedgerFault α → Except LedgerFault Reply × List Notice × Table
  | .ok loaded => (.ok (reply loaded), [], table)
  | .error fault => (.error fault, faultNotices key fault, table)

/-- Answer a call. -/
def answer (plan : LedgerPlan) (here : Circumstance) (call : Call) (table : Table) :
    Except LedgerFault Reply × List Notice × Table :=
  match call with
  | .upsert rule actor => upsert plan here actor rule table
  | .replaceAll rules actor => replaceAll plan here actor rules table
  | .list =>
      answerFrom rulesKey table (fun rules => .rules (Rule.active rules))
        (loadRules plan here table)
  | .listAll => answerFrom rulesKey table .rules (loadRules plan here table)
  | .history => answerFrom historyKey table .history (loadHistory plan here table)
  | .evaluate stack rules context => (.ok (.fired (Firing.of stack context rules)), [], table)
  | .evaluateActive stack context =>
      answerFrom rulesKey table
        (fun rules => .active (Rule.active rules) (Firing.of stack context (Rule.active rules)))
        (loadRules plan here table)

end Ledger

end Appraisal
