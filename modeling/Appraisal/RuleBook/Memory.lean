import Appraisal.RuleBook.Basic

/-!
# Rule books in memory

A rule book that lives as long as the program.  Nothing can go wrong with it but a repeated name.
-/

namespace Appraisal

/-- A rule list that was refused because a name occurs twice. -/
structure RepeatedName where
  id : RuleId
  deriving DecidableEq, Repr

/-- The sentence that describes a refused rule list. -/
def RepeatedName.message (refused : RepeatedName) : String :=
  "Duplicate rule id: " ++ refused.id.val

/-- A rule book in memory. -/
structure MemoryBook where
  rules : List Rule
  /-- The changes, the latest one last. -/
  history : List HistoryEntry
  /-- How many changes are kept. -/
  limit : Int
  deriving DecidableEq, Repr

namespace MemoryBook

/-- A book with some rules and no history. -/
def ofRules (rules : List Rule) (limit : Int) : MemoryBook :=
  ⟨rules, [], limit⟩

/-- Make a list the current one and record the change, unless a name is repeated. -/
def write (moment : Int) (actor : String) (rules : List Rule) (book : MemoryBook) :
    Except RepeatedName MemoryBook :=
  match Rule.repeated? [] rules with
  | some id => .error ⟨id⟩
  | none =>
      .ok { book with
        rules
        history := HistoryEntry.capped book.limit (book.history ++ [⟨moment, actor, rules⟩]) }

/-- Insert or replace one rule. -/
def upsert (moment : Int) (actor : String) (rule : Rule) (book : MemoryBook) :
    Except RepeatedName MemoryBook :=
  book.write moment actor (rule.upsertIn book.rules)

/-- A change that went through leaves a new book, one that was refused the old one. -/
def changed (actor : String) (book : MemoryBook) :
    Except RepeatedName MemoryBook → Except RepeatedName Reply × List Notice × MemoryBook
  | .ok new => (.ok .done, [.changed new.rules.length actor], new)
  | .error refused => (.error refused, [], book)

/-- Answer a call at a moment, given in milliseconds. -/
def answer (moment : Int) (call : Call) (book : MemoryBook) :
    Except RepeatedName Reply × List Notice × MemoryBook :=
  match call with
  | .upsert rule actor => book.changed actor (book.upsert moment actor rule)
  | .replaceAll rules actor => book.changed actor (book.write moment actor rules)
  | .list => (.ok (.rules (Rule.active book.rules)), [], book)
  | .listAll => (.ok (.rules book.rules), [], book)
  | .history => (.ok (.history book.history), [], book)
  | .evaluate stack rules context => (.ok (.fired (Firing.of stack context rules)), [], book)
  | .evaluateActive stack context =>
      let rules := Rule.active book.rules
      (.ok (.active rules (Firing.of stack context rules)), [], book)

end MemoryBook

end Appraisal
