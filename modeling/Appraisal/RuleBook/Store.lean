import Appraisal.RuleBook.Ledger

/-!
# Stores

A store keeps a rule book in memory or in a table.  While it is out of order nothing can be loaded
from it or saved to it.
-/

namespace Appraisal

/-- A rule book, wherever it is kept. -/
inductive Store
  | memory (book : MemoryBook)
  | ledger (plan : LedgerPlan) (table : Table)

/-- Why a store does not answer. -/
inductive StoreFault
  | outage
  | ledger (fault : LedgerFault)
  deriving DecidableEq, Repr

/-- The sentence that describes a fault. -/
def StoreFault.message : StoreFault → String
  | .outage => "Rule store unavailable"
  | .ledger fault => fault.message

/-- What is reported about a fault at a key of the table. -/
def StoreFault.notices (key : String) : StoreFault → List Notice
  | .outage => []
  | .ledger fault => Ledger.faultNotices key fault

namespace Store

/-- Answer a call: with a reply or a fault, with what is reported, and with the store after it. -/
def answer (here : Circumstance) (call : Call) :
    Store → Except StoreFault Reply × List Notice × Store
  | .memory book =>
      let (reply, notices, book) := book.answer here.moment call
      (reply.mapError fun refused => .ledger (.repeated refused), notices, .memory book)
  | .ledger plan table =>
      let (reply, notices, table) := Ledger.answer plan here call table
      (reply.mapError .ledger, notices, .ledger plan table)

/-- All rules, in order. -/
def rules (here : Circumstance) : Store → Except StoreFault (List Rule)
  | .memory book => .ok book.rules
  | .ledger plan table => (Ledger.loadRules plan here table).mapError .ledger

/-- The changes that are kept, the latest one last. -/
def history (here : Circumstance) : Store → Except StoreFault (List HistoryEntry)
  | .memory book => .ok book.history
  | .ledger plan table => (Ledger.loadHistory plan here table).mapError .ledger

/-- Answer a call while the store is out of order: only what needs no loading and no saving. -/
def answerInOutage : Call → Except StoreFault Reply
  | .replaceAll rules _ =>
      match Rule.repeated? [] rules with
      | some id => .error (.ledger (.repeated ⟨id⟩))
      | none => .error .outage
  | .evaluate stack rules context => .ok (.fired (Firing.of stack context rules))
  | _ => .error .outage

end Store

end Appraisal
