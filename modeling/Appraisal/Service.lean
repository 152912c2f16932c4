import Appraisal.Classification.Classifier
import Appraisal.RuleBook.Store
import Appraisal.Settings

/-!
# Services

A service consists of a classifier with its breaker, a rule store, and the settings that both were
built from.  Settings that nothing can be built from are refused at the start.
-/

namespace Appraisal

/-- Why a service does not start. -/
inductive StartFault
  /-- The breaker would open before the first failure. -/
  | threshold
  /-- There is no such place for rules. -/
  | unknownBackend (name : String)
  /-- The remote table is not told, or what opens it. -/
  | noAccess
  /-- The remote table has no address that could be one. -/
  | invalidAddress
  deriving DecidableEq, Repr

/-- The sentence that describes a fault. -/
def StartFault.message : StartFault → String
  | .threshold => BreakerPlan.refusal
  | .unknownBackend name => "Unknown RULE_STORE_BACKEND: " ++ name
  | .noAccess => "SUPABASE_URL and SUPABASE_SERVICE_ROLE_KEY are required for the supabase rule store"
  | .invalidAddress => "Failed to initialize Supabase client: Invalid URL"

/-- The address of a remote model, with what opens it; an empty address is none. -/
structure ModelEndpoint where
  url : String
  /-- What opens it; an empty key is none. -/
  key : Option String
  deriving DecidableEq, Repr

/-- A text that says something. -/
def Settings.given (text : Option String) : Option String :=
  text.filter (· ≠ "")

/-- The remote model of the settings. -/
def Settings.endpoint? (settings : Settings) : Option ModelEndpoint :=
  (Settings.given settings.modelUrl).map fun url => ⟨url, Settings.given settings.modelKey⟩

/-- The classifier of the settings. -/
def ClassifierPlan.ofSettings (settings : Settings) : Except StartFault ClassifierPlan :=
  match BreakerPlan.ofThreshold? "ml-classifier" settings.failureThreshold
      (.whole settings.cooldown) with
  | none => .error .threshold
  | some breaker =>
      .ok { confidence := .double settings.confidence
            hasModel := settings.endpoint?.isSome
            breaker }

/-- How the settings use the remote table. -/
def LedgerPlan.ofSettings (settings : Settings) : LedgerPlan where
  table := settings.table
  rulesLifetime := settings.rulesLifetime
  historyLifetime := settings.historyLifetime
  limit := settings.historyLimit

/-- Whether a text is a web address, as far as its start tells: a scheme, and then something on the
same line. -/
def Settings.isAddress (text : String) : Bool :=
  ["http://".toList, "https://".toList].any fun scheme =>
    match scheme.isPrefixOf text.toList, text.toList.drop scheme.length with
    | true, first :: _ => first ≠ '\n'
    | _, _ => false

/-- The store of the settings, empty. -/
def Store.ofSettings (settings : Settings) : Except StartFault Store :=
  match Text.lowerCase settings.backend with
  | "memory" => .ok (.memory (MemoryBook.ofRules [] settings.historyLimit))
  | "supabase" =>
      match Settings.given settings.tableUrl, Settings.given settings.tableKey with
      | some url, some _ =>
          if Settings.isAddress url then .ok (.ledger (LedgerPlan.ofSettings settings) Table.empty)
          else .error .invalidAddress
      | _, _ => .error .noAccess
  | _ => .error (.unknownBackend settings.backend)

/-- A running service. -/
structure Service where
  settings : Settings
  classifier : ClassifierPlan
  /-- The breaker before the model. -/
  breaker : Breaker Float
  /-- The rule store. -/
  store : Store

/-- Start a service; a classifier that cannot be built is noticed before a store that cannot. -/
def Service.start (settings : Settings) : Except StartFault Service := do
  let classifier ← ClassifierPlan.ofSettings settings
  let store ← Store.ofSettings settings
  pure { settings, classifier, breaker := Breaker.initial, store }

/-- What a service meets while it does something. -/
structure Occasion where
  /-- What its store meets. -/
  here : Circumstance
  /-- Whether its store is out of order. -/
  outage : Bool
  /-- The clock of its breaker, in milliseconds. -/
  tick : Float
  /-- What its remote model does when it is asked. -/
  model : ModelReply
  /-- How many calls there is room for on the stack when rules are fired. -/
  stack : Nat

/-- Ask the store of a service. -/
def Service.ask (occasion : Occasion) (call : Call) (service : Service) :
    Except StoreFault Reply × List Notice × Service :=
  if occasion.outage then (Store.answerInOutage call, [], service)
  else
    let (reply, notices, store) := service.store.answer occasion.here call
    (reply, notices, { service with store })

/-- All rules of a service. -/
def Service.rules (occasion : Occasion) (service : Service) : Except StoreFault (List Rule) :=
  if occasion.outage then .error .outage else service.store.rules occasion.here

/-- The history of the rules of a service. -/
def Service.history (occasion : Occasion) (service : Service) :
    Except StoreFault (List HistoryEntry) :=
  if occasion.outage then .error .outage else service.store.history occasion.here

end Appraisal
