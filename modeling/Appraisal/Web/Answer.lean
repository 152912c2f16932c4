import Appraisal.Framework.Record
import Appraisal.Simulation.Record
import Appraisal.Web.Request
import Appraisal.Web.Response

/-!
# Answering requests

A service answers one request after the other.  A request first has to be valid, its query and its
body; then the service does what is asked, and whatever goes wrong becomes a response too.
-/

namespace Appraisal

open Validation Web

namespace Question

/-- Read a question from a body. -/
def check : Check Question := fun datum => do
  let fields ← record "EvaluateRequest" datum
  Checked.app (Checked.app (Checked.app (Checked.app (Checked.app (Checked.app (Checked.app
    (.ok fun scores saturation category idea override extras flags =>
      { scores := scores.map fun (name, score) => (name, Datum.double score)
        saturation := .double saturation
        category
        idea := idea.getD Idea.unknown
        override := (override.getD []).map fun (name, weight) => (name, Datum.double weight)
        extras, flags })
    (required fields "dimensions10" (mappingOf number)))
    (defaulted fields "saturation_pct" 0.0 number))
    (absentable fields "category" (memberOf Category.options)))
    (absentable fields "classification" Idea.check))
    (absentable fields "weight_override" (mappingOf number)))
    (defaulted fields "context" [] mapping))
    (defaulted fields "flags" [] (listOf text))

end Question

/-- What is asked about the score of an idea alone. -/
structure ScoreQuestion where
  /-- The category; an unknown name counts as general. -/
  category : Category
  scores : List (String × Float)
  /-- How saturated the market is, in percent. -/
  saturation : Float
  /-- Weights that the caller sets, by name. -/
  override : Option (List (String × Float))

namespace ScoreQuestion

/-- Read a question from a body. -/
def check : Check ScoreQuestion := fun datum => do
  let fields ← record "ScoreRequest" datum
  Checked.app (Checked.app (Checked.app (Checked.app (.ok ScoreQuestion.mk)
    ((required fields "category" text).map Category.ofName))
    (required fields "dimensions10" (mappingOf number)))
    (defaulted fields "saturation_pct" 0.0 number))
    (absentable fields "weight_override" (mappingOf number))

/-- The outcome of the score. -/
def outcome (question : ScoreQuestion) : Except Weights.Fault (Outcome Float) := do
  let override ← Weights.Override.ofFields .ok (question.override.getD [])
  Scoring.evaluate Double.brief question.category
    (PerDimension.ofFunction fun dimension =>
      (question.scores.lookup dimension.name).getD Double.undefined)
    question.saturation override

end ScoreQuestion

/-- Read raw rules from a body. -/
def checkRuleSet : Check (List Datum) := fun datum => do
  let fields ← record "RulesUpdateRequest" datum
  required fields "rules" (listOf fun rule => (mapping rule).map .object)

namespace Service

/-- Respond to a checked request. -/
def responding {α : Type} (service : Service) (checked : Checked α)
    (respond : α → Response × Service) : Response × Service :=
  match checked with
  | .ok given => respond given
  | .error found => (.problems found, service)

/-- Give the rules, with their history if it is asked for. -/
def listRules (occasion : Occasion) (request : Request) (service : Service) : Response × Service :=
  service.responding (request.fromQuery "history" false truth) fun withHistory =>
    let listed : Except StoreFault (List (String × Datum)) := do
      let rules ← service.rules occasion
      let history ← if withHistory then (service.history occasion).map some else pure none
      pure ([("rules", .list (rules.map Rule.payload))] ++
        (history.map fun entries => ("history", .list (entries.map HistoryEntry.payload))).toList)
    match listed with
    | .ok fields => (.ok (.object fields), service)
    | .error fault => (.ofStoreFault fault, service)

/-- Replace all rules; every one of the raw rules has to be valid. -/
def replaceRules (occasion : Occasion) (request : Request) (service : Service) :
    Response × Service :=
  service.responding (request.body.check checkRuleSet) fun raw =>
    match Rule.checkAll raw with
    | .error invalid => (.detail 400 invalid.message, service)
    | .ok rules =>
        let (reply, _, service) := service.ask occasion (.replaceAll rules request.actor)
        (.ofChange rules.length reply, service)

/-- Insert or replace the rule with a name, whatever name the body gives. -/
def putRule (occasion : Occasion) (request : Request) (id : String) (service : Service) :
    Response × Service :=
  service.responding (request.body.check mapping) fun fields =>
    match Rule.checkRaw (.object (Datum.insert "id" (.text id) fields)) with
    | .error invalid => (.detail 400 invalid.message, service)
    | .ok rule =>
        let (reply, _, service) := service.ask occasion (.upsert rule request.actor)
        (.ofChange 1 reply, service)

/-- Assess an idea. -/
def assessIdea (occasion : Occasion) (request : Request) (service : Service) :
    Response × Service :=
  service.responding (request.body.check Question.check) fun question =>
    let assessed := service.assess occasion question
    match assessed.result with
    | .ok assessment => (.ok assessment.toDatum, assessed.service)
    | .error fault => (.ofAssessmentFault service.settings.confidence fault, assessed.service)

/-- Score an idea. -/
def scoreIdea (request : Request) (service : Service) : Response × Service :=
  service.responding (request.body.check ScoreQuestion.check) fun question =>
    match question.outcome with
    | .ok outcome => (.ok outcome.toDatum, service)
    | .error fault => (.detail 400 fault.message, service)

/-- Activate frameworks for a profile. -/
def activate (request : Request) (service : Service) : Response × Service :=
  service.responding (request.body.check Profile.check) fun profile =>
    (.ok (Activation.ofProfile profile).withCriteria, service)

/-- The count of runs and the seed in a query; the draws do not depend on the seed. -/
def simulationQuery (request : Request) : Checked (Int × Option Int) :=
  Checked.app (Checked.app (.ok Prod.mk)
    (request.fromQuery "runs" 5000 fun datum => (whole datum).bind (wholeBetween 1 50000)))
    (request.fromQuery "seed" none (optional whole))

/-- Simulate under the assumptions of a body. -/
def simulate {plan outcome : Type} (request : Request) (check : Check plan)
    (run : plan → (runs : Nat) → outcome) (toDatum : outcome → Datum) (service : Service) :
    Response × Service :=
  service.responding (request.withQuery (simulationQuery request) check) fun (settings, plan) =>
    (.ok (toDatum (run plan settings.1.toNat)), service)

/-- Respond to a request for a resource. -/
def respondAt (occasion : Occasion) (draws : Simulation.Draws Float) (request : Request)
    (service : Service) : Resource → Response × Service
  | .health => (.ok (.object [("status", .text "ok")]), service)
  | .rules =>
      if request.method = "GET" then service.listRules occasion request
      else service.replaceRules occasion request
  | .rule id => service.putRule occasion request id
  | .assessment => service.assessIdea occasion request
  | .score => service.scoreIdea request
  | .policy => (.ok policyTable, service)
  | .frameworks => service.activate request
  | .payback =>
      service.simulate request Simulation.PaybackPlan.check
        (fun plan runs => plan.simulate draws runs) Simulation.Payback.toDatum
  | .ratio =>
      service.simulate request Simulation.RatioPlan.check
        (fun plan runs => plan.simulate draws runs) Simulation.RatioBands.toDatum

/-- Whether a body is looked at and is too much to read. -/
def isExcessive (request : Request) : Bool :=
  match request.body with
  | .excessive => request.method ≠ "GET"
  | _ => false

/-- Respond to a request with all that the response carries. -/
def respondInFull (occasion : Occasion) (draws : Simulation.Draws Float) (request : Request)
    (service : Service) : Response × Service :=
  match Destination.ofPath request.path with
  | .nowhere => (.notFound, service)
  | .elsewhere => (.redirection, service)
  | .resource resource =>
      if resource.methods.contains request.method then
        if isExcessive request then (.unparsable, service)
        else service.respondAt occasion draws request resource
      else (.methodNotAllowed, service)

/-- Respond to a request; one for the head alone gets nothing more. -/
def respond (occasion : Occasion) (draws : Simulation.Draws Float) (request : Request)
    (service : Service) : Response × Service :=
  let (response, service) := service.respondInFull occasion draws request
  (if request.method = "HEAD" then response.headOnly else response, service)

end Service

end Appraisal
