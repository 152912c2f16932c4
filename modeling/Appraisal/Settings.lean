import Appraisal.Datum.Record
import Appraisal.Log.Entry
import Appraisal.Validation.Field

/-!
# Settings

The settings of a service come as named texts; every setting has a default, and names that are no
settings are left alone.
-/

namespace Appraisal

open Validation

/-- The settings of a service. -/
structure Settings where
  /-- The stage of deployment. -/
  stage : String
  backend : String
  /-- Where the remote table is. -/
  tableUrl : Option String
  /-- What opens the remote table. -/
  tableKey : Option String
  table : String
  /-- How long rules are kept there, in seconds. -/
  rulesLifetime : Int
  /-- How long the history is kept there, in seconds. -/
  historyLifetime : Int
  /-- How many history entries are kept. -/
  historyLimit : Int
  /-- Where the remote model is. -/
  modelUrl : Option String
  /-- What opens the remote model. -/
  modelKey : Option String
  /-- How long the remote model may take, in seconds. -/
  modelTimeout : Float
  /-- How sure a classification by hints is. -/
  confidence : Float
  /-- After how many failures the breaker opens. -/
  failureThreshold : Int
  /-- How long the breaker cools down, in milliseconds. -/
  cooldown : Int
  /-- From which score on an idea goes ahead. -/
  goMinimum : Int
  /-- From which score on an idea is reviewed. -/
  reviewMinimum : Int
  deriving DecidableEq, Inhabited

namespace Settings

/-- Read settings from named data. -/
def ofFields (fields : List (String × Datum)) : Checked Settings :=
  Checked.app (Checked.app (Checked.app (Checked.app (Checked.app (Checked.app (Checked.app
  (Checked.app (Checked.app (Checked.app (Checked.app (Checked.app (Checked.app (Checked.app
  (Checked.app (Checked.app (.ok Settings.mk)
    (defaulted fields "ADAPTIVE_ENGINE_ENV" "dev" text))
    (defaulted fields "RULE_STORE_BACKEND" "memory" text))
    (absentable fields "SUPABASE_URL" text))
    (absentable fields "SUPABASE_SERVICE_ROLE_KEY" text))
    (defaulted fields "RULES_TABLE" "adaptive_kv" text))
    (defaulted fields "RULES_TTL_SECONDS" 3600 whole))
    (defaulted fields "RULES_HISTORY_TTL_SECONDS" 604800 whole))
    (defaulted fields "RULES_HISTORY_LIMIT" 50 (fun datum => (whole datum).bind (atLeast 0))))
    (absentable fields "CLASSIFIER_ML_URL" text))
    (absentable fields "CLASSIFIER_ML_API_KEY" text))
    (defaulted fields "CLASSIFIER_ML_TIMEOUT_SECONDS" 3.0 number))
    (defaulted fields "CLASSIFIER_HEURISTIC_CONFIDENCE" 0.6 number))
    (defaulted fields "CLASSIFIER_BREAKER_FAILURE_THRESHOLD" 3 whole))
    (defaulted fields "CLASSIFIER_BREAKER_HALF_OPEN_AFTER_MS" 30000 whole))
    (defaulted fields "DECISION_GO_MIN" 70 whole))
    (defaulted fields "DECISION_REVIEW_MIN" 40 whole)

/-- Settings as named data. -/
def toDatum (settings : Settings) : Datum :=
  .object
    [("ADAPTIVE_ENGINE_ENV", .text settings.stage), ("RULE_STORE_BACKEND", .text settings.backend),
      ("SUPABASE_URL", .ofText? settings.tableUrl),
      ("SUPABASE_SERVICE_ROLE_KEY", .ofText? settings.tableKey),
      ("RULES_TABLE", .text settings.table), ("RULES_TTL_SECONDS", .whole settings.rulesLifetime),
      ("RULES_HISTORY_TTL_SECONDS", .whole settings.historyLifetime),
      ("RULES_HISTORY_LIMIT", .whole settings.historyLimit),
      ("CLASSIFIER_ML_URL", .ofText? settings.modelUrl),
      ("CLASSIFIER_ML_API_KEY", .ofText? settings.modelKey),
      ("CLASSIFIER_ML_TIMEOUT_SECONDS", .double settings.modelTimeout),
      ("CLASSIFIER_HEURISTIC_CONFIDENCE", .double settings.confidence),
      ("CLASSIFIER_BREAKER_FAILURE_THRESHOLD", .whole settings.failureThreshold),
      ("CLASSIFIER_BREAKER_HALF_OPEN_AFTER_MS", .whole settings.cooldown),
      ("DECISION_GO_MIN", .whole settings.goMinimum),
      ("DECISION_REVIEW_MIN", .whole settings.reviewMinimum)]

/-- The least level that is logged: everything during development, and without valid settings what
is logged otherwise. -/
def logLevel (settings : Checked Settings) : Log.Level :=
  match settings with
  | .ok settings => if settings.stage = "dev" then Log.debug else Log.info
  | .error _ => Log.info

end Settings

end Appraisal
