import Appraisal.Cause
import Appraisal.Classification
import Appraisal.Datum.Conversion
import Appraisal.Json.Reader

/-!
# Remote models

A remote model is asked by posting the idea as JSON, and answers with an object that has at least
the name of a category.
-/

namespace Appraisal.Remote

open Validation

/-- A request to a remote model. -/
structure Request where
  /-- Where it goes. -/
  url : String
  /-- What it is authorized by. -/
  authorization : Option String
  /-- What it says. -/
  body : Datum

/-- The request that asks for the classification of an idea; an empty key is none. -/
def Request.ofIdea (url : String) (key : Option String) (idea : Idea) : Request where
  url
  authorization := (key.filter (· ≠ "")).map ("Bearer " ++ ·)
  body := idea.toDatum

/-- The record of a request as it is sent. -/
def Request.toDatum (request : Request) : Datum :=
  .object [("method", .text "POST"), ("url", .text request.url),
    ("authorization", .ofText? request.authorization), ("content_type", .text "application/json"),
    ("body", request.body)]

/-- What is wrong with an answer. -/
inductive Fault
  | status (code : Int)
  /-- It cannot be read as JSON. -/
  | unreadable (fault : Json.Fault)
  | noObject (kind : String)
  | noCategory
  /-- Its confidence is no number. -/
  | confidence (fault : Datum.ConversionFault)
  /-- Its notes are nothing that can be listed. -/
  | notes (kind : String)
  /-- It is no valid classification. -/
  | invalid (problems : List Problem)
  deriving DecidableEq, Repr

/-- The sentence that describes a fault. -/
def Fault.message : Fault → String
  | .noObject "list" => "list indices must be integers or slices, not str"
  | .noObject "str" => "string indices must be integers, not 'str'"
  | .noObject kind => "'" ++ kind ++ "' object is not subscriptable"
  | .noCategory => "'model'"
  | .confidence fault => fault.message
  | .notes kind => "'" ++ kind ++ "' object is not iterable"
  | .unreadable fault => fault.message
  | .status _ | .invalid _ => ""

/-- The kind of failure that a fault is. -/
def Fault.kind : Fault → String
  | .status _ => "HTTPStatusError"
  | .unreadable (.malformed _) => "JSONDecodeError"
  | .unreadable (.tooDeep _) => "RecursionError"
  | .unreadable (.tooManyDigits _) => "ValueError"
  | .noObject _ | .notes _ => "TypeError"
  | .noCategory => Cause.missingKey
  | .confidence (.unreadable _) => "ValueError"
  | .confidence (.noNumber _) => "TypeError"
  | .confidence .tooLarge => "OverflowError"
  | .invalid _ => "ValidationError"

/-- The kinds of failure that a fault is a case of, beside its own. -/
def Fault.broader : Fault → List String
  | .status _ => ["HTTPError"]
  | .unreadable (.malformed _) | .invalid _ => ["ValueError"]
  | .unreadable (.tooDeep _) => ["RuntimeError"]
  | .noCategory => ["LookupError"]
  | .confidence .tooLarge => ["ArithmeticError"]
  | .unreadable (.tooManyDigits _) | .noObject _ | .notes _ | .confidence _ => []

/-- A fault as the cause of a failure; of a status, a malformed text and an invalid classification
only the kind is told. -/
def Fault.cause (fault : Fault) : Cause where
  kind := fault.kind
  broader := fault.broader
  argument :=
    match fault with
    | .status _ | .unreadable (.malformed _) | .invalid _ => none
    | .noCategory => some "model"
    | fault => some fault.message

/-- The remarks in an answer: the items of a list, the characters of a text, the keys of an object. -/
def remarks (notes : Datum) : Except Fault (List Datum) :=
  if notes.isVacant then .ok []
  else
    match notes with
    | .list items => .ok items
    | .text value => .ok (value.toList.map fun character => .text character.toString)
    | .object fields => .ok (fields.map fun field => .text field.1)
    | notes => .error (.notes notes.kind)

/-- The classification in the object of an answer. -/
def ofFields (fields : List (String × Datum)) : Except Fault Classification := do
  let some model := Datum.lookup "model" fields | throw .noCategory
  let confidence ←
    ((Datum.lookup "confidence" fields).getD (.double 0.0)).toDouble.mapError .confidence
  let notes ← remarks ((Datum.lookup "notes" fields).getD .null)
  let record : Datum := .object
    [("model", model), ("confidence", .double confidence),
      ("features", (Datum.lookup "features" fields).getD .null),
      ("notes", .list (notes ++ [.text "ml-inference"])), ("source", .text "ml")]
  (Classification.check record).mapError .invalid

/-- The classification in an answer. -/
def ofDatum : Datum → Except Fault Classification
  | .object fields => ofFields fields
  | datum => .error (.noObject datum.kind)

/-- Whether a status reports success. -/
def isSuccess (status : Int) : Bool :=
  200 ≤ status && status < 300

/-- The classification in the text of an answer, which may start with a byte order mark. -/
def ofText (text : String) : Except Fault Classification :=
  match Json.read (Json.withoutMark text.toList) with
  | .ok datum => ofDatum datum
  | .error fault => .error (.unreadable fault)

/-- The classification in an answer with a status. -/
def receive (status : Int) (text : String) : Except Fault Classification :=
  if isSuccess status then ofText text else .error (.status status)

/-- What comes of an answer: a classification, or the failure that its fault is. -/
def outcome (status : Int) (text : String) : Except Cause Classification :=
  (receive status text).mapError Fault.cause

end Appraisal.Remote
