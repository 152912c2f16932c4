import Appraisal.Json.Reader
import Appraisal.Validation.Field
import Appraisal.Web.Route

/-!
# Requests

A request has a method, a path, a query, and perhaps a body.  Query and body are checked like other
data; the location of a problem says which of the two it is in.
-/

namespace Appraisal.Web

open Validation

/-- What a request carries. -/
inductive Body
  | absent
  /-- A text that is not JSON; reading stopped at the position. -/
  | unreadable (position : Nat)
  /-- A text that is too much to read. -/
  | excessive
  | datum (value : Datum)

/-- The body of a text. -/
def Body.ofText (text : String) : Body :=
  if text = "" then .absent
  else
    match Json.read (Json.withoutMark text.toList) with
    | .ok value => .datum value
    | .error (.malformed position) => .unreadable position
    | .error _ => .excessive

/-- What is asked of a service. -/
structure Request where
  method : String
  /-- The path, without query. -/
  path : String
  /-- The query; the last of several values of a name counts. -/
  query : List (String × String)
  headers : List (String × String)
  body : Body
  /-- Where the request comes from. -/
  client : String

/-- In a request an object may be of any kind. -/
def generally {α : Type} (outcome : Checked α) : Checked α :=
  outcome.mapError <| List.map fun problem =>
    match problem.defect with
    | .recordExpected _ => { problem with defect := .fieldsExpected }
    | _ => problem

/-- Check a body; null is as good as nothing. -/
def Body.check {α : Type} (check : Check α) (body : Body) : Checked α :=
  Checked.under (.key "body") <|
    match body with
    | .absent | .excessive | .datum .null => .refuse .missing
    | .unreadable position => .error [⟨.unreadable, [.index position]⟩]
    | .datum value => generally (check value)

namespace Request

/-- The value of a header; case is of no meaning in its name. -/
def header? (request : Request) (name : String) : Option String :=
  (request.headers.find? fun header => Text.lowerCase header.1 = name).map Prod.snd

/-- Who makes the request: the first place it was forwarded from, or where it comes from. -/
def actor (request : Request) : String :=
  let forwarded := (request.header? "x-forwarded-for").getD ""
  let first := Text.trimmed (((Text.parts ',' forwarded.toList).head?).getD [])
  if first.isEmpty then request.client else String.ofList first

/-- The query as a record. -/
def queryFields (request : Request) : List (String × Datum) :=
  request.query.foldl (fun fields (name, value) => Datum.insert name (.text value) fields) []

/-- Check a part of the query that has a default. -/
def fromQuery {α : Type} (request : Request) (name : String) (default : α) (check : Check α) :
    Checked α :=
  (defaulted request.queryFields name default check).under (.key "query")

/-- Check the body together with the query; a body that is not JSON is noticed before anything. -/
def withQuery {α β : Type} (request : Request) (query : Checked α) (check : Check β) :
    Checked (α × β) :=
  match request.body with
  | .unreadable position => .error [⟨.unreadable, [.key "body", .index position]⟩]
  | body => Checked.app (Checked.app (.ok Prod.mk) query) (body.check check)

end Request

end Appraisal.Web
