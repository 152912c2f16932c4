import Appraisal.Service.Assessment
import Appraisal.Validation.Record

/-!
# Responses

A response has a status and a body: a record, a sentence in a record, or a plain text.  Records in
responses hold no infinite and no undefined doubles; null stands in their places.
-/

namespace Appraisal.Web

open Validation

/-- What a response carries. -/
inductive Content
  | datum (value : Datum)
  | plain (text : String)

/-- What a service responds. -/
structure Response where
  status : Nat
  content : Content

namespace Response

/-- A record. -/
def ok (value : Datum) : Response :=
  ⟨200, .datum value.withoutSpecials⟩

/-- A sentence on what is wrong. -/
def detail (status : Nat) (sentence : String) : Response :=
  ⟨status, .datum (.object [("detail", .text sentence)])⟩

/-- There is nothing under the path. -/
def notFound : Response := detail 404 "Not Found"

/-- The path without slashes at its end is the one to ask. -/
def redirection : Response := ⟨307, .plain ""⟩

/-- What is under the path has no such method. -/
def methodNotAllowed : Response := detail 405 "Method Not Allowed"

/-- A response without what it carries. -/
def headOnly (response : Response) : Response := { response with content := .plain "" }

/-- The service has no answer to the request. -/
def internal : Response := ⟨500, .plain "Internal Server Error"⟩

/-- The body is too much to read. -/
def unparsable : Response := detail 400 "There was an error parsing the body"

/-- The problems of query and body. -/
def problems (found : List Problem) : Response :=
  ⟨422, .datum (.object [("detail", .list (found.map Problem.toDatum))])⟩

/-- The response to a fault of the store. -/
def ofStoreFault (fault : StoreFault) : Response :=
  match fault with
  | .ledger (.repeated refused) => detail 400 refused.message
  | .outage | .ledger (.reading ..) | .ledger (.writing ..) => detail 503 StoreFault.outage.message
  | .ledger (.expiry _) | .ledger (.lifetime _) | .ledger (.invalid _) => internal

/-- A problem of a double, with what was given. -/
def problemText (given : Float) (problem : Problem) : String :=
  String.intercalate "." (problem.location.map fun
    | .key name => name
    | .index position => toString position) ++
  "\n  " ++ problem.defect.message ++ " [type=" ++ problem.defect.code ++ ", input_value=" ++
    Double.text given ++ ", input_type=float]"

/-- The text for a record of a kind that is not valid because of a double. -/
def problemsText (kind : String) (given : Float) (found : List Problem) : String :=
  String.intercalate "\n" ((toString found.length ++ " validation error" ++
    (if found.length = 1 then "" else "s") ++ " for " ++ kind) :: found.map (problemText given))

/-- The response where there is no assessment, given how sure a classification by hints would be. -/
def ofAssessmentFault (confidence : Float) (fault : AssessmentFault) : Response :=
  match fault with
  | .classification (.invalid found) =>
      detail 400 (problemsText "ClassificationResult" confidence found)
  | .classification .abandoned => internal
  | .scoring (.weights fault) => detail 400 fault.message
  | .scoring _ | .context _ => internal
  | .store fault => ofStoreFault fault
  | .condition .tooLarge => internal
  | .condition fault => detail 400 fault.message

/-- The response to a change of the rules: how many rules came with it. -/
def ofChange {α : Type} (count : Nat) (changed : Except StoreFault α) : Response :=
  match changed with
  | .ok _ => ok (.object [("ok", .truth true), ("count", .whole count)])
  | .error fault => ofStoreFault fault

end Response

end Appraisal.Web
