import Appraisal.Text.Parts
import Appraisal.Text.Percent

/-!
# Routes

What a service offers is found by path and method.  A path may hold percent escapes.  One with
slashes at its end leads to nothing by itself, but where the path without them leads to a resource,
the asker is sent there.
-/

namespace Appraisal.Web

/-- What a path leads to. -/
inductive Resource
  | health
  | rules
  | rule (id : String)
  /-- The assessment of an idea. -/
  | assessment
  /-- The score of an idea, without rules. -/
  | score
  /-- The policy of every category. -/
  | policy
  /-- The frameworks that a profile activates. -/
  | frameworks
  | payback
  /-- The simulation of value over cost. -/
  | ratio
  deriving DecidableEq, Repr

namespace Resource

/-- The resource of the parts of a path. -/
def ofParts? : List String → Option Resource
  | ["", "health"] => some .health
  | ["", "v1", "adaptive", "rules"] => some .rules
  | ["", "v1", "adaptive", "rules", id] => if id = "" then none else some (.rule id)
  | ["", "v1", "adaptive", "evaluate"] => some .assessment
  | ["", "v1", "adaptive", "score"] => some .score
  | ["", "v1", "adaptive", "policy"] => some .policy
  | ["", "v1", "adaptive", "policy", "decide"] => some .frameworks
  | ["", "v1", "adaptive", "simulate", "payback"] => some .payback
  | ["", "v1", "adaptive", "simulate", "ltv-cac"] => some .ratio
  | _ => none

/-- The resource of a path without escapes; a line feed at its end is ignored if nothing fits it. -/
def ofPlain? (path : List Char) : Option Resource :=
  let ofText? (text : List Char) := ofParts? ((Text.parts '/' text).map String.ofList)
  (ofText? path).or (if path.getLast? = some '\n' then ofText? path.dropLast else none)

/-- The methods of a resource. -/
def methods : Resource → List String
  | .rules => ["GET", "POST"]
  | .rule _ => ["PUT"]
  | .health | .policy => ["GET"]
  | .assessment | .score | .frameworks | .payback | .ratio => ["POST"]

end Resource

/-- Where a path leads. -/
inductive Destination
  | resource (found : Resource)
  /-- To nothing, but without the slashes at its end it would lead to a resource. -/
  | elsewhere
  | nowhere
  deriving DecidableEq, Repr

namespace Destination

/-- A path without slashes at its end. -/
def withoutSlashes (path : List Char) : List Char :=
  (path.reverse.dropWhile (· = '/')).reverse

/-- Where a path leads. -/
def ofPath (path : String) : Destination :=
  let plain := (Text.Percent.decode path).toList
  match Resource.ofPlain? plain with
  | some found => resource found
  | none =>
      match Resource.ofPlain? (withoutSlashes plain) with
      | some _ => elsewhere
      | none => nowhere

end Destination

end Appraisal.Web
