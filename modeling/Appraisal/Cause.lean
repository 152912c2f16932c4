import Appraisal.Text.Quoted

/-!
# Causes of failures

What ended a call that did not succeed: the kind of the failure, what it says, and the kinds that it
is a case of.  Who asks for a kind of failure is given every case of it.
-/

namespace Appraisal

/-- What ended a call. -/
structure Cause where
  /-- The kind of the failure. -/
  kind : String
  /-- What it says; a failure need not say anything. -/
  argument : Option String
  /-- The kinds that it is a case of, from the nearest on; that of all failures is left out. -/
  broader : List String
  deriving DecidableEq, Repr, Inhabited

namespace Cause

/-- The kind of a missing key; such a failure says the key in quotes. -/
def missingKey : String := "KeyError"

/-- The failure of a call that took too long. -/
def timeout : Cause := ⟨"TimeoutError", none, ["OSError"]⟩

/-- The failure of a call that a breaker turns away. -/
def circuitOpen : Cause := ⟨"CircuitOpenError", none, []⟩

/-- Whether a failure is of a kind or a case of it. -/
def isA (cause : Cause) (kind : String) : Bool :=
  cause.kind = kind || cause.broader.contains kind

/-- The message of a failure. -/
def message (cause : Cause) : String :=
  match cause.argument with
  | none => ""
  | some argument => if cause.isA missingKey then Text.quoted argument else argument

/-- A failure in one expression: its kind applied to what it says. -/
def described (cause : Cause) : String :=
  cause.kind ++ "(" ++ (cause.argument.map Text.quoted).getD "" ++ ")"

/-- Whether the call took too long. -/
def isTimeout (cause : Cause) : Bool :=
  cause.isA timeout.kind

/-- Whether the call was turned away by a breaker. -/
def isCircuitOpen (cause : Cause) : Bool :=
  cause.isA circuitOpen.kind

end Cause

end Appraisal
