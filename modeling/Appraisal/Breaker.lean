import Appraisal.Cause
import Appraisal.Datum.Conversion
import Appraisal.Log.Entry

/-!
# Circuit breakers

A breaker guards calls to something that may fail.  After a number of failures in a row the circuit
opens and calls are turned away; once it has cooled down the next look at it makes it half open, and
the call that is let through then decides whether it closes or opens again.

A call has two moments: it is admitted or turned away, and an admitted call ends some time later.
Other calls may come between the two.  Nothing happens inside a breaker between these moments, so a
history of a breaker is a row of such events, each with its time.

The cooldown is a number of any size, while the times of the clock are doubles, or rationals where
they are read exactly.  Time that has passed is compared with the cooldown by value.  Only the time
that is left is computed on the scale of the clock, and a cooldown that is too large for doubles has
no such time.
-/

namespace Appraisal

/-- The state of a circuit. -/
inductive Circuit
  /-- Calls go through. -/
  | closed
  /-- Calls are turned away. -/
  | opened
  /-- The next call to end decides. -/
  | halfOpen
  deriving DecidableEq, Repr, Inhabited

/-- The name of a state. -/
def Circuit.name : Circuit → String
  | .closed => "closed"
  | .opened => "open"
  | .halfOpen => "half-open"

/-- The times of a clock, in milliseconds. -/
class Timescale (τ : Type) extends Sub τ where
  /-- The time that stands for none. -/
  origin : τ
  /-- Where a time is on the line of numbers. -/
  extent : τ → Extent
  /-- The time that is nearest to a number, if there is one. -/
  ofNumber? : Number → Option τ

instance : Timescale Float where
  origin := 0.0
  extent := Extent.ofFloat
  ofNumber? := Number.toFloat?

instance : Timescale Rat where
  origin := 0
  extent := .finite
  ofNumber? number := number.extent.value?

/-- What is fixed about a breaker. -/
structure BreakerPlan where
  /-- What it is called. -/
  name : String
  /-- After how many failures in a row it opens. -/
  threshold : Nat
  /-- It takes at least one failure. -/
  positive : 0 < threshold
  /-- How long it cools down, in milliseconds. -/
  cooldown : Number

/-- A plan with the given threshold, unless that is not positive. -/
def BreakerPlan.ofThreshold? (name : String) (threshold : Int) (cooldown : Number) :
    Option BreakerPlan :=
  if given : 1 ≤ threshold then some ⟨name, threshold.toNat, by omega, cooldown⟩ else none

/-- What is said of a threshold that is not positive. -/
def BreakerPlan.refusal : String := "failure_threshold must be >= 1"

/-- What changes about a breaker. -/
structure Breaker (τ : Type) where
  circuit : Circuit
  /-- How many calls have failed since the last success. -/
  failures : Nat
  /-- When the circuit opened last, in milliseconds. -/
  openedAt : τ
  deriving DecidableEq

/-- A change of the state of a circuit. -/
structure Transition where
  before : Circuit
  after : Circuit
  /-- Why the circuit opened; nothing is said of other changes. -/
  reason : String
  deriving DecidableEq, Repr

/-- The log entry of a transition. -/
def Transition.entry (name : String) (transition : Transition) : Log.Entry :=
  Log.report (if transition.after = .opened then Log.warning else Log.info)
    "app.core.circuit_breaker"
    ("Circuit breaker '" ++ name ++ "': " ++ transition.before.name ++ " → " ++
      transition.after.name)
    [("breaker", .text name), ("reason", .text transition.reason)]

/-- How an admitted call ends. -/
inductive Ending
  | success
  /-- It fails; the cause is what the transition reports. -/
  | failure (cause : Cause)
  /-- It is called off, which says nothing about what it called. -/
  | abandoned
  deriving DecidableEq, Repr

namespace Breaker

variable {τ : Type} [Timescale τ]

/-- A breaker at the start: closed, without failures. -/
def initial : Breaker τ :=
  ⟨.closed, 0, Timescale.origin⟩

/-- Change the state of the circuit; a change to the same state is none. -/
def move (target : Circuit) (reason : String) (breaker : Breaker τ) :
    Breaker τ × List Transition :=
  if target = breaker.circuit then (breaker, [])
  else ({ breaker with circuit := target }, [⟨breaker.circuit, target, reason⟩])

/-- Open the circuit at a time. -/
def trip (now : τ) (reason : String) (breaker : Breaker τ) : Breaker τ × List Transition :=
  { breaker with openedAt := now }.move .opened reason

/-- Whether a breaker that opened has cooled down. -/
def isCool (plan : BreakerPlan) (now : τ) (breaker : Breaker τ) : Bool :=
  plan.cooldown.extent.atMost (Timescale.extent (now - breaker.openedAt))

/-- Look at a breaker: an open one that has cooled down becomes half open. -/
def settle (plan : BreakerPlan) (now : τ) (breaker : Breaker τ) :
    Breaker τ × List Transition :=
  if breaker.circuit = .opened ∧ breaker.isCool plan now then breaker.move .halfOpen ""
  else (breaker, [])

/-- How long a call that is turned away should wait, if a time of the clock can say it. -/
def retryAfter? (plan : BreakerPlan) (now : τ) (breaker : Breaker τ) : Option τ :=
  (Timescale.ofNumber? plan.cooldown).map fun cooldown => cooldown - (now - breaker.openedAt)

/-- What a breaker says to a call. -/
inductive Admission (τ : Type)
  | admitted
  /-- The call is turned away and should wait, as long as is said if that can be said. -/
  | rejected (retryAfter : Option τ)
  deriving DecidableEq

/-- Whether a call is let through. -/
def Admission.isAdmitted : Admission τ → Bool
  | .admitted => true
  | .rejected _ => false

/-- Why a call that is turned away fails. -/
def refusal : (retryAfter : Option τ) → Cause
  | some _ => Cause.circuitOpen
  | none => ⟨"OverflowError", some Datum.ConversionFault.tooLarge.message, ["ArithmeticError"]⟩

/-- Ask for a call: it is turned away if the circuit is open after a look at it. -/
def ask (plan : BreakerPlan) (now : τ) (breaker : Breaker τ) :
    Admission τ × Breaker τ × List Transition :=
  let (settled, transitions) := breaker.settle plan now
  if settled.circuit = .opened then (.rejected (settled.retryAfter? plan now), settled, transitions)
  else (.admitted, settled, transitions)

/-- An admitted call succeeds: failures are forgotten, and a half-open circuit closes. -/
def succeed (breaker : Breaker τ) : Breaker τ × List Transition :=
  let cleared := { breaker with failures := 0 }
  if cleared.circuit = .halfOpen then cleared.move .closed "" else (cleared, [])

/-- An admitted call fails: a half-open circuit opens again, a closed one at the threshold. -/
def fail (plan : BreakerPlan) (now : τ) (cause : Cause) (breaker : Breaker τ) :
    Breaker τ × List Transition :=
  let counted := { breaker with failures := breaker.failures + 1 }
  match counted.circuit with
  | .halfOpen => counted.trip now ("probe failed: " ++ cause.described)
  | .closed =>
      if plan.threshold ≤ counted.failures then
        counted.trip now (toString counted.failures ++ " consecutive failures")
      else (counted, [])
  | .opened => (counted, [])

/-- An admitted call ends. -/
def complete (plan : BreakerPlan) (now : τ) (ending : Ending) (breaker : Breaker τ) :
    Breaker τ × List Transition :=
  match ending with
  | .success => breaker.succeed
  | .failure cause => breaker.fail plan now cause
  | .abandoned => (breaker, [])

/-- Make a call at one time that ends at another, with nothing between the two. -/
def call (plan : BreakerPlan) (asked ended : τ) (ending : Ending) (breaker : Breaker τ) :
    Admission τ × Breaker τ × List Transition :=
  let (admission, admitted, first) := breaker.ask plan asked
  match admission with
  | .rejected retryAfter => (.rejected retryAfter, admitted, first)
  | .admitted =>
      let (completed, second) := admitted.complete plan ended ending
      (.admitted, completed, first ++ second)

/-- Close the circuit by hand and forget everything. -/
def reset (breaker : Breaker τ) : Breaker τ × List Transition :=
  { breaker with failures := 0, openedAt := Timescale.origin }.move .closed ""

end Breaker

/-- What is said to a call that is turned away. -/
def BreakerPlan.rejection (plan : BreakerPlan) (retryAfter : Float) : String :=
  "Circuit '" ++ plan.name ++ "' is open; retry after " ++ Double.wholeText retryAfter ++ "ms"

/-- The record of what changes about a breaker. -/
def Breaker.toDatum (breaker : Breaker Float) : Datum :=
  .object [("state", .text breaker.circuit.name), ("failures", .whole breaker.failures),
    ("last_opened_at", .double breaker.openedAt)]

/-- The record of a breaker as it is after a look at it. -/
def Breaker.statistics (plan : BreakerPlan) (breaker : Breaker Float) : Datum :=
  .object [("name", .text plan.name), ("state", .text breaker.circuit.name),
    ("failures", .whole breaker.failures), ("failure_threshold", .whole plan.threshold),
    ("half_open_after_ms", .number plan.cooldown),
    ("last_opened_at", if breaker.openedAt == 0.0 then .null else .double breaker.openedAt)]

end Appraisal
