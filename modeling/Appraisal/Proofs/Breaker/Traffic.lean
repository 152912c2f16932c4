import Appraisal.Proofs.Breaker.Change

/-!
# Overlapping calls at a breaker

Any number of calls may be under way at one breaker.  Each is let through or turned away at one
event and ends at a later one; looks, resets and the events of other calls come between the two in
any order.  A call that was let through keeps what the circuit was then, and how often it had become
half open, so that the probes of the latest half-open circuit can be told from all other calls.
-/

namespace Appraisal.Breaker

/-- A call under way. -/
structure Flight where
  /-- What the circuit was when the call was let through. -/
  circuit : Circuit
  /-- How often the circuit had become half open by then. -/
  round : Nat
  deriving DecidableEq

/-- Whether a call was let through by a circuit that was half open for the given time. -/
def Flight.isProbe (round : Nat) (flight : Flight) : Bool :=
  flight.circuit = .halfOpen && flight.round = round

/-- A breaker with the calls that are under way. -/
structure Traffic (τ : Type) where
  breaker : Breaker τ
  /-- How often an open circuit has become half open. -/
  rounds : Nat
  flights : List Flight

/-- What happens at a breaker. -/
inductive Action
  /-- Its state or its statistics are asked for. -/
  | look
  /-- A call comes in. -/
  | ask
  /-- The call at a place among those under way ends. -/
  | finish (place : Nat) (ending : Ending)
  | reset
  deriving DecidableEq

/-- What happens at a breaker, and when. -/
structure Event (τ : Type) where
  time : τ
  action : Action

namespace Traffic

variable {τ : Type}

/-- The traffic at a breaker that has changed. -/
def moved (traffic : Traffic τ) (later : Breaker τ) : Traffic τ where
  breaker := later
  rounds :=
    if traffic.breaker.circuit = .opened ∧ later.circuit = .halfOpen then traffic.rounds + 1
    else traffic.rounds
  flights := traffic.flights

/-- One more call is under way. -/
def joined (traffic : Traffic τ) : Traffic τ :=
  { traffic with flights := traffic.flights ++ [⟨traffic.breaker.circuit, traffic.rounds⟩] }

/-- The call at a place is not under way any more. -/
def left (traffic : Traffic τ) (place : Nat) : Traffic τ :=
  { traffic with flights := traffic.flights.eraseIdx place }

/-- The calls under way that the circuit let through since it became half open last, while it was
half open. -/
def probes (traffic : Traffic τ) : List Flight :=
  traffic.flights.filter (Flight.isProbe traffic.rounds)

@[simp]
theorem moved_breaker_self (traffic : Traffic τ) : traffic.moved traffic.breaker = traffic := by
  rw [moved, if_neg]
  rintro ⟨opened, half⟩
  rw [opened] at half
  contradiction

variable [Timescale τ]

/-- The traffic after an event; where no call is under way, none ends. -/
def next (plan : BreakerPlan) (traffic : Traffic τ) (event : Event τ) : Traffic τ :=
  match event.action with
  | .look => traffic.moved (traffic.breaker.settle plan event.time).1
  | .ask =>
      let (admission, later, _) := traffic.breaker.ask plan event.time
      if admission.isAdmitted then (traffic.moved later).joined else traffic.moved later
  | .finish place ending =>
      if place < traffic.flights.length then
        (traffic.moved (traffic.breaker.complete plan event.time ending).1).left place
      else traffic
  | .reset => traffic.moved traffic.breaker.reset.1

/-- The traffic at a new breaker after some events. -/
def after (plan : BreakerPlan) (events : List (Event τ)) : Traffic τ :=
  events.foldl (next plan) ⟨.initial, 0, []⟩

theorem after_append (plan : BreakerPlan) (earlier later : List (Event τ)) :
    after plan (earlier ++ later) = later.foldl (next plan) (after plan earlier) :=
  List.foldl_append

theorem after_concat (plan : BreakerPlan) (earlier : List (Event τ)) (event : Event τ) :
    after plan (earlier ++ [event]) = (after plan earlier).next plan event :=
  after_append plan earlier [event]

section Ask

variable {plan : BreakerPlan} {time : τ} {traffic : Traffic τ}

theorem next_ask_of_ready (ready : traffic.breaker.circuit ≠ .opened) :
    traffic.next plan ⟨time, .ask⟩ = traffic.joined := by
  simp [next, ask_of_ready ready, Admission.isAdmitted]

theorem next_ask_of_cool (opened : traffic.breaker.circuit = .opened)
    (cool : traffic.breaker.isCool plan time = true) :
    traffic.next plan ⟨time, .ask⟩ =
      (traffic.moved { traffic.breaker with circuit := .halfOpen }).joined := by
  simp [next, ask_of_cool opened cool, Admission.isAdmitted]

theorem next_ask_of_warm (opened : traffic.breaker.circuit = .opened)
    (warm : traffic.breaker.isCool plan time = false) :
    traffic.next plan ⟨time, .ask⟩ = traffic := by
  simp [next, ask_of_warm opened warm, Admission.isAdmitted]

end Ask

end Traffic

end Appraisal.Breaker
