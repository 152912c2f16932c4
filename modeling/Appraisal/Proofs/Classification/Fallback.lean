import Appraisal.Classification.Classifier
import Appraisal.Proofs.Breaker.Change

/-!
# Classification in spite of failures

A classifier with a remote model always gives a classification.  The model is asked unless the
circuit still cools down.  What it gives stands as it is; otherwise the hints decide, with one note
on what was wrong, and the breaker counts each failure of the model once.

One note misleads: where the cooldown is a whole number that no double is near, the breaker
cannot say how long to wait, and a call that it turns away is noted as a failure of the model.
-/

namespace Appraisal

open Validation

/-- What a remote model does when it is asked. -/
inductive Conduct
  | gives (classification : Classification)
  /-- It fails, and not because another breaker turns its own calls away. -/
  | fails (cause : Cause) (own : cause.isCircuitOpen = false)
  /-- It answers over the net. -/
  | answers (status : Int) (text : String)
  /-- It takes longer than it is given. -/
  | overruns

/-- What comes of the conduct of a model. -/
def Conduct.outcome : Conduct → Except Cause Classification
  | .gives classification => .ok classification
  | .fails cause _ => .error cause
  | .answers status text => Remote.outcome status text
  | .overruns => .error Cause.timeout

/-- An idea to be classified, the time when the model is asked if it is, and what the model then does
until a later time. -/
structure Consultation where
  asked : Float
  ended : Float
  idea : Idea
  conduct : Conduct

/-- No fault of an answer is a refusal by a breaker. -/
theorem Remote.Fault.isCircuitOpen_cause (fault : Remote.Fault) :
    fault.cause.isCircuitOpen = false := by
  cases fault with
  | unreadable fault => cases fault <;> rfl
  | confidence fault => cases fault <;> rfl
  | _ => rfl

theorem Conduct.isCircuitOpen_of_outcome {conduct : Conduct} {cause : Cause}
    (failed : conduct.outcome = .error cause) : cause.isCircuitOpen = false := by
  cases conduct with
  | gives classification => contradiction
  | fails cause own =>
      cases failed
      exact own
  | overruns =>
      cases failed
      rfl
  | answers status text =>
      rw [outcome, Remote.outcome] at failed
      cases received : Remote.receive status text with
      | ok classification =>
          rw [received] at failed
          contradiction
      | error fault =>
          rw [received] at failed
          cases failed
          exact fault.isCircuitOpen_cause

/-! ## Hints -/

/-- A confidence between zero and one passes the check. -/
theorem Classification.checkConfidence_of_inside {confidence : Number}
    (least : Number.atMost 0 confidence = true) (greatest : confidence.atMost 1 = true) :
    checkConfidence (.number confidence) = .ok confidence.toFloat := by
  cases confidence with
  | double value => exact between_of_inside least greatest
  | whole value =>
      have nonneg : 0 ≤ value := of_decide_eq_true (Number.whole_atMost_whole 0 value ▸ least)
      have le_one : value ≤ 1 := of_decide_eq_true (Number.whole_atMost_whole value 1 ▸ greatest)
      have near : Double.ofWhole? value = some (Float.ofInt value) :=
        Double.ofWhole?_of_le_one (by omega)
      have read : number (.number (.whole value)) = .ok (Float.ofInt value) := by
        -- The limit in `near` is too large to be computed, so the branch is chosen by rewriting.
        unfold number
        dsimp only
        rw [near]
      rw [checkConfidence, read]
      change between 0 1 (Float.ofInt value) = .ok (Float.ofInt value)
      obtain rfl | rfl : value = 0 ∨ value = 1 := by omega
      · exact between_of_inside (by decide +kernel) (by decide +kernel)
      · exact between_of_inside (by decide +kernel) (by decide +kernel)

/-- The classification by hints at a confidence. -/
def Classification.hinted (confidence : Number) (idea : Idea) : Classification :=
  ⟨idea.hints.infer, confidence.toFloat, none, ["heuristic-inference"], .heuristic⟩

namespace ClassifierPlan

/-- A classifier with a remote model and with hints that are sure to a degree between zero and
one. -/
structure Equipped (plan : ClassifierPlan) (confidence : Number) : Prop where
  hasModel : plan.hasModel = true
  set : plan.confidence = .number confidence
  least : Number.atMost 0 confidence = true
  greatest : confidence.atMost 1 = true

variable {plan : ClassifierPlan} {confidence : Number} {idea : Idea}

theorem quick_eq (equipped : plan.Equipped confidence) (idea : Idea) :
    plan.quick idea = .ok (Classification.hinted confidence idea) := by
  rw [quick, Classification.ofHints, equipped.set,
    Classification.checkConfidence_of_inside equipped.least equipped.greatest]
  rfl

theorem recover_eq (equipped : plan.Equipped confidence) (idea : Idea) (cause : Cause) :
    (plan.recover idea cause).1 =
      .ok ((Classification.hinted confidence idea).noted (noteOn cause)) := by
  rw [recover, fallback, quick_eq equipped]
  rfl

theorem noteOn_of_own {cause : Cause} (own : cause.isCircuitOpen = false) :
    noteOn cause = if cause.isTimeout then "ml-timeout" else "ml-error" := by
  simp [noteOn, own]

example : noteOn ⟨"ReadTimeoutError", none, ["TimeoutError", "OSError"]⟩ = "ml-timeout" := by decide

/-- What is noted when a call is turned away: a failure of the model if the breaker cannot say how
long to wait. -/
def refusalNote (plan : ClassifierPlan) : String :=
  if plan.breaker.cooldown.toFloat?.isSome then "ml-circuit-open" else "ml-error"

theorem noteOn_refusal (plan : ClassifierPlan) (now : Float) (breaker : Breaker Float) :
    noteOn (Breaker.refusal (breaker.retryAfter? plan.breaker now)) = plan.refusalNote := by
  have wait_eq : breaker.retryAfter? plan.breaker now =
      plan.breaker.cooldown.toFloat?.map fun cooldown => cooldown - (now - breaker.openedAt) := rfl
  rw [wait_eq, refusalNote]
  cases plan.breaker.cooldown.toFloat? with
  | some cooldown => rfl
  | none => rfl

/-! ## One consultation -/

section Consult

variable {τ : Type} [Timescale τ] {asked ended : τ} {reply : ModelReply} {breaker later : Breaker τ}
  {transitions : List Transition}

theorem consult_of_admitted (hasModel : plan.hasModel = true)
    (admitted : breaker.ask plan.breaker asked = (.admitted, later, transitions)) :
    plan.consult asked ended idea reply breaker =
      let (completed, further) := later.complete plan.breaker ended reply.ending
      { result := (plan.resolve idea reply).1
        asked := true
        breaker := completed
        entries :=
          (transitions ++ further).map (Transition.entry plan.breaker.name) ++
            (plan.resolve idea reply).2 } := by
  rw [consult, if_pos hasModel, Breaker.call, admitted]
  rfl

theorem consult_of_rejected (hasModel : plan.hasModel = true) {wait : Option τ}
    (rejected : breaker.ask plan.breaker asked = (.rejected wait, later, transitions)) :
    plan.consult asked ended idea reply breaker =
      { result := (plan.recover idea (Breaker.refusal wait)).1
        asked := false
        breaker := later
        entries :=
          transitions.map (Transition.entry plan.breaker.name) ++
            (plan.recover idea (Breaker.refusal wait)).2 } := by
  rw [consult, if_pos hasModel, Breaker.call, rejected]
  rfl

end Consult

/-- Classify an idea, while the model does what it does. -/
def attempt (plan : ClassifierPlan) (call : Consultation) (breaker : Breaker Float) :
    Attempt Float :=
  plan.consult call.asked call.ended call.idea (.ofOutcome call.conduct.outcome) breaker

/-- What is promised of a consultation at a breaker, with the note on calls that are turned away. -/
structure Answered (plan : ClassifierPlan) (confidence : Number) (note : String)
    (breaker : Breaker Float) (call : Consultation) : Prop where
  /-- The model is asked unless the circuit is open and still cools down. -/
  asked_iff : (plan.attempt call breaker).asked = true ↔
    ¬ (breaker.circuit = .opened ∧ breaker.isCool plan.breaker call.asked = false)
  /-- What a model gives that was asked is returned as it is. -/
  given : (plan.attempt call breaker).asked = true →
    ∀ {classification}, call.conduct.outcome = .ok classification →
      (plan.attempt call breaker).result = .ok classification ∧
        (plan.attempt call breaker).breaker.failures = 0
  /-- Where it fails, the hints decide with one more note, and the failure is counted. -/
  failed : (plan.attempt call breaker).asked = true →
    ∀ {cause}, call.conduct.outcome = .error cause →
      (plan.attempt call breaker).result = .ok ((Classification.hinted confidence call.idea).noted
          (if cause.isTimeout then "ml-timeout" else "ml-error")) ∧
        (plan.attempt call breaker).breaker.failures = breaker.failures + 1
  /-- Where it is not asked, the hints decide with one more note, and nothing is counted. -/
  turnedAway : (plan.attempt call breaker).asked = false →
    (plan.attempt call breaker).result =
        .ok ((Classification.hinted confidence call.idea).noted note) ∧
      (plan.attempt call breaker).breaker = breaker

variable {breaker : Breaker Float} {call : Consultation}

/-- The promises hold where the breaker lets the call through, whatever the note is on other calls. -/
theorem answered_of_admitted (equipped : plan.Equipped confidence) (note : String)
    {later : Breaker Float} {transitions : List Transition}
    (ready : ¬ (breaker.circuit = .opened ∧ breaker.isCool plan.breaker call.asked = false))
    (admitted : breaker.ask plan.breaker call.asked = (.admitted, later, transitions))
    (counted : later.failures = breaker.failures) :
    Answered plan confidence note breaker call := by
  have consulted : plan.attempt call breaker = _ :=
    consult_of_admitted equipped.hasModel admitted
  constructor
  · rw [consulted]
    exact ⟨fun _ => ready, fun _ => rfl⟩
  · intro _ classification success
    rw [consulted, success]
    exact ⟨rfl, later.failures_succeed⟩
  · intro _ cause failure
    rw [consulted, failure]
    refine ⟨?_, ?_⟩
    · rw [← noteOn_of_own (Conduct.isCircuitOpen_of_outcome failure)]
      exact recover_eq equipped call.idea cause
    · rw [← counted]
      exact later.failures_fail plan.breaker call.ended cause
  · rw [consulted]
    intro unasked
    contradiction

theorem answered_of_warm (equipped : plan.Equipped confidence)
    (opened : breaker.circuit = .opened)
    (warm : breaker.isCool plan.breaker call.asked = false) :
    Answered plan confidence plan.refusalNote breaker call := by
  have consulted : plan.attempt call breaker = _ :=
    consult_of_rejected equipped.hasModel (Breaker.ask_of_warm opened warm)
  have unasked : (plan.attempt call breaker).asked ≠ true := by simp [consulted]
  constructor
  · simp [unasked, opened, warm]
  · exact fun asked => absurd asked unasked
  · exact fun asked => absurd asked unasked
  · intro _
    rw [consulted, ← noteOn_refusal plan call.asked breaker]
    exact ⟨recover_eq equipped call.idea _, rfl⟩

/-! ## Many consultations -/

/-- The breaker of a classifier after some consultations, one after another. -/
def breakerAfter (plan : ClassifierPlan) (start : Breaker Float) (calls : List Consultation) :
    Breaker Float :=
  calls.foldl (fun breaker call => (plan.attempt call breaker).breaker) start

/--
A classifier with a remote model answers every call, after any calls one after another and whatever
the model does.  The model is asked unless the circuit is open and still cools down.  If it gives a
classification, that is returned; otherwise the hints decide, with a note that tells an overrun from
other failures.  The breaker counts the failures of the model and no others.  A call that is turned
away is noted as such exactly if a double is near the cooldown, and as a failure of the model
otherwise.
-/
theorem consultations_answered (equipped : plan.Equipped confidence) (start : Breaker Float)
    (earlier : List Consultation) (call : Consultation) :
    Answered plan confidence plan.refusalNote (plan.breakerAfter start earlier) call := by
  -- The promises hold at every breaker, so no invariant of the earlier calls is needed.
  generalize plan.breakerAfter start earlier = breaker
  rcases breaker.ready_or_cool_or_warm plan.breaker call.asked with
    ready | ⟨opened, cool⟩ | ⟨opened, warm⟩
  · exact answered_of_admitted equipped _ (by simp [ready]) (Breaker.ask_of_ready ready) rfl
  · exact answered_of_admitted equipped _ (by simp [cool]) (Breaker.ask_of_cool opened cool) rfl
  · exact answered_of_warm equipped opened warm

/-- The first call fails and opens the circuit; half a second later the model is not asked. -/
theorem consultation_answered_while_cooling :
    let plan : ClassifierPlan := ⟨.double 0.6, true, ⟨"ml-classifier", 1, by decide, 1000⟩⟩
    let failing : Consultation := ⟨0, 0, .unknown, .fails ⟨"RuntimeError", some "boom", []⟩ rfl⟩
    let later : Consultation := ⟨500, 500, .unknown, .overruns⟩
    let breaker := plan.breakerAfter .initial [failing]
    plan.Equipped (.double 0.6) ∧ (plan.attempt later breaker).asked = false ∧
      (plan.attempt later breaker).result =
        .ok ⟨.general, 0.6, none, ["heuristic-inference", "ml-circuit-open"], .heuristic⟩ := by
  intro plan failing later breaker
  have equipped : plan.Equipped (.double 0.6) :=
    ⟨rfl, rfl, by decide +kernel, by decide +kernel⟩
  have unasked : (plan.attempt later breaker).asked = false := by decide +kernel
  have near : plan.refusalNote = "ml-circuit-open" := by decide +kernel
  have answered := consultations_answered equipped .initial [failing] later
  refine ⟨equipped, unasked, ?_⟩
  rw [(answered.turnedAway unasked).1, near]
  rfl

/-- With a cooldown of `2 ^ 1024` milliseconds the second call is turned away but noted as a failure
of the model. -/
theorem not_answered_of_oversized_cooldown :
    let plan : ClassifierPlan :=
      ⟨.double 0.6, true, ⟨"ml-classifier", 1, by decide, .whole (Int.pow 2 1024)⟩⟩
    let failing : Consultation := ⟨0, 0, .unknown, .fails ⟨"RuntimeError", some "boom", []⟩ rfl⟩
    let later : Consultation := ⟨1000, 1000, .unknown, .overruns⟩
    let breaker := plan.breakerAfter .initial [failing]
    ¬ Answered plan (.double 0.6) "ml-circuit-open" breaker later := by
  intro plan failing later breaker answered
  have unasked : (plan.attempt later breaker).asked = false := by decide +kernel
  have promised := congrArg Except.toOption (answered.turnedAway unasked).1
  exact absurd promised (by decide +kernel)

end ClassifierPlan

end Appraisal
