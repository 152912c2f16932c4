import Appraisal.Proofs.Breaker.Cooling
import Appraisal.Proofs.Breaker.Streak
import Appraisal.Proofs.Number.Difference

/-!
# Looks change nothing for calls

A look at a breaker is not without effect: it makes an open circuit half open once that has cooled
down.  But a call would do the same, and a circuit that has cooled down stays cool while time goes
on, so nobody who only makes calls can tell whether somebody looks in between.

Beside the run with looks goes the same run without them.  The two breakers are the same, or the one
that is not looked at is still open and is cool from now on, and the other one differs from it only
in being half open.
-/

namespace Appraisal

/-! ## Time that has passed -/

/-- One time is no later than another. -/
def Timescale.NoLater {τ : Type} [Timescale τ] (earlier later : τ) : Prop :=
  (extent earlier).atMost (extent later) = true

instance {τ : Type} [Timescale τ] (earlier later : τ) :
    Decidable (Timescale.NoLater earlier later) :=
  inferInstanceAs (Decidable (_ = true))

/-- A span of time that has passed since some start has passed at every later time. -/
def Timescale.Steady (τ : Type) [Timescale τ] : Prop :=
  ∀ {start earlier later : τ} {span : Extent}, NoLater start earlier → NoLater earlier later →
    span.atMost (extent (earlier - start)) = true → span.atMost (extent (later - start)) = true

theorem Timescale.steady_double : Steady Float :=
  Double.atMost_sub_mono

theorem Timescale.steady_exact : Steady Rat := by
  intro start earlier later span _ ordered passed
  have distances : earlier - start ≤ later - start :=
    sub_le_sub_right (Extent.atMost_finite.mp ordered) start
  exact Extent.atMost_trans passed (Extent.atMost_finite.mpr distances)

namespace Breaker

open Timescale

/-! ## Reports -/

/-- What the one who makes a call gets: what the call itself ends with, or why it is turned away. -/
def Admission.outcome {τ : Type} (ending : Ending) : Admission τ → Ending
  | .admitted => ending
  | .rejected retryAfter => .failure (refusal retryAfter)

/-- What comes of a call or a reset: whether the call was admitted and what its maker gets, and the
failures counted afterwards. -/
structure Report (τ : Type) where
  answer : Option (Admission τ × Ending)
  failures : Nat
  deriving DecidableEq

/-- Whether a use only asks for the state or the statistics. -/
def Use.isLook {τ : Type} : Use τ → Bool
  | .look _ => true
  | _ => false

/-- The times at which a use reads the clock. -/
def Use.times {τ : Type} : Use τ → List τ
  | .look now => [now]
  | .reset => []
  | .call asked ended _ => [asked, ended]

variable {τ : Type} [Timescale τ] {plan : BreakerPlan} {breaker : Breaker τ}

/-- The breaker after a use, and the report of the use; nothing is reported of looks. -/
def perform (plan : BreakerPlan) (breaker : Breaker τ) : Use τ → Breaker τ × List (Report τ)
  | .look now => ((breaker.settle plan now).1, [])
  | .reset => (breaker.reset.1, [⟨none, breaker.reset.1.failures⟩])
  | .call asked ended ending =>
      let (admission, later, _) := breaker.call plan asked ended ending
      (later, [⟨some (admission, admission.outcome ending), later.failures⟩])

/-- The reports of some uses, one after another. -/
def reports (plan : BreakerPlan) : Breaker τ → List (Use τ) → List (Report τ)
  | _, [] => []
  | breaker, use :: uses =>
      (breaker.perform plan use).2 ++ reports plan (breaker.perform plan use).1 uses

/-! ## The two runs -/

/-- An open circuit opened no later than at any time that is still to come. -/
def OpenedBefore (times : List τ) (breaker : Breaker τ) : Prop :=
  breaker.circuit = .opened → ∀ time ∈ times, NoLater breaker.openedAt time

/-- Two breakers that no call tells apart at the times that are still to come. -/
inductive Alike (plan : BreakerPlan) (times : List τ) : Breaker τ → Breaker τ → Prop
  | same (breaker : Breaker τ) : Alike plan times breaker breaker
  | looked {breaker : Breaker τ} (opened : breaker.circuit = .opened)
      (cool : ∀ time ∈ times, breaker.isCool plan time = true) :
      Alike plan times breaker { breaker with circuit := .halfOpen }

/-- A circuit that has cooled down stays cool. -/
theorem isCool_of_later (steady : Steady τ) {now later : τ} (opened : NoLater breaker.openedAt now)
    (ordered : NoLater now later) (cool : breaker.isCool plan now = true) :
    breaker.isCool plan later = true :=
  steady opened ordered cool

theorem alike_of_look (steady : Steady τ) {now : τ} {times : List τ}
    (ordered : ∀ time ∈ times, NoLater now time) {plain looked : Breaker τ}
    (before : plain.OpenedBefore (now :: times)) (alike : Alike plan (now :: times) plain looked) :
    Alike plan times plain (looked.settle plan now).1 := by
  cases alike with
  | same =>
      by_cases turning : plain.circuit = .opened ∧ plain.isCool plan now
      · obtain ⟨opened, cool⟩ := turning
        rw [settle_of_cool opened cool]
        exact .looked opened fun time member =>
          isCool_of_later steady (before opened now List.mem_cons_self) (ordered time member) cool
      · rw [settle_of_not_cool turning]
        exact .same plain
  | looked opened cool =>
      rw [settle_of_not_cool (by simp)]
      exact .looked opened fun time member => cool time (List.mem_cons_of_mem now member)

/-- A call does to an open circuit that has cooled down what it does to a half-open one. -/
theorem perform_call_of_cool {asked : τ} (opened : breaker.circuit = .opened)
    (cool : breaker.isCool plan asked = true) (ended : τ) (ending : Ending) :
    breaker.perform plan (.call asked ended ending) =
      perform plan { breaker with circuit := .halfOpen } (.call asked ended ending) := by
  simp only [perform, call, ask_of_cool opened cool]
  rw [ask_of_ready (by simp)]

theorem perform_eq_of_alike {times : List τ} {plain looked : Breaker τ} {use : Use τ}
    (acts : use.isLook = false) (alike : Alike plan (use.times ++ times) plain looked) :
    plain.perform plan use = looked.perform plan use := by
  cases alike with
  | same => rfl
  | looked opened cool =>
      cases use with
      | look => contradiction
      | reset => simp [perform]
      | call asked ended ending =>
          exact perform_call_of_cool opened (cool asked List.mem_cons_self) ended ending

theorem OpenedBefore.later {times later : List τ} (before : breaker.OpenedBefore times)
    (still : later ⊆ times) : breaker.OpenedBefore later :=
  fun opened time member => before opened time (still member)

/-- A circuit that opens at the end of a call opens no later than at any time after that. -/
theorem openedBefore_complete {ended : τ} {times : List τ}
    (ordered : ∀ time ∈ times, NoLater ended time) (ready : breaker.circuit ≠ .opened)
    (ending : Ending) : (breaker.complete plan ended ending).1.OpenedBefore times := by
  intro opened time member
  rw [openedAt_of_change (change_complete plan ended ending breaker) ready opened]
  exact ordered time member

theorem openedBefore_perform {times : List τ} {use : Use τ} (acts : use.isLook = false)
    (ordered : (use.times ++ times).Pairwise NoLater)
    (before : breaker.OpenedBefore (use.times ++ times)) :
    (breaker.perform plan use).1.OpenedBefore times := by
  cases use with
  | look => contradiction
  | reset =>
      intro opened
      simp [perform, initial] at opened
  | call asked ended ending =>
      have ended_first := (List.pairwise_cons.mp (List.pairwise_cons.mp ordered).2).1
      rcases ready_or_cool_or_warm plan asked breaker with ready | ⟨opened, cool⟩ | ⟨opened, warm⟩
      · simp only [perform, call, ask_of_ready ready]
        exact openedBefore_complete ended_first ready ending
      · simp only [perform, call, ask_of_cool opened cool]
        exact openedBefore_complete ended_first (by simp) ending
      · simp only [perform, call, ask_of_warm opened warm]
        exact before.later (List.subset_append_right [asked, ended] times)

/-- A run tells the callers what the same run tells them without its looks. -/
theorem reports_filter (steady : Steady τ) {uses : List (Use τ)}
    (ordered : (uses.flatMap Use.times).Pairwise NoLater) {plain looked : Breaker τ}
    (before : plain.OpenedBefore (uses.flatMap Use.times))
    (alike : Alike plan (uses.flatMap Use.times) plain looked) :
    reports plan looked uses = reports plan plain (uses.filter fun use => !use.isLook) := by
  induction uses generalizing plain looked with
  | nil => rfl
  | cons use uses induction =>
      rw [List.flatMap_cons] at ordered before alike
      have rest_ordered := (List.pairwise_append.mp ordered).2.1
      cases acts : use.isLook with
      | true =>
          cases use with
          | look now =>
              rw [List.filter_cons_of_neg (by simp [Use.isLook])]
              exact induction rest_ordered (before.later (List.subset_cons_self _ _))
                (alike_of_look steady (List.pairwise_cons.mp ordered).1 before alike)
          | _ => contradiction
      | false =>
          rw [List.filter_cons_of_pos (by simp [acts]), reports, reports,
            perform_eq_of_alike acts alike]
          congr 1
          refine induction rest_ordered ?_ (.same _)
          rw [← perform_eq_of_alike acts alike]
          exact openedBefore_perform acts ordered before

/-- Whatever calls and resets follow one another at a breaker, with times in order, looks in between
change nothing of what they report: which calls are let through and what they end with, how long
the others are told to wait, and how many failures are counted after each.  It makes no difference
whether times are doubles, of which differences are rounded, or exact.  All the same a look makes an
open circuit half open once that has cooled down. -/
theorem reports_without_looks (plan : BreakerPlan) :
    (∀ uses : List (Use Float), (uses.flatMap Use.times).Pairwise NoLater →
      reports plan .initial uses =
        reports plan .initial (uses.filter fun use => !use.isLook)) ∧
    (∀ uses : List (Use Rat), (uses.flatMap Use.times).Pairwise NoLater →
      reports plan .initial uses =
        reports plan .initial (uses.filter fun use => !use.isLook)) ∧
    ∀ (breaker : Breaker Float) (now : Float), breaker.circuit = .opened →
      breaker.isCool plan now = true →
        (breaker.perform plan (.look now)).1 = { breaker with circuit := .halfOpen } := by
  refine ⟨?doubles, ?rationals, ?look⟩
  case doubles =>
    intro uses ordered
    exact reports_filter steady_double ordered nofun (.same _)
  case rationals =>
    intro uses ordered
    exact reports_filter steady_exact ordered nofun (.same _)
  case look =>
    intro breaker now opened cool
    rw [perform, settle_of_cool opened cool]

/-- A probe is let through whether a look or the probe itself makes the circuit half open; when it
fails, the cooldown starts anew for both. -/
theorem reports_without_looks_of_failed_probe :
    let plan : BreakerPlan := ⟨"ml", 1, by decide, .double 1000.5⟩
    let failed : Ending := .failure ⟨"RuntimeError", none, []⟩
    let first : Use Float := .call 0.1 0.3 failed
    let probe : Use Float := .call 1001 1002 failed
    let early : Use Float := .call 1500 1500 .success
    let late : Use Float := .call 2100 2101 .success
    let uses := [first, .look 1000.9, .look 1000.9, probe, .look 1200, early, .look 2050, late]
    let tripped : Breaker Float := (perform plan .initial first).1
    (uses.flatMap Use.times).Pairwise NoLater ∧ tripped.circuit = .opened ∧
      (tripped.perform plan (.look 1000.9)).1 = { tripped with circuit := .halfOpen } ∧
      reports plan .initial uses = reports plan .initial [first, probe, early, late] ∧
      reports plan .initial [first, probe, early, late] =
        [⟨some (.admitted, failed), 1⟩, ⟨some (.admitted, failed), 2⟩,
          ⟨some (.rejected (some 502.5), .failure Cause.circuitOpen), 2⟩,
          ⟨some (.admitted, .success), 0⟩] := by
  intro plan failed first probe early late uses tripped
  obtain ⟨reported, _, looked⟩ := reports_without_looks plan
  have ordered : (uses.flatMap Use.times).Pairwise NoLater := by decide +kernel
  have opened : tripped.circuit = .opened := by decide +kernel
  have cool : tripped.isCool plan 1000.9 = true := by decide +kernel
  exact ⟨ordered, opened, looked tripped 1000.9 opened cool, reported uses ordered,
    by decide +kernel⟩

end Breaker

end Appraisal
