import Appraisal.Breaker

/-!
# What an event does to a breaker

A breaker changes when it is looked at, when a call comes in and when a call ends.  Here stands once
what each of these does, with one equation for each case, and what any of them can do (`Change`); all
that is said of longer histories rests on it.
-/

namespace Appraisal.Breaker

variable {τ : Type} {plan : BreakerPlan} {now : τ} {breaker : Breaker τ}

@[simp]
theorem move_fst (target : Circuit) (reason : String) (breaker : Breaker τ) :
    (breaker.move target reason).1 = { breaker with circuit := target } := by
  rw [move]
  split
  · rename_i same
    rw [same]
  · rfl

theorem succeed_of_ready (ready : breaker.circuit ≠ .opened) :
    breaker.succeed.1 = ⟨.closed, 0, breaker.openedAt⟩ := by
  obtain ⟨circuit, failures, openedAt⟩ := breaker
  cases circuit with
  | opened => contradiction
  | closed => rfl
  | halfOpen => rfl

theorem succeed_of_opened (opened : breaker.circuit = .opened) :
    breaker.succeed.1 = { breaker with failures := 0 } := by
  simp [succeed, opened]

/-- Whether one more failure opens the circuit. -/
def Fragile (plan : BreakerPlan) (breaker : Breaker τ) : Prop :=
  breaker.circuit = .halfOpen ∨
    breaker.circuit = .closed ∧ plan.threshold ≤ breaker.failures + 1

theorem fail_of_fragile (fragile : breaker.Fragile plan) (cause : Cause) :
    (breaker.fail plan now cause).1 = ⟨.opened, breaker.failures + 1, now⟩ := by
  obtain ⟨circuit, failures, openedAt⟩ := breaker
  rcases fragile with half | ⟨closed, reached⟩
  · obtain rfl : circuit = .halfOpen := half
    simp [fail, trip]
  · obtain rfl : circuit = .closed := closed
    have reached : plan.threshold ≤ failures + 1 := reached
    simp [fail, trip, reached]

theorem fail_of_not_fragile (firm : ¬ breaker.Fragile plan) (cause : Cause) :
    (breaker.fail plan now cause).1 = { breaker with failures := breaker.failures + 1 } := by
  obtain ⟨circuit, failures, openedAt⟩ := breaker
  cases circuit with
  | opened => rfl
  | halfOpen => exact absurd (.inl rfl) firm
  | closed =>
      have low : ¬ plan.threshold ≤ failures + 1 := fun reached => firm (.inr ⟨rfl, reached⟩)
      simp [fail, low]

theorem failures_succeed (breaker : Breaker τ) : breaker.succeed.1.failures = 0 := by
  by_cases opened : breaker.circuit = .opened
  · rw [succeed_of_opened opened]
  · rw [succeed_of_ready opened]

theorem failures_fail (plan : BreakerPlan) (now : τ) (cause : Cause) (breaker : Breaker τ) :
    (breaker.fail plan now cause).1.failures = breaker.failures + 1 := by
  by_cases fragile : breaker.Fragile plan
  · rw [fail_of_fragile fragile]
  · rw [fail_of_not_fragile fragile]

variable [Timescale τ]

theorem settle_of_cool (opened : breaker.circuit = .opened) (cool : breaker.isCool plan now) :
    breaker.settle plan now =
      ({ breaker with circuit := .halfOpen }, [⟨.opened, .halfOpen, ""⟩]) := by
  rw [settle, if_pos ⟨opened, cool⟩, move, if_neg (by rw [opened]; decide), opened]

theorem settle_of_not_cool (idle : ¬ (breaker.circuit = .opened ∧ breaker.isCool plan now)) :
    breaker.settle plan now = (breaker, []) := by
  rw [settle, if_neg idle]

theorem ready_or_cool_or_warm (plan : BreakerPlan) (now : τ) (breaker : Breaker τ) :
    breaker.circuit ≠ .opened ∨
      breaker.circuit = .opened ∧ breaker.isCool plan now = true ∨
      breaker.circuit = .opened ∧ breaker.isCool plan now = false := by
  by_cases opened : breaker.circuit = .opened
  · cases cool : breaker.isCool plan now with
    | true => exact .inr (.inl ⟨opened, rfl⟩)
    | false => exact .inr (.inr ⟨opened, rfl⟩)
  · exact .inl opened

theorem ask_of_ready (ready : breaker.circuit ≠ .opened) :
    breaker.ask plan now = (.admitted, breaker, []) := by
  rw [ask, settle_of_not_cool (by simp [ready])]
  exact if_neg ready

theorem ask_of_cool (opened : breaker.circuit = .opened) (cool : breaker.isCool plan now = true) :
    breaker.ask plan now =
      (.admitted, { breaker with circuit := .halfOpen }, [⟨.opened, .halfOpen, ""⟩]) := by
  rw [ask, settle_of_cool opened cool]
  rfl

theorem ask_of_warm (opened : breaker.circuit = .opened) (warm : breaker.isCool plan now = false) :
    breaker.ask plan now = (.rejected (breaker.retryAfter? plan now), breaker, []) := by
  rw [ask, settle_of_not_cool (by simp [warm])]
  exact if_pos opened

@[simp]
theorem reset_fst (breaker : Breaker τ) : breaker.reset.1 = initial := by
  simp [reset, initial]

/-- What a look, a call that comes in or the end of a call can do to a breaker. -/
inductive Change (plan : BreakerPlan) (now : τ) (breaker : Breaker τ) : Breaker τ → Prop
  | nothing : Change plan now breaker breaker
  | halfOpening (opened : breaker.circuit = .opened) (cool : breaker.isCool plan now = true) :
      Change plan now breaker { breaker with circuit := .halfOpen }
  /-- A call succeeds that was let through before the circuit opened. -/
  | forgetting (opened : breaker.circuit = .opened) :
      Change plan now breaker { breaker with failures := 0 }
  | closing (ready : breaker.circuit ≠ .opened) :
      Change plan now breaker ⟨.closed, 0, breaker.openedAt⟩
  | counting (firm : ¬ breaker.Fragile plan) :
      Change plan now breaker { breaker with failures := breaker.failures + 1 }
  | opening (fragile : breaker.Fragile plan) :
      Change plan now breaker ⟨.opened, breaker.failures + 1, now⟩

theorem change_settle (plan : BreakerPlan) (now : τ) (breaker : Breaker τ) :
    Change plan now breaker (breaker.settle plan now).1 := by
  by_cases looked : breaker.circuit = .opened ∧ breaker.isCool plan now
  · rw [settle_of_cool looked.1 looked.2]
    exact .halfOpening looked.1 looked.2
  · rw [settle_of_not_cool looked]
    exact .nothing

theorem change_ask (plan : BreakerPlan) (now : τ) (breaker : Breaker τ) :
    Change plan now breaker (breaker.ask plan now).2.1 := by
  rcases ready_or_cool_or_warm plan now breaker with ready | ⟨opened, cool⟩ | ⟨opened, warm⟩
  · rw [ask_of_ready ready]
    exact .nothing
  · rw [ask_of_cool opened cool]
    exact .halfOpening opened cool
  · rw [ask_of_warm opened warm]
    exact .nothing

theorem change_complete (plan : BreakerPlan) (now : τ) (ending : Ending) (breaker : Breaker τ) :
    Change plan now breaker (breaker.complete plan now ending).1 := by
  cases ending with
  | success =>
      by_cases opened : breaker.circuit = .opened
      · rw [complete, succeed_of_opened opened]
        exact .forgetting opened
      · rw [complete, succeed_of_ready opened]
        exact .closing opened
  | failure cause =>
      by_cases fragile : breaker.Fragile plan
      · rw [complete, fail_of_fragile fragile]
        exact .opening fragile
      · rw [complete, fail_of_not_fragile fragile]
        exact .counting fragile
  | abandoned => exact .nothing

end Appraisal.Breaker
