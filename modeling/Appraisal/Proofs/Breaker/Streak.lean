import Appraisal.Proofs.Breaker.Change
import Mathlib.Data.List.DropRight

/-!
# Failures in a row

Where the uses of a breaker do not overlap, its counter is the number of failures since the last
success or reset, and its circuit is closed exactly while that number is below the threshold.  A
diary keeps the calls that were let through beside the breaker, so that they can be counted without
it.

The circuit is not open when a call ends that was let through, and it opens only at the threshold or
from half open, where the threshold was reached before.
-/

namespace Appraisal.Breaker

/-- A use of a breaker from its start to its end. -/
inductive Use (τ : Type)
  /-- Ask for its state or its statistics. -/
  | look (now : τ)
  | reset
  /-- Make a call at one time that ends at another. -/
  | call (asked ended : τ) (ending : Ending)

/-- What counts for failures in a row. -/
inductive Mark
  | failed
  /-- A call has succeeded, or the breaker was reset. -/
  | cleared
  deriving DecidableEq

/-- What the end of a call that was let through counts for. -/
def marksOf : Ending → List Mark
  | .success => [.cleared]
  | .failure _ => [.failed]
  | .abandoned => []

/-- How many failures there are since everything was cleared last. -/
def streak (marks : List Mark) : Nat :=
  (marks.rtakeWhile (· = .failed)).length

@[simp]
theorem streak_append_failed (marks : List Mark) :
    streak (marks ++ [.failed]) = streak marks + 1 := by
  simp [streak]

@[simp]
theorem streak_append_cleared (marks : List Mark) : streak (marks ++ [.cleared]) = 0 := by
  simp [streak]

/-- A breaker with what has happened to the calls that it let through. -/
structure Diary (τ : Type) where
  breaker : Breaker τ
  marks : List Mark

variable {τ : Type} {plan : BreakerPlan} {breaker : Breaker τ}

/-- The circuit is closed exactly while the failures are below the threshold. -/
def Balanced (plan : BreakerPlan) (breaker : Breaker τ) : Prop :=
  breaker.circuit = .closed ↔ breaker.failures < plan.threshold

theorem balanced_closed (plan : BreakerPlan) (openedAt : τ) :
    Balanced plan ⟨.closed, 0, openedAt⟩ := by
  simp [Balanced, plan.positive]

theorem balanced_halfOpen (balanced : Balanced plan breaker) (opened : breaker.circuit = .opened) :
    Balanced plan { breaker with circuit := .halfOpen } := by
  simp only [Balanced, opened, reduceCtorEq, false_iff] at balanced ⊢
  exact balanced

/-- A failure leaves the circuit closed only below the threshold. -/
theorem balanced_fail (now : τ) (balanced : Balanced plan breaker) (cause : Cause) :
    Balanced plan (breaker.fail plan now cause).1 := by
  by_cases fragile : breaker.Fragile plan
  · rw [fail_of_fragile fragile]
    have reached : plan.threshold ≤ breaker.failures + 1 := by
      rcases fragile with half | ⟨_, reached⟩
      -- A half-open circuit asks for no threshold, but it was reached when the circuit opened.
      · simp only [Balanced, half, reduceCtorEq, false_iff] at balanced
        omega
      · exact reached
    simp only [Balanced, reduceCtorEq, false_iff]
    omega
  · rw [fail_of_not_fragile fragile]
    simp only [Balanced, Fragile, not_or, not_and] at balanced fragile ⊢
    cases circuit : breaker.circuit with
    | closed =>
        have low := fragile.2 circuit
        simp only [true_iff]
        omega
    | opened =>
        simp only [circuit, reduceCtorEq, false_iff] at balanced ⊢
        omega
    | halfOpen => exact absurd circuit fragile.1

/-- The counter of a diary is right, and its circuit goes by the counter. -/
structure Diary.Sound (plan : BreakerPlan) (diary : Diary τ) : Prop where
  counted : diary.breaker.failures = streak diary.marks
  balanced : Balanced plan diary.breaker

/-- The end of a call that was let through, with nothing in between, keeps a diary right. -/
theorem Diary.sound_complete {marks : List Mark} (sound : Diary.Sound plan ⟨breaker, marks⟩)
    (ready : breaker.circuit ≠ .opened) (ended : τ) (ending : Ending) :
    Diary.Sound plan ⟨(breaker.complete plan ended ending).1, marks ++ marksOf ending⟩ := by
  cases ending with
  | success =>
      rw [complete, succeed_of_ready ready]
      exact ⟨(streak_append_cleared marks).symm, balanced_closed plan _⟩
  | failure cause =>
      refine ⟨?_, balanced_fail ended sound.balanced cause⟩
      rw [complete, failures_fail, sound.counted, marksOf, streak_append_failed]
  | abandoned => simpa [complete, marksOf] using sound

variable [Timescale τ]

namespace Diary

/-- The diary after a use; calls that are turned away leave no mark. -/
def next (plan : BreakerPlan) (diary : Diary τ) : Use τ → Diary τ
  | .look now => { diary with breaker := (diary.breaker.settle plan now).1 }
  | .reset => ⟨diary.breaker.reset.1, diary.marks ++ [.cleared]⟩
  | .call asked ended ending =>
      let (admission, later, _) := diary.breaker.call plan asked ended ending
      ⟨later, if admission.isAdmitted then diary.marks ++ marksOf ending else diary.marks⟩

/-- The diary of a new breaker after some uses. -/
def after (plan : BreakerPlan) (uses : List (Use τ)) : Diary τ :=
  uses.foldl (next plan) ⟨.initial, []⟩

end Diary

theorem balanced_settle (balanced : Balanced plan breaker) (now : τ) :
    Balanced plan (breaker.settle plan now).1 := by
  by_cases looked : breaker.circuit = .opened ∧ breaker.isCool plan now
  · rw [settle_of_cool looked.1 looked.2]
    exact balanced_halfOpen balanced looked.1
  · rw [settle_of_not_cool looked]
    exact balanced

theorem failures_settle (now : τ) (breaker : Breaker τ) :
    (breaker.settle plan now).1.failures = breaker.failures := by
  by_cases looked : breaker.circuit = .opened ∧ breaker.isCool plan now
  · rw [settle_of_cool looked.1 looked.2]
  · rw [settle_of_not_cool looked]

theorem Diary.sound_next {diary : Diary τ} (sound : diary.Sound plan) (use : Use τ) :
    (diary.next plan use).Sound plan := by
  obtain ⟨breaker, marks⟩ := diary
  cases use with
  | look now =>
      exact ⟨(failures_settle now breaker).trans sound.counted, balanced_settle sound.balanced now⟩
  | reset =>
      rw [next, reset_fst]
      exact ⟨(streak_append_cleared marks).symm, balanced_closed plan _⟩
  | call asked ended ending =>
      rcases ready_or_cool_or_warm plan asked breaker with ready | ⟨opened, cool⟩ | ⟨opened, warm⟩
      · simpa [next, call, ask_of_ready ready, Admission.isAdmitted] using
          sound_complete sound ready ended ending
      · have half : Diary.Sound plan ⟨{ breaker with circuit := .halfOpen }, marks⟩ :=
          ⟨sound.counted, balanced_halfOpen sound.balanced opened⟩
        simpa [next, call, ask_of_cool opened cool, Admission.isAdmitted] using
          sound_complete half (by simp) ended ending
      · simpa [next, call, ask_of_warm opened warm, Admission.isAdmitted] using sound

theorem Diary.sound_after (plan : BreakerPlan) (uses : List (Use τ)) :
    (Diary.after plan uses).Sound plan := by
  induction uses using List.reverseRecOn with
  | nil => exact ⟨rfl, balanced_closed plan _⟩
  | append_singleton uses use induction =>
      rw [after, List.foldl_concat]
      exact sound_next induction use

/--
After any uses of a breaker, one after another and at whatever times, its counter is the number of
calls that were made and failed since the last one that succeeded, the last reset or the start, and
its circuit is closed exactly while that number is below the threshold.
-/
theorem failures_after_uses (plan : BreakerPlan) (uses : List (Use τ)) :
    let diary := Diary.after plan uses
    diary.breaker.failures = streak diary.marks ∧
      (diary.breaker.circuit ≠ .closed ↔ plan.threshold ≤ streak diary.marks) := by
  intro diary
  have sound : diary.Sound plan := Diary.sound_after plan uses
  refine ⟨sound.counted, ?_⟩
  rw [← sound.counted, ← Nat.not_lt]
  exact not_congr sound.balanced

end Appraisal.Breaker
