import Appraisal.Proofs.Number.Rounding
import Appraisal.Proofs.Simulation.Walk
import Mathlib.Algebra.Order.BigOperators.Group.List

/-!
# Harder assumptions, later payback

A plan with a higher cost, a higher rate of leaving or a lower mean contribution is paid back in no
run earlier, given the same draws.  The months of all runs are sorted before a quantile is taken, so
no run can be followed to its place; but the month at a place is told by how many months there are
up to each bound (`getElem_le_iff`), and of those there are no more.
-/

namespace Appraisal.Simulation

open Arithmetic

/-- In a sorted row the value at a place is told by the number of values up to each bound. -/
theorem getElem_le_iff {values : List Nat} (sorted : values.Pairwise (· ≤ ·)) {place : Nat}
    (inside : place < values.length) (bound : Nat) :
    values[place] ≤ bound ↔ place < values.countP (· ≤ bound) := by
  induction values generalizing place with
  | nil => exact absurd inside (Nat.not_lt_zero place)
  | cons first others induction =>
      rw [List.pairwise_cons] at sorted
      obtain ⟨least, others_sorted⟩ := sorted
      by_cases small : first ≤ bound
      · cases place with
        | zero => simp [small]
        | succ place =>
            have further := induction others_sorted (Nat.lt_of_succ_lt_succ inside)
            simpa [small] using further
      · -- Beyond a first value that is too large all values are.
        have all_large : ∀ value ∈ first :: others, ¬ value ≤ bound := by
          rintro value (_ | ⟨_, member⟩)
          · exact small
          · exact fun low => small ((least value member).trans low)
        have none_counted : (first :: others).countP (· ≤ bound) = 0 := by
          rw [List.countP_eq_zero]
          simpa using all_large
        rw [none_counted]
        exact iff_of_false (all_large _ (List.getElem_mem inside)) (Nat.not_lt_zero place)

namespace PaybackPlan

/-- A second plan asks for no less than the first: of the customer's stay, of the contributions and
of what they have to make up. -/
structure Harder (easy hard : PaybackPlan Rat) : Prop where
  cost : easy.cost ≤ hard.cost
  churnRate : easy.churnRate ≤ hard.churnRate
  mean : hard.mean ≤ easy.mean
  deviation : hard.deviation = easy.deviation
  months : hard.months = easy.months

variable {easy hard : PaybackPlan Rat} {draws : Draws Rat} {run : Nat}

namespace Harder

theorem horizon (harder : easy.Harder hard) : hard.horizon = easy.horizon := by
  rw [PaybackPlan.horizon, harder.months, PaybackPlan.horizon]

theorem never (harder : easy.Harder hard) : hard.never = easy.never := by
  rw [PaybackPlan.never, harder.horizon, PaybackPlan.never]

theorem drawn (harder : easy.Harder hard) : hard.drawn (α := Rat) = easy.drawn := by
  funext row run month
  rw [PaybackPlan.drawn, harder.horizon, PaybackPlan.drawn]

theorem opening_le (harder : easy.Harder hard) : hard.opening ≤ easy.opening := by
  rw [opening_rat, opening_rat]
  exact neg_le_neg (max_le_max_left 0 harder.cost)

theorem contribution_le (harder : easy.Harder hard) (draw : Rat) :
    hard.contribution draw ≤ easy.contribution draw := by
  rw [contribution_rat, contribution_rat, harder.deviation]
  exact max_le_max_left 0 (add_le_add_left harder.mean _)

/-- Who stays under the harder plan stays under the easier one. -/
theorem stays (harder : easy.Harder hard) {draw : Rat} (stay : hard.leaves draw = false) :
    easy.leaves draw = false := by
  simp only [leaves, less_rat, decide_eq_false_iff_not, not_lt] at stay ⊢
  exact harder.churnRate.trans stay

theorem paidIn (harder : easy.Harder hard) {month : Nat} (paid : hard.PaidIn draws run month) :
    easy.PaidIn draws run month where
  inHorizon := harder.horizon ▸ paid.inHorizon
  stayed earlier member := harder.drawn ▸ harder.stays (paid.stayed earlier member)
  covered := by
    have covered := paid.covered
    simp only [atMost_rat, zero_rat, sum_rat, decide_eq_true_eq, harder.drawn] at covered ⊢
    refine covered.trans (add_le_add harder.opening_le (List.sum_le_sum ?_))
    intro earlier _
    exact harder.contribution_le _

/-- No run is paid back earlier under the harder plan. -/
theorem monthOfRun_le (harder : easy.Harder hard) (draws : Draws Rat) (run : Nat) :
    easy.monthOfRun draws run ≤ hard.monthOfRun draws run := by
  rcases monthOfRun_cases hard draws run with ⟨paid, _⟩ | ⟨unpaid, _⟩
  · have easily_paid := harder.paidIn paid
    rw [monthOfRun_le_iff easily_paid.inHorizon.2]
    exact ⟨_, Nat.le_refl _, easily_paid⟩
  · rw [unpaid, harder.never]
    exact monthOfRun_le_never

theorem countP_sortedMonths_le (harder : easy.Harder hard) (draws : Draws Rat) (runs bound : Nat) :
    (hard.sortedMonths draws runs).countP (· ≤ bound) ≤
      (easy.sortedMonths draws runs).countP (· ≤ bound) := by
  rw [(perm_sortedMonths hard draws runs).countP_eq, (perm_sortedMonths easy draws runs).countP_eq,
    List.countP_map, List.countP_map]
  apply List.countP_mono_left
  intro run _ soon
  simp only [Function.comp_apply, decide_eq_true_eq] at soon ⊢
  exact (harder.monthOfRun_le draws run).trans soon

end Harder

/-- A quantile of the months of some runs is the month at its place, as it is told. -/
theorem monthAt_sortedMonths (plan : PaybackPlan Rat) {runs tenths : Nat}
    (inside : quantileIndex tenths runs < (plan.sortedMonths draws runs).length) :
    plan.monthAt (plan.sortedMonths draws runs) tenths =
      plan.told (plan.sortedMonths draws runs)[quantileIndex tenths runs] := by
  have some_month := List.length_pos_iff.mp (Nat.zero_lt_of_lt inside)
  have told_eq : ((plan.sortedMonths draws runs).map plan.told)[quantileIndex tenths
      (plan.sortedMonths draws runs).length]? =
        some (plan.monthAt (plan.sortedMonths draws runs) tenths) :=
    getElem?_told some_month tenths
  rw [length_sortedMonths, List.getElem?_map, List.getElem?_eq_getElem inside] at told_eq
  exact (Option.some.inj told_eq).symm

namespace Harder

/-- No quantile is earlier under the harder plan. -/
theorem notLater_monthAt (harder : easy.Harder hard) (draws : Draws Rat) {runs : Nat}
    (positive : 1 ≤ runs) (tenths : Nat) :
    NotLater (easy.monthAt (easy.sortedMonths draws runs) tenths)
      (hard.monthAt (hard.sortedMonths draws runs) tenths) := by
  have inside := quantileIndex_lt tenths positive
  have easy_inside := inside.trans_eq (length_sortedMonths easy draws runs).symm
  have hard_inside := inside.trans_eq (length_sortedMonths hard draws runs).symm
  have ordered : (easy.sortedMonths draws runs)[quantileIndex tenths runs] ≤
      (hard.sortedMonths draws runs)[quantileIndex tenths runs] := by
    have counted := (getElem_le_iff (sorted_sortedMonths hard draws runs) hard_inside _).mp le_rfl
    rw [getElem_le_iff (sorted_sortedMonths easy draws runs)]
    exact counted.trans_le (harder.countP_sortedMonths_le draws runs _)
  have told_eq : easy.told = hard.told := by
    funext month
    rw [told, told, harder.never]
  rw [monthAt_sortedMonths easy easy_inside, monthAt_sortedMonths hard hard_inside, told_eq]
  exact notLater_told ordered (le_never_of_mem_sortedMonths (List.getElem_mem hard_inside))

theorem withinYear_le (harder : easy.Harder hard) (draws : Draws Rat) (runs : Nat) :
    (hard.simulate draws runs).withinYear ≤ (easy.simulate draws runs).withinYear := by
  have fewer := harder.countP_sortedMonths_le draws runs 12
  simp only [simulate, roundPlaces_rat]
  apply Rounding.toPlaces_mono
  change ((_ : Int) : Rat) / ((runs : Int) : Rat) ≤ ((_ : Int) : Rat) / ((runs : Int) : Rat)
  gcongr

end Harder

/--
Take the same draws for two plans of which the second asks for no less: a cost and a rate of leaving
that are not lower, and a mean contribution that is not higher.  With exact numbers its median and
its ninth tenth are not earlier, where no payback is later than all months, and its share of runs
within a year is not higher.
-/
theorem simulate?_of_harder (harder : easy.Harder hard) (draws : Draws Rat) {runs : Nat}
    (positive : 1 ≤ runs) :
    ∃ early late, easy.simulate? draws runs = some early ∧ hard.simulate? draws runs = some late ∧
      NotLater early.median late.median ∧ NotLater early.slow late.slow ∧
      late.withinYear ≤ early.withinYear :=
  ⟨easy.simulate draws runs, hard.simulate draws runs, easy.simulate?_of_pos draws positive,
    hard.simulate?_of_pos draws positive, harder.notLater_monthAt draws positive 5,
    harder.notLater_monthAt draws positive 9, harder.withinYear_le draws runs⟩

/-- Of three runs two are paid back within the horizon under the easier plan, and one of them under
the harder one, which is worse in all three ways. -/
theorem simulate?_of_harder_three_runs :
    let easy : PaybackPlan Rat := ⟨100, 50, 300, 1 / 4, 3⟩
    let hard : PaybackPlan Rat := ⟨90, 50, 320, 1 / 2, 3⟩
    let draws : Draws Rat :=
      ⟨fun index => if index = 4 then 0 else 1, fun index => if index < 6 then 0 else 1⟩
    easy.Harder hard ∧ 1 ≤ 3 ∧
      (List.range 3).map (easy.walkOfRun draws) = [some 3, none, some 2] ∧
      (List.range 3).map (hard.walkOfRun draws) = [none, none, some 3] ∧ ∃ early late,
        easy.simulate? draws 3 = some early ∧ hard.simulate? draws 3 = some late ∧
        NotLater early.median late.median ∧ NotLater early.slow late.slow ∧
        late.withinYear ≤ early.withinYear := by
  intro easy hard draws
  have harder : easy.Harder hard := by
    constructor <;> decide +kernel
  have easy_walks : (List.range 3).map (easy.walkOfRun draws) = [some 3, none, some 2] := by
    decide +kernel
  have hard_walks : (List.range 3).map (hard.walkOfRun draws) = [none, none, some 3] := by
    decide +kernel
  have positive : 1 ≤ 3 := by decide
  exact ⟨harder, positive, easy_walks, hard_walks, simulate?_of_harder harder draws positive⟩

end PaybackPlan

end Appraisal.Simulation
