import Appraisal.Proofs.Number.Exact
import Appraisal.Proofs.Simulation.Month
import Mathlib.Algebra.Order.Floor.Semifield
import Mathlib.Data.List.Sort
import Mathlib.Data.Rat.Floor

/-!
# Runs month by month

A run can be told as a walk through its months: each month the customer leaves, which ends the walk
without payback, or contributes something to the balance, which ends it as soon as the balance is
made up.  With exact numbers the months that are computed all at once are those of the walks
(`monthOfRun_eq_walk`), and the quantiles are places among the months of the walks in their order,
walks without payback last (`simulate?_of_walks`).
-/

namespace Appraisal.Simulation

open Arithmetic

/-- Of two months the first is not later; no month is later than all months. -/
def NotLater : Option Nat → Option Nat → Prop
  | _, none => True
  | none, some _ => False
  | some early, some late => early ≤ late

/-- The place of a quantile is the whole part of its share of the length, or the last place. -/
theorem quantileIndex_eq_floor (tenths length : Nat) :
    quantileIndex tenths length = min (length - 1) ⌊(tenths / 10 : Rat) * length⌋₊ := by
  have share : (tenths / 10 : Rat) * length = ((tenths * length : Nat) : Rat) / (10 : Nat) := by
    push_cast
    ring
  rw [quantileIndex, share, Nat.floor_div_eq_div]

theorem quantileIndex_lt (tenths : Nat) {length : Nat} (positive : 1 ≤ length) :
    quantileIndex tenths length < length := by
  rw [quantileIndex]
  omega

namespace PaybackPlan

/--
Walk through some months from a balance: to the first month in which the balance is made up, unless
the customer leaves before or in it.
-/
def walk (plan : PaybackPlan Rat) (uniform normal : Nat → Rat) : Rat → List Nat → Option Nat
  | _, [] => none
  | balance, month :: months =>
      if uniform month < plan.churnRate then none
      else
        let after := balance + max 0 (plan.mean + plan.deviation * normal month)
        if 0 ≤ after then some month else walk plan uniform normal after months

/-- Walk through the months of a run, from the cost to the horizon. -/
def walkOfRun (plan : PaybackPlan Rat) (draws : Draws Rat) (run : Nat) : Option Nat :=
  plan.walk (plan.drawn draws.uniform run) (plan.drawn draws.normal run) (-(max 0 plan.cost))
    (List.range' 1 plan.horizon)

variable {plan : PaybackPlan Rat} {draws : Draws Rat} {run : Nat}

theorem mem_of_walk {uniform normal : Nat → Rat} {balance : Rat} {months : List Nat} {month : Nat}
    (walked : plan.walk uniform normal balance months = some month) : month ∈ months := by
  induction months generalizing balance with
  | nil => contradiction
  | cons first others induction =>
      rw [walk] at walked
      split at walked
      · contradiction
      · dsimp only at walked
        split at walked
        · cases walked
          exact List.mem_cons_self
        · exact List.mem_cons_of_mem first (induction walked)

theorem le_horizon_of_walkOfRun {month : Nat} (walked : plan.walkOfRun draws run = some month) :
    month ≤ plan.horizon := by
  have member := mem_of_walk walked
  simp only [List.mem_range'_1] at member
  omega

/-! ## Walks and months at once -/

theorem opening_rat (plan : PaybackPlan Rat) : plan.opening = -(max 0 plan.cost) := by
  simp only [opening, aboveOr_rat, zero_rat]

theorem contribution_rat (plan : PaybackPlan Rat) (draw : Rat) :
    plan.contribution draw = max 0 (plan.mean + plan.deviation * draw) := by
  simp only [contribution, raisedTo_rat, zero_rat]

theorem findIdx?_paidFrom_false (gained : Rat) (uniforms normals : List Rat) :
    (plan.paidFrom false gained uniforms normals).findIdx? id = none := by
  rw [List.findIdx?_eq_none_iff]
  rintro (_ | _) member
  · rfl
  · exact absurd member plan.mem_paidFrom_false

theorem findIdx?_paidFrom (plan : PaybackPlan Rat) (uniform normal : Nat → Rat)
    (start count : Nat) (gained : Rat) :
    ((plan.paidFrom true gained ((List.range' start count).map uniform)
        ((List.range' start count).map normal)).findIdx? id).map (· + start) =
      plan.walk uniform normal (plan.opening + gained) (List.range' start count) := by
  induction count generalizing start gained with
  | zero => rfl
  | succ count induction =>
      rw [List.range'_succ, List.map_cons, List.map_cons, paidFrom_cons, walk]
      by_cases leaving : uniform start < plan.churnRate
      · have gone : plan.leaves (uniform start) = true := decide_eq_true leaving
        simp [leaving, gone, List.findIdx?_cons, findIdx?_paidFrom_false]
      · have here : plan.leaves (uniform start) = false := decide_eq_false leaving
        -- The walk adds to the balance, the sums add up before the opening is added.
        have balance_eq : plan.opening + gained + plan.contribution (normal start) =
            plan.opening + (gained + plan.contribution (normal start)) := add_assoc _ _ _
        have further := induction (start + 1) (gained + plan.contribution (normal start))
        rw [if_neg leaving, ← contribution_rat, balance_eq]
        simp only [here, Bool.not_false, Bool.and_self, if_true, Bool.and_true, ← further,
          List.findIdx?_cons, atMost_rat, zero_rat, id_eq, decide_eq_true_eq]
        by_cases made_up : 0 ≤ plan.opening + (gained + plan.contribution (normal start))
        · simp [made_up]
        · simp [made_up, Function.comp_def, Nat.add_assoc, Nat.add_comm 1]

/-- The month that is computed for a run is that of its walk, or the one after the horizon. -/
theorem monthOfRun_eq_walk :
    plan.monthOfRun draws run = (plan.walkOfRun draws run).getD plan.never := by
  have walked := findIdx?_paidFrom plan (plan.drawn draws.uniform run)
    (plan.drawn draws.normal run) 1 plan.horizon 0
  rw [add_zero, opening_rat] at walked
  rw [monthOfRun_eq, walkOfRun, ← walked]
  rfl

/-! ## Sorted months -/

/-- A month as it is told: the one after the horizon stands for none. -/
def told (plan : PaybackPlan Rat) (month : Nat) : Option Nat :=
  if month = plan.never then none else some month

theorem told_monthOfRun : plan.told (plan.monthOfRun draws run) = plan.walkOfRun draws run := by
  rw [monthOfRun_eq_walk]
  cases walked : plan.walkOfRun draws run with
  | none => simp [told]
  | some month =>
      have within := le_horizon_of_walkOfRun walked
      have different : month ≠ plan.never := by
        rw [never]
        omega
      simp [told, different]

theorem notLater_told {early late : Nat} (ordered : early ≤ late) (within : late ≤ plan.never) :
    NotLater (plan.told early) (plan.told late) := by
  by_cases unpaid : late = plan.never
  · simp [told, unpaid, NotLater]
  · have paid : early ≠ plan.never := by omega
    simpa [told, unpaid, paid, NotLater] using ordered

theorem perm_sortedMonths (plan : PaybackPlan Rat) (draws : Draws Rat) (runs : Nat) :
    (plan.sortedMonths draws runs).Perm ((List.range runs).map (plan.monthOfRun draws)) :=
  List.mergeSort_perm _ _

theorem length_sortedMonths (plan : PaybackPlan Rat) (draws : Draws Rat) (runs : Nat) :
    (plan.sortedMonths draws runs).length = runs := by
  rw [(perm_sortedMonths plan draws runs).length_eq, List.length_map, List.length_range]

theorem sorted_sortedMonths (plan : PaybackPlan Rat) (draws : Draws Rat) (runs : Nat) :
    (plan.sortedMonths draws runs).Pairwise (· ≤ ·) :=
  List.pairwise_mergeSort' (· ≤ ·) _

/-- No month is later than the one that stands for none. -/
theorem le_never_of_mem_sortedMonths {runs month : Nat}
    (member : month ∈ plan.sortedMonths draws runs) : month ≤ plan.never := by
  obtain ⟨run, _, rfl⟩ := List.mem_map.mp ((perm_sortedMonths plan draws runs).mem_iff.mp member)
  exact monthOfRun_le_never

/-- The months of some runs are told in their order. -/
theorem pairwise_told (plan : PaybackPlan Rat) (draws : Draws Rat) (runs : Nat) :
    ((plan.sortedMonths draws runs).map plan.told).Pairwise NotLater := by
  rw [List.pairwise_map]
  apply (sorted_sortedMonths plan draws runs).imp_of_mem
  intro early late _ late_member ordered
  exact notLater_told ordered (le_never_of_mem_sortedMonths late_member)

/-- A quantile of some months is a month at its place, as it is told. -/
theorem getElem?_told {months : List Nat} (some_month : months ≠ []) (tenths : Nat) :
    (months.map plan.told)[quantileIndex tenths months.length]? =
      some (plan.monthAt months tenths) := by
  have inside := quantileIndex_lt tenths (List.length_pos_of_ne_nil some_month)
  rw [monthAt, List.getElem?_map, List.getElem?_eq_getElem inside, Option.map_some,
    Option.filter_some, told]
  split <;> simp [*]

/--
With exact numbers the month of each run is that of its walk through the months from one to the
horizon.  The median and the ninth tenth stand among the months of all walks, in their order and
with the walks without payback last, at the place that is the whole part of their share of the runs,
or at the last place.
-/
theorem simulate?_of_walks (plan : PaybackPlan Rat) (draws : Draws Rat) {runs : Nat}
    (positive : 1 ≤ runs) :
    (∀ run, plan.monthOfRun draws run = (plan.walkOfRun draws run).getD plan.never) ∧
      ∃ (payback : Payback Rat) (sorted : List (Option Nat)),
        plan.simulate? draws runs = some payback ∧
        sorted.Perm ((List.range runs).map (plan.walkOfRun draws)) ∧ sorted.Pairwise NotLater ∧
        sorted[min (runs - 1) ⌊(1 / 2 : Rat) * runs⌋₊]? = some payback.median ∧
        sorted[min (runs - 1) ⌊(9 / 10 : Rat) * runs⌋₊]? = some payback.slow := by
  refine ⟨fun _ => monthOfRun_eq_walk, ?_⟩
  let months := plan.sortedMonths draws runs
  have months_perm := perm_sortedMonths plan draws runs
  have length_eq : months.length = runs := by
    rw [months_perm.length_eq, List.length_map, List.length_range]
  have some_month : months ≠ [] := by
    rw [← List.length_pos_iff, length_eq]
    exact positive
  have quantile (tenths : Nat) :
      (months.map plan.told)[min (runs - 1) ⌊(tenths / 10 : Rat) * runs⌋₊]? =
        some (plan.monthAt months tenths) := by
    rw [← quantileIndex_eq_floor, ← getElem?_told some_month, length_eq]
  refine ⟨plan.simulate draws runs, months.map plan.told, plan.simulate?_of_pos draws positive, ?_,
    pairwise_told plan draws runs, ?_, ?_⟩
  · have told_perm := months_perm.map plan.told
    simpa only [List.map_map, Function.comp_def, told_monthOfRun] using told_perm
  · have middle : (1 / 2 : Rat) = (5 : Nat) / 10 := by norm_num
    rw [middle, quantile]
    rfl
  · have last : (9 / 10 : Rat) = (9 : Nat) / 10 := by norm_num
    rw [last, quantile]
    rfl

/--
The first of three runs is paid back in the third month, in the second one the customer leaves, and
the third one is paid back in the second month.
-/
theorem simulate?_of_three_walks :
    let plan : PaybackPlan Rat := ⟨100, 50, 300, 1 / 2, 3⟩
    let draws : Draws Rat :=
      ⟨fun index => if index = 4 then 0 else 1, fun index => if index < 6 then 0 else 1⟩
    1 ≤ 3 ∧ plan.monthOfRun draws 1 = plan.never ∧
      ∃ (payback : Payback Rat) (sorted : List (Option Nat)),
        plan.simulate? draws 3 = some payback ∧
        sorted.Perm [some 3, none, some 2] ∧ sorted.Pairwise NotLater ∧
        sorted[1]? = some payback.median ∧ sorted[2]? = some payback.slow := by
  intro plan draws
  have positive : 1 ≤ 3 := by decide
  obtain ⟨months, payback, sorted, simulated, same, ordered, median, slow⟩ :=
    plan.simulate?_of_walks draws positive
  have walks : (List.range 3).map (plan.walkOfRun draws) = [some 3, none, some 2] := by
    decide +kernel
  have gone : (plan.walkOfRun draws 1).getD plan.never = plan.never := by
    decide +kernel
  have middle : min (3 - 1) ⌊(1 / 2 : Rat) * (3 : Nat)⌋₊ = 1 := by
    decide +kernel
  have last : min (3 - 1) ⌊(9 / 10 : Rat) * (3 : Nat)⌋₊ = 2 := by
    decide +kernel
  rw [walks] at same
  rw [middle] at median
  rw [last] at slow
  exact ⟨positive, (months 1).trans gone, payback, sorted, simulated, same, ordered, median, slow⟩

end PaybackPlan

end Appraisal.Simulation
