import Appraisal.Simulation.Payback
import Mathlib.Data.List.Range

/-!
# The month of payback

A run is paid back in a month if the customer has stayed until then and the contributions up to then
make up the cost.  The month that is computed for a run is the first such month within the horizon.
A run without one gets the month after the horizon.  If that is a month of the first year, the run
is counted among those that are paid back within a year, and so are all others (`withinYear_eq`).

Nothing here depends on how sums and products are rounded.
-/

namespace Appraisal.Simulation

open Arithmetic

theorem firstTrue?_eq_findIdx? (values : List Bool) : firstTrue? values = values.findIdx? id := by
  induction values with
  | nil => rfl
  | cons value others induction =>
      rw [List.findIdx?_cons]
      cases value with
      | true => rfl
      | false => simp [firstTrue?, induction]

namespace PaybackPlan

variable {α : Type}

/-- The draw of a month of a run, out of a row of all draws; months are counted from one. -/
def drawn (plan : PaybackPlan α) (row : Nat → α) (run month : Nat) : α :=
  row (run * plan.horizon + (month - 1))

theorem map_drawn (plan : PaybackPlan α) (row : Nat → α) (run : Nat) :
    ((List.range plan.horizon).map (run * plan.horizon + ·)).map row =
      (List.range' 1 plan.horizon).map (plan.drawn row run) := by
  rw [List.range'_eq_map_range, List.map_map, List.map_map]
  apply List.map_congr_left
  intro place _
  simp [drawn]

variable [Arithmetic α] (plan : PaybackPlan α)

/-- A run is paid back in a month of the horizon. -/
structure PaidIn (draws : Draws α) (run month : Nat) : Prop where
  inHorizon : 1 ≤ month ∧ month ≤ plan.horizon
  /-- The customer leaves in none of the months so far. -/
  stayed : ∀ earlier ∈ List.range' 1 month,
    plan.leaves (plan.drawn draws.uniform run earlier) = false
  /-- What the months so far contributed makes up the cost. -/
  covered : atMost zero (plan.opening + sum ((List.range' 1 month).map fun earlier =>
    plan.contribution (plan.drawn draws.normal run earlier))) = true

instance (draws : Draws α) (run : Nat) : DecidablePred (plan.PaidIn draws run) := fun month =>
  decidable_of_iff
    ((1 ≤ month ∧ month ≤ plan.horizon) ∧
      (∀ earlier ∈ List.range' 1 month,
        plan.leaves (plan.drawn draws.uniform run earlier) = false) ∧
      atMost zero (plan.opening + sum ((List.range' 1 month).map fun earlier =>
        plan.contribution (plan.drawn draws.normal run earlier))) = true)
    ⟨fun ⟨inHorizon, stayed, covered⟩ => ⟨inHorizon, stayed, covered⟩,
      fun ⟨inHorizon, stayed, covered⟩ => ⟨inHorizon, stayed, covered⟩⟩

/-- A run is paid back within the horizon, and not later than in some month. -/
def PaidBy (draws : Draws α) (last run : Nat) : Prop :=
  ∃ month ≤ last, plan.PaidIn draws run month

instance (draws : Draws α) (last : Nat) : DecidablePred (plan.PaidBy draws last) := fun _ =>
  Nat.decidableExistsLE last

/-! ## All months of a run -/

/--
For each month whether the run is paid back in it, given whether the customer is `here` at the start
and what was `gained` before.
-/
def paidFrom (here : Bool) (gained : α) (uniforms normals : List α) : List Bool :=
  let present := allSoFar here (uniforms.map fun draw => !plan.leaves draw)
  let gains := List.zipWith (fun here draw => if here then plan.contribution draw else zero)
    present normals
  List.zipWith (fun balance here => atMost zero balance && here)
    ((runningSums gained gains).map (plan.opening + ·)) present

theorem paidFrom_cons (here : Bool) (gained uniform normal : α) (uniforms normals : List α) :
    plan.paidFrom here gained (uniform :: uniforms) (normal :: normals) =
      let stays := here && !plan.leaves uniform
      let more := gained + if stays then plan.contribution normal else zero
      (atMost zero (plan.opening + more) && stays) ::
        plan.paidFrom stays more uniforms normals :=
  rfl

/-- A customer that has left pays nothing back. -/
theorem mem_paidFrom_false {gained : α} {uniforms normals : List α} :
    true ∉ plan.paidFrom false gained uniforms normals := by
  induction uniforms generalizing gained normals with
  | nil => simp [paidFrom, allSoFar]
  | cons uniform uniforms induction =>
      cases normals with
      | nil => simp [paidFrom, allSoFar, runningSums]
      | cons normal normals =>
          rw [paidFrom_cons]
          simpa using induction

theorem getElem?_paidFrom (uniform normal : Nat → α) (start count place : Nat) (gained : α) :
    (plan.paidFrom true gained ((List.range' start count).map uniform)
        ((List.range' start count).map normal))[place]? = some true ↔
      place < count ∧
        (∀ month ∈ List.range' start (place + 1), plan.leaves (uniform month) = false) ∧
        atMost zero (plan.opening + ((List.range' start (place + 1)).map fun month =>
          plan.contribution (normal month)).foldl (· + ·) gained) = true := by
  -- What the first month contributes has been gained before the others, which start a month later.
  induction count generalizing start place gained with
  | zero => simp [paidFrom, allSoFar]
  | succ count induction =>
      rw [List.range'_succ, List.map_cons, List.map_cons, paidFrom_cons]
      cases leaves : plan.leaves (uniform start) with
      | true =>
          have gone : ¬ ∀ month ∈ List.range' start (place + 1),
              plan.leaves (uniform month) = false := by
            simp [List.range'_succ, leaves]
          simp only [Bool.not_true, Bool.and_false, gone, false_and, and_false, iff_false]
          intro found
          have member := List.mem_of_getElem? found
          exact plan.mem_paidFrom_false (by simpa using member)
      | false =>
          cases place with
          | zero => simp [leaves]
          | succ place =>
              have further := induction (start + 1) place (gained + plan.contribution (normal start))
              rw [List.range'_succ (n := place + 1)]
              simpa [leaves] using further

/-! ## The first month of payback -/

section Run

variable {plan} {draws : Draws α} {run : Nat}

/-- For each month of the horizon whether the run is paid back in it. -/
def paid (plan : PaybackPlan α) (draws : Draws α) (run : Nat) : List Bool :=
  plan.paidFrom true zero ((List.range' 1 plan.horizon).map (plan.drawn draws.uniform run))
    ((List.range' 1 plan.horizon).map (plan.drawn draws.normal run))

theorem monthOfRun_eq :
    plan.monthOfRun draws run =
      (((plan.paid draws run).findIdx? id).map (· + 1)).getD plan.never := by
  rw [monthOfRun, map_drawn, map_drawn, ← firstTrue?_eq_findIdx?]
  rfl

theorem paidIn_succ_iff (place : Nat) :
    plan.PaidIn draws run (place + 1) ↔ (plan.paid draws run)[place]? = some true := by
  rw [paid, getElem?_paidFrom]
  constructor
  · rintro ⟨⟨_, last⟩, stayed, covered⟩
    exact ⟨last, stayed, covered⟩
  · rintro ⟨last, stayed, covered⟩
    exact ⟨⟨Nat.succ_pos place, last⟩, stayed, covered⟩

/-- The month of a run is the first one in which it is paid back, or the one after the horizon. -/
theorem monthOfRun_cases (plan : PaybackPlan α) (draws : Draws α) (run : Nat) :
    (plan.PaidIn draws run (plan.monthOfRun draws run) ∧
        ∀ earlier < plan.monthOfRun draws run, ¬ plan.PaidIn draws run earlier) ∨
      plan.monthOfRun draws run = plan.never ∧ ∀ month, ¬ plan.PaidIn draws run month := by
  cases found : (plan.paid draws run).findIdx? id with
  | some place =>
      obtain ⟨bound, here, first⟩ := List.findIdx?_eq_some_iff_getElem.mp found
      have month_eq : plan.monthOfRun draws run = place + 1 := by
        rw [monthOfRun_eq, found]
        rfl
      rw [month_eq, paidIn_succ_iff, List.getElem?_eq_getElem bound]
      refine .inl ⟨congrArg some here, ?_⟩
      rintro (_ | earlier) earlier_lt early
      · exact absurd early.inHorizon.1 (by omega)
      · have sooner : earlier < place := by omega
        rw [paidIn_succ_iff, List.getElem?_eq_getElem (by omega)] at early
        exact first earlier sooner (Option.some.inj early)
  | none =>
      have month_eq : plan.monthOfRun draws run = plan.never := by
        rw [monthOfRun_eq, found]
        rfl
      refine .inr ⟨month_eq, ?_⟩
      rintro (_ | place) some_month
      · exact absurd some_month.inHorizon.1 (by omega)
      · have member := List.mem_of_getElem? ((paidIn_succ_iff place).mp some_month)
        simpa using List.findIdx?_eq_none_iff.mp found true member

theorem monthOfRun_le_never : plan.monthOfRun draws run ≤ plan.never := by
  rcases monthOfRun_cases plan draws run with ⟨paid, _⟩ | ⟨none, _⟩
  · exact Nat.le_succ_of_le paid.inHorizon.2
  · exact Nat.le_of_eq none

/-- Within the horizon the month of a run tells by when it is paid back. -/
theorem monthOfRun_le_iff {last : Nat} (within : last ≤ plan.horizon) :
    plan.monthOfRun draws run ≤ last ↔ plan.PaidBy draws last run := by
  rcases monthOfRun_cases plan draws run with ⟨paid, first⟩ | ⟨month_eq, unpaid⟩
  · constructor
    · intro soon
      exact ⟨_, soon, paid⟩
    · rintro ⟨month, soon, month_paid⟩
      by_contra late
      exact first month (by omega) month_paid
  · constructor
    · rw [month_eq, never]
      omega
    · rintro ⟨month, _, month_paid⟩
      exact absurd month_paid (unpaid month)

end Run

/-! ## Runs within a year -/

theorem simulate?_of_pos (draws : Draws α) {runs : Nat} (positive : 1 ≤ runs) :
    plan.simulate? draws runs = some (plan.simulate draws runs) := by
  have enough : 1 ≤ (runs : Int) := Int.ofNat_le.mpr positive
  rw [simulate?, if_pos enough, Int.toNat_natCast]

/--
How many months of the first year there are among the months of some runs.  A horizon of less than a
year makes every run count.
-/
theorem countP_sortedMonths (draws : Draws α) (runs : Nat) :
    ((plan.sortedMonths draws runs).countP fun month => month ≤ 12) =
      if 12 ≤ plan.months then (List.range runs).countP fun run => plan.PaidBy draws 12 run
      else runs := by
  have unsorted := (List.mergeSort_perm ((List.range runs).map (plan.monthOfRun draws))
    (fun left right => decide (left ≤ right))).countP_eq fun month => month ≤ 12
  rw [sortedMonths, unsorted, List.countP_map]
  split
  · rename_i long
    have within : 12 ≤ plan.horizon := by
      rw [horizon]
      omega
    apply List.countP_congr
    intro run _
    simp [monthOfRun_le_iff within]
  · rename_i short
    have soon : plan.never ≤ 12 := by
      rw [never, horizon]
      omega
    have all_soon : ∀ run ∈ List.range runs, plan.monthOfRun draws run ≤ 12 :=
      fun run _ => monthOfRun_le_never.trans soon
    have all_counted := List.countP_eq_length.mpr fun run member =>
      decide_eq_true (all_soon run member)
    simpa [Function.comp_def] using all_counted

/--
The share of runs within a year is the share of those that are paid back by the twelfth month, if
the horizon is a year or more.  Otherwise it is the share of all runs.
-/
theorem withinYear_eq (draws : Draws α) {runs : Nat} (positive : 1 ≤ runs) :
    let paidRuns := (List.range runs).countP fun run => plan.PaidBy draws 12 run
    let counted := if 12 ≤ plan.months then paidRuns else runs
    ∃ payback, plan.simulate? draws runs = some payback ∧
      payback.withinYear = roundPlaces 3 (ofInt counted / ofInt runs) := by
  intro paidRuns counted
  refine ⟨plan.simulate draws runs, plan.simulate?_of_pos draws positive, ?_⟩
  rw [simulate, countP_sortedMonths]

/-- Of two runs one is paid back in the third month; in the other one the customer leaves at once. -/
theorem withinYear_of_two_runs :
    let plan : PaybackPlan Rat := ⟨100, 0, 300, 1 / 2, 12⟩
    let draws : Draws Rat := ⟨fun index => if index < 12 then 1 else 0, fun _ => 0⟩
    1 ≤ 2 ∧ ∃ payback, plan.simulate? draws 2 = some payback ∧ payback.withinYear = 1 / 2 := by
  intro plan draws
  have positive : 1 ≤ 2 := by decide
  obtain ⟨payback, simulated, share⟩ := plan.withinYear_eq draws positive
  refine ⟨positive, payback, simulated, share.trans ?_⟩
  decide +kernel

/-- The customer leaves at once, and is counted as paid back because only half a year is looked at. -/
theorem withinYear_of_half_year :
    let plan : PaybackPlan Float := ⟨100, 0, 300, 1, 6⟩
    let draws : Draws Float := ⟨fun _ => 0.5, fun _ => 0⟩
    let paidRuns := (List.range 1).countP fun run => plan.PaidBy draws 12 run
    ∃ payback, plan.simulate? draws 1 = some payback ∧ paidRuns = 0 ∧
      payback.withinYear = 1.0 ∧
      payback.withinYear ≠ roundPlaces 3 (ofInt paidRuns / ofInt 1) := by
  intro plan draws paidRuns
  refine ⟨plan.simulate draws 1, rfl, ?_, ?_, ?_⟩
  · decide +kernel
  · decide +kernel
  · decide +kernel

end PaybackPlan

end Appraisal.Simulation
