import Appraisal.Proofs.Simulation.Harder
import Appraisal.Simulation.Ratio
import Mathlib.Data.List.GetD

/-!
# Quantiles in order and in bounds

Quantiles are taken from a sorted row at places inside of it, and a higher quantile is taken at a
place that is not lower.  So they are in order, and what holds of all values of the row holds of
them: ratios are kept below the cap, and months within the horizon.  Rounding keeps order, and
telling the month after the horizon as none keeps it too, as none is later than all months.
-/

namespace Appraisal.Simulation

open Arithmetic

theorem quantileIndex_mono {few many : Nat} (fewer : few ≤ many) (length : Nat) :
    quantileIndex few length ≤ quantileIndex many length := by
  have shares : few * length / 10 ≤ many * length / 10 :=
    Nat.div_le_div_right (Nat.mul_le_mul_right length fewer)
  rw [quantileIndex, quantileIndex]
  omega

/-! ## Ratios -/

namespace RatioPlan

theorem ratio_rat (plan : RatioPlan Rat) (valueDraw costDraw : Rat) :
    plan.ratio valueDraw costDraw =
      min plan.cap (max 0 (plan.valueMean + plan.valueDeviation * valueDraw) /
        max 1 (plan.costMean + plan.costDeviation * costDraw)) := by
  have defined : isUndefined plan.cap = false := rfl
  have one : (ofInt 1 : Rat) = 1 := rfl
  rw [ratio, defined, value, cost]
  simp only [cutAt_rat, raisedTo_rat, zero_rat, one, Bool.false_eq_true, if_false]

theorem ratio_le_cap (plan : RatioPlan Rat) (valueDraw costDraw : Rat) :
    plan.ratio valueDraw costDraw ≤ plan.cap := by
  rw [ratio_rat]
  exact min_le_left _ _

theorem zero_le_ratio {plan : RatioPlan Rat} (cap_nonneg : 0 ≤ plan.cap)
    (valueDraw costDraw : Rat) : 0 ≤ plan.ratio valueDraw costDraw := by
  rw [ratio_rat]
  positivity

theorem perm_sortedRatios (plan : RatioPlan Rat) (draws : Draws Rat) (runs : Nat) :
    (plan.sortedRatios draws runs).Perm ((List.range runs).map fun run =>
      plan.ratio (draws.normal run) (draws.normal (runs + run))) :=
  List.mergeSort_perm _ _

theorem length_sortedRatios (plan : RatioPlan Rat) (draws : Draws Rat) (runs : Nat) :
    (plan.sortedRatios draws runs).length = runs := by
  rw [(perm_sortedRatios plan draws runs).length_eq, List.length_map, List.length_range]

theorem sorted_sortedRatios (plan : RatioPlan Rat) (draws : Draws Rat) (runs : Nat) :
    (plan.sortedRatios draws runs).Pairwise (· ≤ ·) :=
  List.pairwise_mergeSort' (· ≤ ·) _

theorem mem_sortedRatios {plan : RatioPlan Rat} {draws : Draws Rat} {runs : Nat} {ratio : Rat}
    (member : ratio ∈ plan.sortedRatios draws runs) :
    ∃ valueDraw costDraw, plan.ratio valueDraw costDraw = ratio := by
  obtain ⟨run, _, ratio_eq⟩ :=
    List.mem_map.mp ((perm_sortedRatios plan draws runs).mem_iff.mp member)
  exact ⟨_, _, ratio_eq⟩

section Quantiles

variable (plan : RatioPlan Rat) (draws : Draws Rat) {runs : Nat}

/-- A quantile of the ratios of some runs is the ratio at its place, rounded. -/
theorem ratioAt_sortedRatios {tenths : Nat}
    (inside : quantileIndex tenths runs < (plan.sortedRatios draws runs).length) :
    ratioAt (plan.sortedRatios draws runs) tenths =
      Rounding.toPlaces 2 (plan.sortedRatios draws runs)[quantileIndex tenths runs] := by
  rw [ratioAt, length_sortedRatios, List.getD_eq_getElem _ _ inside, roundPlaces_rat]

variable (positive : 1 ≤ runs)

include positive

theorem simulate?_of_pos : plan.simulate? draws runs = some (plan.simulate draws runs) := by
  have enough : 1 ≤ (runs : Int) := Int.ofNat_le.mpr positive
  rw [simulate?, if_pos enough, Int.toNat_natCast]

theorem inside_sortedRatios (tenths : Nat) :
    quantileIndex tenths runs < (plan.sortedRatios draws runs).length :=
  (quantileIndex_lt tenths positive).trans_eq (length_sortedRatios plan draws runs).symm

theorem ratioAt_mono {few many : Nat} (fewer : few ≤ many) :
    ratioAt (plan.sortedRatios draws runs) few ≤ ratioAt (plan.sortedRatios draws runs) many := by
  rw [ratioAt_sortedRatios plan draws (inside_sortedRatios plan draws positive few),
    ratioAt_sortedRatios plan draws (inside_sortedRatios plan draws positive many)]
  apply Rounding.toPlaces_mono
  exact (sorted_sortedRatios plan draws runs).sortedLE.getElem_le_getElem_of_le
    (quantileIndex_mono fewer runs)

theorem ratioAt_le (tenths : Nat) :
    ratioAt (plan.sortedRatios draws runs) tenths ≤ Rounding.toPlaces 2 plan.cap := by
  have inside := inside_sortedRatios plan draws positive tenths
  obtain ⟨valueDraw, costDraw, ratio_eq⟩ := mem_sortedRatios (List.getElem_mem inside)
  rw [ratioAt_sortedRatios plan draws inside, ← ratio_eq]
  exact Rounding.toPlaces_mono 2 (plan.ratio_le_cap valueDraw costDraw)

theorem zero_le_ratioAt (cap_nonneg : 0 ≤ plan.cap) (tenths : Nat) :
    0 ≤ ratioAt (plan.sortedRatios draws runs) tenths := by
  have inside := inside_sortedRatios plan draws positive tenths
  obtain ⟨valueDraw, costDraw, ratio_eq⟩ := mem_sortedRatios (List.getElem_mem inside)
  have nonneg := zero_le_ratio cap_nonneg valueDraw costDraw
  rw [ratioAt_sortedRatios plan draws inside, ← ratio_eq]
  exact (Rounding.toPlaces_intCast 2 0).symm.trans_le (Rounding.toPlaces_mono 2 nonneg)

end Quantiles

end RatioPlan

/-! ## Months -/

namespace PaybackPlan

section Quantiles

variable (plan : PaybackPlan Rat) (draws : Draws Rat) {runs : Nat}

theorem withinYear_bounds (runs : Nat) :
    0 ≤ (plan.simulate draws runs).withinYear ∧ (plan.simulate draws runs).withinYear ≤ 1 := by
  let soon := (plan.sortedMonths draws runs).countP fun month => month ≤ 12
  have soon_le : soon ≤ runs :=
    List.countP_le_length.trans_eq (length_sortedMonths plan draws runs)
  have share_nonneg : 0 ≤ ((soon : Int) : Rat) / ((runs : Int) : Rat) := by positivity
  have share_le : ((soon : Int) : Rat) / ((runs : Int) : Rat) ≤ 1 := by
    apply div_le_one_of_le₀
    · exact_mod_cast soon_le
    · positivity
  have rounded_zero := Rounding.toPlaces_intCast 3 0
  have rounded_one := Rounding.toPlaces_intCast 3 1
  constructor
  · exact rounded_zero.symm.trans_le (Rounding.toPlaces_mono 3 share_nonneg)
  · exact (Rounding.toPlaces_mono 3 share_le).trans_eq rounded_one

variable (positive : 1 ≤ runs)

include positive

theorem inside_sortedMonths (tenths : Nat) :
    quantileIndex tenths runs < (plan.sortedMonths draws runs).length :=
  (quantileIndex_lt tenths positive).trans_eq (length_sortedMonths plan draws runs).symm

/-- A higher quantile is not earlier. -/
theorem notLater_quantiles {few many : Nat} (fewer : few ≤ many) :
    NotLater (plan.monthAt (plan.sortedMonths draws runs) few)
      (plan.monthAt (plan.sortedMonths draws runs) many) := by
  have few_inside := inside_sortedMonths plan draws positive few
  have many_inside := inside_sortedMonths plan draws positive many
  rw [monthAt_sortedMonths plan few_inside, monthAt_sortedMonths plan many_inside]
  apply notLater_told
  · exact (sorted_sortedMonths plan draws runs).sortedLE.getElem_le_getElem_of_le
      (quantileIndex_mono fewer runs)
  · exact le_never_of_mem_sortedMonths (List.getElem_mem many_inside)

/-- A quantile that is a month is one of the horizon. -/
theorem monthAt_inHorizon {tenths month : Nat}
    (told_month : plan.monthAt (plan.sortedMonths draws runs) tenths = some month) :
    1 ≤ month ∧ (month : Int) ≤ max 1 plan.months := by
  have inside := inside_sortedMonths plan draws positive tenths
  obtain ⟨run, _, month_eq⟩ := List.mem_map.mp
    ((perm_sortedMonths plan draws runs).mem_iff.mp (List.getElem_mem inside))
  rw [monthAt_sortedMonths plan inside, ← month_eq, told_monthOfRun] at told_month
  have member := mem_of_walk told_month
  rw [List.mem_range'_1, horizon] at member
  omega

end Quantiles

/--
Of a positive number of runs, with exact numbers and any draws, every quantile is taken at a place of
the sorted row.  The three quantiles of the ratio are in order, the highest is at most the rounded
cap, and the lowest is not negative unless the cap is.  Of the two quantiles of the months the median
is not later, where no payback is later than all months; a quantile that is a month is one from one
to the horizon; and the share of runs within a year is a share.
-/
theorem quantiles_in_bounds (plan : PaybackPlan Rat) (ratios : RatioPlan Rat) (draws : Draws Rat)
    {runs : Nat} (positive : 1 ≤ runs) :
    (∀ tenths,
      quantileIndex tenths (ratios.sortedRatios draws runs).length <
          (ratios.sortedRatios draws runs).length ∧
        quantileIndex tenths (plan.sortedMonths draws runs).length <
          (plan.sortedMonths draws runs).length) ∧
      (∃ bands, ratios.simulate? draws runs = some bands ∧
        bands.low ≤ bands.middle ∧ bands.middle ≤ bands.high ∧
        bands.high ≤ Rounding.toPlaces 2 ratios.cap ∧ (0 ≤ ratios.cap → 0 ≤ bands.low)) ∧
      ∃ payback, plan.simulate? draws runs = some payback ∧
        NotLater payback.median payback.slow ∧
        (∀ month, payback.median = some month ∨ payback.slow = some month →
          1 ≤ month ∧ (month : Int) ≤ max 1 plan.months) ∧
        0 ≤ payback.withinYear ∧ payback.withinYear ≤ 1 := by
  refine ⟨?_, ⟨ratios.simulate draws runs, ratios.simulate?_of_pos draws positive, ?_⟩,
    ⟨plan.simulate draws runs, plan.simulate?_of_pos draws positive, ?_, ?_, ?_⟩⟩
  · intro tenths
    rw [RatioPlan.length_sortedRatios, length_sortedMonths]
    exact ⟨quantileIndex_lt tenths positive, quantileIndex_lt tenths positive⟩
  · exact ⟨ratios.ratioAt_mono draws positive (by decide),
      ratios.ratioAt_mono draws positive (by decide), ratios.ratioAt_le draws positive 9,
      fun cap_nonneg => ratios.zero_le_ratioAt draws positive cap_nonneg 1⟩
  · exact notLater_quantiles plan draws positive (by decide)
  · rintro month (median_eq | slow_eq)
    · exact monthAt_inHorizon plan draws positive median_eq
    · exact monthAt_inHorizon plan draws positive slow_eq
  · exact withinYear_bounds plan draws runs

/-- Of three ratios the highest is cut at the cap; of three runs one is not paid back. -/
theorem quantiles_in_bounds_of_three_runs :
    let plan : PaybackPlan Rat := ⟨100, 50, 300, 1 / 2, 3⟩
    let ratios : RatioPlan Rat := ⟨100, 100, 50, 0, 5⟩
    let draws : Draws Rat := ⟨fun index => if index = 4 then 0 else 1, fun index => index⟩
    1 ≤ 3 ∧
      (List.range 3).map (fun run => ratios.ratio (draws.normal run) (draws.normal (3 + run))) =
        [2, 4, 5] ∧
      (List.range 3).map (plan.walkOfRun draws) = [some 3, none, some 1] ∧
      (∃ bands, ratios.simulate? draws 3 = some bands ∧
        bands.low ≤ bands.middle ∧ bands.middle ≤ bands.high ∧ bands.high ≤ 5 ∧ 0 ≤ bands.low) ∧
      ∃ payback, plan.simulate? draws 3 = some payback ∧
        NotLater payback.median payback.slow ∧
        (∀ month, payback.median = some month ∨ payback.slow = some month →
          1 ≤ month ∧ month ≤ 3) ∧
        0 ≤ payback.withinYear ∧ payback.withinYear ≤ 1 := by
  intro plan ratios draws
  have positive : 1 ≤ 3 := by decide
  have row : (List.range 3).map (fun run =>
      ratios.ratio (draws.normal run) (draws.normal (3 + run))) = [2, 4, 5] := by
    decide +kernel
  have walks : (List.range 3).map (plan.walkOfRun draws) = [some 3, none, some 1] := by
    decide +kernel
  have cap_rounded : Rounding.toPlaces 2 ratios.cap = 5 := by
    decide +kernel
  have cap_nonneg : 0 ≤ ratios.cap := by
    decide +kernel
  obtain ⟨_, ⟨bands, ratios_simulated, low_le, middle_le, high_le, low_nonneg⟩, payback,
    months_simulated, ordered, in_horizon, share⟩ := quantiles_in_bounds plan ratios draws positive
  rw [cap_rounded] at high_le
  refine ⟨positive, row, walks, ⟨bands, ratios_simulated, low_le, middle_le, high_le,
    low_nonneg cap_nonneg⟩, payback, months_simulated, ordered, ?_, share⟩
  intro month quantile
  obtain ⟨first, last⟩ := in_horizon month quantile
  exact ⟨first, Int.ofNat_le.mp last⟩

end PaybackPlan

end Appraisal.Simulation
