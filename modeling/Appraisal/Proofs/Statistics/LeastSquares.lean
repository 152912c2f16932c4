import Appraisal.Proofs.Number.Exact
import Appraisal.Statistics.Regression
import Mathlib.Algebra.Order.BigOperators.Group.List
import Mathlib.Algebra.Order.Field.Basic
import Mathlib.Tactic.FieldSimp
import Mathlib.Tactic.Linarith
import Mathlib.Tactic.Ring

/-!
# Least squares

The squared residuals of a line through points are told by three sums around the means: the spreads
of both coordinates and their joint spread (`residual_eq`).  A line through the means whose slope
solves the normal equation leaves the least (`residual_le_of_normal`).  The slope that is computed
solves it unless the places are spread, but less than the bound that divisors are kept above; it is
then too small, but the line still leaves no more than a level one does.
-/

namespace Appraisal.Statistics

open Arithmetic

theorem mean_rat (sample : List Rat) : mean sample = sample.sum / (max 1 sample.length : Nat) := by
  rw [mean, sum_rat]
  change sample.sum / ((max 1 (sample.length : Int) : Int) : Rat) = _
  norm_cast

theorem sumOfSquares_map {α : Type} (items : List α) (value : α → Rat) :
    sumOfSquares (items.map value) = .ok (items.map fun item => value item ^ 2).sum := by
  rw [sumOfSquares_of_finite fun _ => rfl, sum_rat, List.map_map]
  simp only [sq]
  rfl

theorem zero_le_sum_squares {α : Type} (items : List α) (value : α → Rat) :
    0 ≤ (items.map fun item => value item ^ 2).sum := by
  apply List.sum_nonneg
  rw [List.forall_mem_map]
  intro item _
  exact sq_nonneg (value item)

theorem tiny_rat : (tiny : Rat) = 1 / 10 ^ 12 := by
  decide +kernel

/-! ## Sums around the means -/

/-- The squared deviations of values from their mean, added up. -/
def spread (values : List Rat) : Rat :=
  (values.map fun value => (value - mean values) ^ 2).sum

theorem zero_le_spread (values : List Rat) : 0 ≤ spread values :=
  zero_le_sum_squares values (· - mean values)

/-- The products of the deviations of both coordinates from their means, added up. -/
def jointSpread (points : List (Rat × Rat)) : Rat :=
  (points.map fun point => (point.1 - mean (points.map Prod.fst)) *
    (point.2 - mean (points.map Prod.snd))).sum

/-- The squared distances of points from a line, along the second coordinate, added up. -/
def residual (intercept slope : Rat) (points : List (Rat × Rat)) : Rat :=
  (points.map fun point => (point.2 - (intercept + slope * point.1)) ^ 2).sum

theorem zero_le_residual (intercept slope : Rat) (points : List (Rat × Rat)) :
    0 ≤ residual intercept slope points :=
  zero_le_sum_squares points fun point => point.2 - (intercept + slope * point.1)

/-- Deviations from the mean cancel. -/
theorem sum_deviations (values : List Rat) : (values.map (· - mean values)).sum = 0 := by
  have shifted (center : Rat) :
      (values.map (· - center)).sum = values.sum - values.length * center := by
    induction values with
    | nil => simp
    | cons value others induction =>
        rw [List.map_cons, List.sum_cons, List.sum_cons, induction, List.length_cons]
        push_cast
        ring
  rw [shifted, mean_rat]
  cases values with
  | nil => simp
  | cons value others =>
      have size : max 1 (value :: others).length = (value :: others).length :=
        max_eq_right (Nat.succ_pos _)
      have nonzero : ((value :: others).length : Rat) ≠ 0 :=
        Nat.cast_ne_zero.mpr (Nat.succ_ne_zero _)
      rw [size, mul_div_cancel₀ _ nonzero, sub_self]

/-- Squared residuals in terms of deviations from any centers. -/
theorem residual_around (centerX centerY intercept slope : Rat) (points : List (Rat × Rat)) :
    let height := centerY - (intercept + slope * centerX)
    residual intercept slope points =
      (points.map fun point => (point.2 - centerY) ^ 2).sum -
        2 * slope * (points.map fun point => (point.1 - centerX) * (point.2 - centerY)).sum +
        slope ^ 2 * (points.map fun point => (point.1 - centerX) ^ 2).sum +
        2 * height * ((points.map fun point => point.2 - centerY).sum -
          slope * (points.map fun point => point.1 - centerX).sum) +
        points.length * height ^ 2 := by
  intro height
  induction points with
  | nil => simp [residual]
  | cons point others induction =>
      rw [residual] at induction
      simp only [residual, List.map_cons, List.sum_cons, List.length_cons, induction]
      push_cast
      ring

/-- Squared residuals are told by the spreads, and by the height at which a line passes the means. -/
theorem residual_eq (intercept slope : Rat) (points : List (Rat × Rat)) :
    let meanX := mean (points.map Prod.fst)
    let meanY := mean (points.map Prod.snd)
    residual intercept slope points =
      spread (points.map Prod.snd) - 2 * slope * jointSpread points +
        slope ^ 2 * spread (points.map Prod.fst) +
        points.length * (meanY - (intercept + slope * meanX)) ^ 2 := by
  intro meanX meanY
  have flat_x : (points.map fun point => point.1 - meanX).sum = 0 := by
    simpa [List.map_map, Function.comp_def] using sum_deviations (points.map Prod.fst)
  have flat_y : (points.map fun point => point.2 - meanY).sum = 0 := by
    simpa [List.map_map, Function.comp_def] using sum_deviations (points.map Prod.snd)
  rw [residual_around meanX meanY, flat_x, flat_y, spread, spread, jointSpread, List.map_map,
    List.map_map]
  simp only [Function.comp_def, mul_zero, sub_self, add_zero]
  rfl

/-! ## Lines through the means -/

section ThroughMeans

variable {points : List (Rat × Rat)}

/-- The line of some slope through the means of both coordinates, at zero. -/
def interceptOf (slope : Rat) (points : List (Rat × Rat)) : Rat :=
  mean (points.map Prod.snd) - slope * mean (points.map Prod.fst)

theorem residual_through_means (slope : Rat) (points : List (Rat × Rat)) :
    residual (interceptOf slope points) slope points =
      spread (points.map Prod.snd) - 2 * slope * jointSpread points +
        slope ^ 2 * spread (points.map Prod.fst) := by
  rw [residual_eq, interceptOf]
  ring

/-- A line through the means whose slope solves the normal equation leaves the least. -/
theorem residual_le_of_normal {slope : Rat}
    (normal : slope * spread (points.map Prod.fst) = jointSpread points)
    (otherIntercept otherSlope : Rat) :
    residual (interceptOf slope points) slope points ≤
      residual otherIntercept otherSlope points := by
  have apart : 0 ≤ (slope - otherSlope) ^ 2 * spread (points.map Prod.fst) :=
    mul_nonneg (sq_nonneg _) (zero_le_spread _)
  have off_means : 0 ≤ (points.length : Rat) * (mean (points.map Prod.snd) -
      (otherIntercept + otherSlope * mean (points.map Prod.fst))) ^ 2 := by
    positivity
  rw [residual_through_means, residual_eq, ← normal]
  linarith

/-- Places that are not spread have no joint spread with anything. -/
theorem jointSpread_of_level (level : spread (points.map Prod.fst) = 0) :
    jointSpread points = 0 := by
  by_contra joint
  -- A line through the means of this slope would have a negative sum of squared residuals.
  let steep := (spread (points.map Prod.snd) + 1) / (2 * jointSpread points)
  have nonneg := zero_le_residual (interceptOf steep points) steep points
  have steep_joint : 2 * steep * jointSpread points = spread (points.map Prod.snd) + 1 := by
    simp only [steep]
    field_simp
  rw [residual_through_means, level, steep_joint] at nonneg
  linarith

end ThroughMeans

/-! ## The line that is computed -/

section Fitted

variable (points : List (Rat × Rat))

/-- The slope that is computed; its divisor is kept above the bound. -/
def fittedSlope : Rat :=
  jointSpread points / max (1 / 10 ^ 12) (spread (points.map Prod.fst))

theorem fitPoints_eq :
    fitPoints points = .ok
      { intercept := interceptOf (fittedSlope points) points
        slope := fittedSlope points
        explained := 1 - residual (interceptOf (fittedSlope points) points) (fittedSlope points)
          points / max (1 / 10 ^ 12) (spread (points.map Prod.snd)) } := by
  have spread_x : sumOfSquares (points.map fun point => point.1 - mean (points.map Prod.fst)) =
      .ok (spread (points.map Prod.fst)) := by
    rw [sumOfSquares_map, spread, List.map_map]
    rfl
  have spread_y : sumOfSquares (points.map fun point => point.2 - mean (points.map Prod.snd)) =
      .ok (spread (points.map Prod.snd)) := by
    rw [sumOfSquares_map, spread, List.map_map]
    rfl
  have joint : sumOfProducts (points.map fun point =>
      (point.1 - mean (points.map Prod.fst), point.2 - mean (points.map Prod.snd))) =
        jointSpread points := by
    rw [sumOfProducts, sum_rat, jointSpread, List.map_map]
    rfl
  have residuals (intercept slope : Rat) :
      sumOfSquares (points.map fun point => point.2 - Line.at intercept slope point.1) =
        .ok (residual intercept slope points) := by
    rw [sumOfSquares_map, residual]
    rfl
  have slope_eq : jointSpread points / max (1 / 10 ^ 12) (spread (points.map Prod.fst)) =
      fittedSlope points := rfl
  simp only [fitPoints, spread_x, spread_y, joint, aboveOr_rat, tiny_rat, residuals, slope_eq,
    bind, Except.bind]
  rfl

variable {points}

/-- The fitted slope solves the normal equation, unless the places are spread below the bound. -/
theorem fittedSlope_normal (regular : spread (points.map Prod.fst) = 0 ∨
      1 / 10 ^ 12 ≤ spread (points.map Prod.fst)) :
    fittedSlope points * spread (points.map Prod.fst) = jointSpread points := by
  rcases regular with level | apart
  · rw [level, jointSpread_of_level level, mul_zero]
  · have positive : 0 < spread (points.map Prod.fst) := lt_of_lt_of_le (by norm_num) apart
    rw [fittedSlope, max_eq_right apart, div_mul_cancel₀ _ positive.ne']

/-- The fitted line leaves no more than a level line at the mean. -/
theorem residual_fitted_le (points : List (Rat × Rat)) :
    residual (interceptOf (fittedSlope points) points) (fittedSlope points) points ≤
      spread (points.map Prod.snd) := by
  let divisor : Rat := max (1 / 10 ^ 12) (spread (points.map Prod.fst))
  have positive : 0 < divisor := lt_max_of_lt_left (by norm_num)
  have spread_le : spread (points.map Prod.fst) ≤ divisor := le_max_right _ _
  have joint : jointSpread points = fittedSlope points * divisor :=
    (div_mul_cancel₀ _ positive.ne').symm
  have gained : 0 ≤ fittedSlope points ^ 2 *
      (2 * divisor - spread (points.map Prod.fst)) := by
    apply mul_nonneg (sq_nonneg _)
    linarith
  rw [residual_through_means, joint]
  linarith

/-- What the fitted line leaves is a share of what there is. -/
theorem explained_bounds (points : List (Rat × Rat)) :
    let left := residual (interceptOf (fittedSlope points) points) (fittedSlope points) points /
      max (1 / 10 ^ 12) (spread (points.map Prod.snd))
    0 ≤ 1 - left ∧ 1 - left ≤ 1 := by
  intro left
  have positive : (0 : Rat) < max (1 / 10 ^ 12) (spread (points.map Prod.snd)) :=
    lt_max_of_lt_left (by norm_num)
  have left_nonneg : 0 ≤ left := div_nonneg (zero_le_residual _ _ _) positive.le
  have left_le : left ≤ 1 :=
    (div_le_one positive).mpr ((residual_fitted_le points).trans (le_max_right _ _))
  constructor <;> linarith

theorem residual_of_exact {intercept slope : Rat}
    (exact_points : ∀ point ∈ points, point.2 = intercept + slope * point.1) :
    residual intercept slope points = 0 := by
  apply List.sum_eq_zero
  rw [List.forall_mem_map]
  intro point member
  rw [exact_points point member, sub_self, zero_pow two_ne_zero]

end Fitted

/--
Only the values that have a partner count, and a line is always fitted.  Its sum of squared residuals
is the least of all lines if the places have no spread at all, or one that is not below the bound.
Whatever the spread is, the share that the line explains lies between zero and one, and it is one if
all points lie on the line.
-/
theorem fit_leastSquares (xs ys : List Rat) :
    ∃ line, fit xs ys = .ok line ∧
      let shared := min xs.length ys.length
      let points := (xs.take shared).zip (ys.take shared)
      fit (xs.take shared) (ys.take shared) = .ok line ∧
        (spread (xs.take shared) = 0 ∨ 1 / 10 ^ 12 ≤ spread (xs.take shared) →
          ∀ intercept slope,
            residual line.intercept line.slope points ≤ residual intercept slope points) ∧
        0 ≤ line.explained ∧ line.explained ≤ 1 ∧
        ((∀ point ∈ points, point.2 = line.intercept + line.slope * point.1) →
          line.explained = 1) := by
  let shared := min xs.length ys.length
  let points := (xs.take shared).zip (ys.take shared)
  have points_eq : xs.zip ys = points := List.zip_eq_zip_take_min
  have places : points.map Prod.fst = xs.take shared := by
    apply List.map_fst_zip
    simp only [List.length_take]
    omega
  have fit_eq : fit xs ys = fitPoints points := congrArg fitPoints points_eq
  obtain ⟨explained_nonneg, explained_le⟩ := explained_bounds points
  refine ⟨_, fit_eq.trans (fitPoints_eq points), fitPoints_eq points, ?_, explained_nonneg,
    explained_le, ?_⟩
  · intro regular
    rw [← places] at regular
    exact residual_le_of_normal (fittedSlope_normal regular)
  · intro exact_points
    dsimp only at exact_points ⊢
    rw [residual_of_exact exact_points, zero_div, sub_zero]

/-- Two places too near to each other: the fitted line misses the points, and another one does not. -/
example :
    let points : List (Rat × Rat) := [(0, 0), (1 / 10 ^ 7, 1)]
    residual 0 (10 ^ 7) points = 0 ∧
      0 < residual (interceptOf (fittedSlope points) points) (fittedSlope points) points := by
  decide +kernel

end Appraisal.Statistics
