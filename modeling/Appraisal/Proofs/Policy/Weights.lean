import Appraisal.Proofs.Number.Exact
import Appraisal.Proofs.Policy.Override
import Mathlib.Algebra.BigOperators.Ring.List
import Mathlib.Algebra.Order.Field.Basic
import Mathlib.Tactic.Ring

/-!
# Weights add up to one

With exact numbers every row with a positive total is divided by it, also one that nothing was put
into, since the row of a category adds up to one already.  So the weights under an override add up to
one and are those of the overwritten row in proportion; there are none exactly if the total of that
row is not positive (`under_exact`).
-/

namespace Appraisal.Weights

open Arithmetic

variable {row : PerDimension Rat}

/-! ## Totals -/

theorem total_eq_sum (row : PerDimension Rat) : total row = row.toList.sum :=
  sum_rat _

theorem sum_base (category : Category) : (base category : PerDimension Rat).toList.sum = 1 := by
  cases category <;> decide +kernel

theorem sum_scaled (factor : Rat) (row : PerDimension Rat) :
    (row.map (factor * ·)).toList.sum = factor * row.toList.sum := by
  have scaled : (row.map (factor * ·)).get = fun dimension => factor * row.get dimension :=
    funext fun dimension => PerDimension.get_map _ row dimension
  rw [PerDimension.toList, PerDimension.toList, scaled, List.sum_map_mul_left]

theorem sum_divided (divisor : Rat) (row : PerDimension Rat) :
    (row.map (· / divisor)).toList.sum = row.toList.sum / divisor := by
  simpa only [div_eq_inv_mul] using sum_scaled divisor⁻¹ row

/-! ## Division by the total -/

theorem normalized_of_nonpos (empty : row.toList.sum ≤ 0) :
    normalized row = .error .noPositiveTotal := by
  simp [normalized, total_eq_sum, empty]

theorem normalized_of_pos (positive : 0 < row.toList.sum) :
    normalized row = .ok (row.map (· / row.toList.sum)) := by
  simp [normalized, total_eq_sum, not_le.mpr positive]

theorem normalized_of_sum_eq_one (whole : row.toList.sum = 1) : normalized row = .ok row := by
  have positive : 0 < row.toList.sum := by
    rw [whole]
    exact one_pos
  have unchanged : row.map (· / row.toList.sum) = row := by
    ext dimension
    rw [PerDimension.get_map, whole, div_one]
  rw [normalized_of_pos positive, unchanged]

theorem normalized_scaled {factor : Rat} (positive : 0 < factor) (row : PerDimension Rat) :
    normalized (row.map (factor * ·)) = normalized row := by
  by_cases empty : row.toList.sum ≤ 0
  · have scaled_empty : (row.map (factor * ·)).toList.sum ≤ 0 := by
      rw [sum_scaled]
      exact mul_nonpos_of_nonneg_of_nonpos positive.le empty
    rw [normalized_of_nonpos empty, normalized_of_nonpos scaled_empty]
  · have full : 0 < row.toList.sum := not_le.mp empty
    have scaled_full : 0 < (row.map (factor * ·)).toList.sum := by
      rw [sum_scaled]
      exact mul_pos positive full
    rw [normalized_of_pos full, normalized_of_pos scaled_full]
    congr 1
    ext dimension
    rw [PerDimension.get_map, PerDimension.get_map, PerDimension.get_map, sum_scaled,
      mul_div_mul_left _ _ positive.ne']

/-! ## Rows under an override -/

/-- With exact numbers it makes no difference whether there is an override at all. -/
theorem under_eq_normalized (name : String) (fields : List (String × Rat)) :
    under name fields = normalized (overwritten (base (Category.ofName name)) fields) := by
  rw [under_eq]
  cases fields with
  | nil => exact (normalized_of_sum_eq_one (sum_base _)).symm
  | cons => rfl

/-- Weights by the names of their dimensions. -/
def named (weights : PerDimension Rat) : List (String × Rat) :=
  Dimension.all.map fun dimension => (dimension.name, weights.get dimension)

theorem overwritten_named (row weights : PerDimension Rat) :
    overwritten row (named weights) = weights := by
  ext dimension
  cases dimension <;> rfl

theorem under_filter (name : String) (fields : List (String × Rat)) :
    under name (fields.filter fun field => (Dimension.ofName? field.1).isSome) =
      under name fields := by
  rw [under_eq_normalized, under_eq_normalized, overwritten_of_entries_eq (entries_filter fields)]

theorem under_scaled {fields : List (String × Rat)}
    (full : ∀ dimension : Dimension, dimension.name ∈ fields.map Prod.fst) {factor : Rat}
    (positive : 0 < factor) (name : String) :
    under name (fields.map fun (name, value) => (name, factor * value)) = under name fields := by
  rw [under_eq_normalized, under_eq_normalized, overwritten_map full,
    normalized_scaled positive]

theorem under_named {weights : PerDimension Rat} (whole : weights.toList.sum = 1) (name : String) :
    under name (named weights) = .ok weights := by
  rw [under_eq_normalized, overwritten_named, normalized_of_sum_eq_one whole]

theorem proportional_of_divided (divisor : Rat) (row : PerDimension Rat) (one other : Dimension) :
    (row.map (· / divisor)).get one * row.get other =
      (row.map (· / divisor)).get other * row.get one := by
  rw [PerDimension.get_map, PerDimension.get_map]
  ring

/--
The row of a category, overwritten by an override, gives no weights exactly if its total is not
positive, which takes the name of a dimension in the override.  Otherwise it gives six weights that
add up to one and are in the proportions of the row, and as an override they give themselves, under
every category.  Values with other names have no effect, and neither has a positive factor on an
override of all dimensions.
-/
theorem under_exact (name : String) (fields : List (String × Rat)) :
    let row := overwritten (base (Category.ofName name)) fields
    (under name fields = .error .noPositiveTotal ↔ row.toList.sum ≤ 0) ∧
      ((∀ field ∈ fields, Dimension.ofName? field.1 = none) → 0 < row.toList.sum) ∧
      (0 < row.toList.sum → ∃ weights, under name fields = .ok weights ∧
        (named weights).map Prod.fst =
          ["problem", "underserved", "demand", "differentiation", "economics", "gtm"] ∧
        weights.toList.sum = 1 ∧
        (∀ one other, weights.get one * row.get other = weights.get other * row.get one) ∧
        ∀ other, under other (named weights) = .ok weights) ∧
      under name (fields.filter fun field => (Dimension.ofName? field.1).isSome) =
        under name fields ∧
      ((∀ dimension : Dimension, dimension.name ∈ fields.map Prod.fst) →
        ∀ factor : Rat, 0 < factor →
          under name (fields.map fun (name, value) => (name, factor * value)) =
            under name fields) := by
  intro row
  refine ⟨?rejected, ?unknown, ?resolved, under_filter name fields, ?scaled⟩
  case rejected =>
    rw [under_eq_normalized]
    constructor
    · intro rejected
      by_contra full
      rw [normalized_of_pos (not_le.mp full)] at rejected
      contradiction
    · exact normalized_of_nonpos
  case unknown =>
    intro unknown
    have untouched : row = base (Category.ofName name) := by
      rw [← overwritten_nil (base _)]
      exact overwritten_of_entries_eq (entries_eq_nil unknown) _
    rw [untouched, sum_base]
    exact one_pos
  case resolved =>
    intro positive
    have whole : (row.map (· / row.toList.sum)).toList.sum = 1 := by
      rw [sum_divided, div_self positive.ne']
    refine ⟨row.map (· / row.toList.sum), ?_, rfl, whole, proportional_of_divided _ row, ?_⟩
    · rw [under_eq_normalized, normalized_of_pos positive]
    · exact under_named whole
  case scaled =>
    intro full factor positive
    exact under_scaled full positive name

end Appraisal.Weights
