import Appraisal.Proofs.Fallible
import Appraisal.Proofs.Number.Signs
import Appraisal.Proofs.Policy.Override

/-!
# Weights below zero

The total of an overwritten row has to be positive, but no weight by itself has to be: a weight is
divided by that total and keeps its sign.  So a weight below zero stands where an override puts a
number below zero, and only there (`zero_le_of_under`).
-/

namespace Appraisal.Weights

open Arithmetic

theorem hundredths_lt (category : Category) (dimension : Dimension) :
    (hundredths category).get dimension < 28 := by
  cases category <;> cases dimension <;> decide

theorem fair_decimal : ∀ units < 28,
    (decimal units 2 : Float).isFinite = true ∧ 0 ≤ (decimal units 2 : Float) := by
  decide +kernel

theorem fair_base (category : Category) (dimension : Dimension) :
    ((base category : PerDimension Float).get dimension).isFinite = true ∧
      0 ≤ (base category : PerDimension Float).get dimension := by
  rw [base, PerDimension.get_map]
  exact fair_decimal _ (hundredths_lt category dimension)

/-! ## Totals of finite numbers -/

theorem isNaN_foldl_add {values : List Float} (finite : ∀ value ∈ values, value.isFinite = true)
    {start : Float} (defined : start.isNaN = false) :
    (values.foldl (· + ·) start).isNaN = false := by
  induction values generalizing start with
  | nil => exact defined
  | cons value values induction =>
      rw [List.forall_mem_cons] at finite
      exact induction finite.2 (Double.isNaN_add defined finite.1)

/-- A total of finite numbers may be infinite, but it is defined. -/
theorem isNaN_total {row : PerDimension Float}
    (finite : ∀ dimension, (row.get dimension).isFinite = true) : (total row).isNaN = false := by
  apply isNaN_foldl_add _ rfl
  intro value member
  obtain ⟨dimension, _, rfl⟩ := List.mem_map.mp member
  exact finite dimension

theorem zero_le_of_normalized {row weights : PerDimension Float}
    (finite : ∀ dimension, (row.get dimension).isFinite = true)
    (divided : normalized row = .ok weights) {dimension : Dimension}
    (fair : 0 ≤ row.get dimension) : 0 ≤ weights.get dimension := by
  rw [normalized] at divided
  split at divided
  · contradiction
  · rename_i full
    cases divided
    have positive : 0 < total row := by
      by_contra empty
      exact full (decide_eq_true (Double.le_of_not_lt rfl (isNaN_total finite) empty))
    rw [PerDimension.get_map]
    exact Double.zero_le_div fair (finite dimension) positive

/-! ## Rows under an override -/

/--
Under an override with finite numbers the weight of a dimension is not below zero, unless the
override puts a number below zero for this dimension.
-/
theorem zero_le_of_under {name : String} {fields : List (String × Float)}
    {weights : PerDimension Float} (finite : ∀ field ∈ fields, field.2.isFinite = true)
    (resolved : under name fields = .ok weights) (dimension : Dimension)
    (fair : ∀ value, (dimension.name, value) ∈ fields → 0 ≤ value) :
    0 ≤ weights.get dimension := by
  rw [under_eq] at resolved
  split at resolved
  · cases resolved
    exact (fair_base _ dimension).2
  · have row_finite (dimension : Dimension) :
        ((overwritten (base (Category.ofName name)) fields).get dimension).isFinite = true :=
      get_overwritten_induction (motive := (·.isFinite = true)) (fair_base _ dimension).1
        fun value member => finite _ member
    exact zero_le_of_normalized row_finite resolved
      (get_overwritten_induction (fair_base _ dimension).2 fair)

/-- The weight of the problem is below zero here, and that of the demand is not. -/
theorem zero_le_of_under_negative_problem :
    let fields : List (String × Float) := [("problem", -0.5), ("demand", 0.5)]
    ∃ weights, (∀ field ∈ fields, field.2.isFinite = true) ∧ under "general" fields = .ok weights ∧
      (∀ value, (Dimension.demand.name, value) ∈ fields → 0 ≤ value) ∧
      0 ≤ weights.get .demand ∧ weights.get .problem < 0 := by
  intro fields
  have passed : (under "general" fields).toOption.any
      (fun weights => weights.get .problem < 0) = true := by decide +kernel
  obtain ⟨weights, resolved, below⟩ := exists_of_any_toOption passed
  have finite : ∀ field ∈ fields, field.2.isFinite = true := by decide +kernel
  have fair : ∀ value, (Dimension.demand.name, value) ∈ fields → 0 ≤ value := by
    intro value member
    obtain rfl : value = 0.5 := by simpa [fields, Dimension.name] using member
    decide +kernel
  exact ⟨weights, finite, resolved, fair, zero_le_of_under finite resolved .demand fair,
    of_decide_eq_true below⟩

/-- One number below zero in an override makes a weight negative, although the total is positive. -/
theorem below_zero_of_negative_problem :
    let fields : List (String × Float) := [("problem", -0.5)]
    (∀ field ∈ fields, field.2.isFinite = true) ∧
      ∃ weights, under "general" fields = .ok weights ∧ ¬ 0 ≤ weights.get .problem := by
  intro fields
  have finite : ∀ field ∈ fields, field.2.isFinite = true := by decide +kernel
  have passed : (under "general" fields).toOption.any
      (fun weights => !decide (0 ≤ weights.get .problem)) = true := by decide +kernel
  obtain ⟨weights, resolved, below⟩ := exists_of_any_toOption passed
  exact ⟨finite, weights, resolved, of_decide_eq_false (Bool.not_eq_true' _ ▸ below)⟩

end Appraisal.Weights
