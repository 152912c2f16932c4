import Mathlib.Algebra.Order.BigOperators.Group.List
import Mathlib.Tactic.Linarith
import Mathlib.Tactic.Positivity
import Appraisal.Proofs.Number.Field
import Appraisal.Statistics.Comparison

/-!
# Samples that can be compared

With exact numbers any two samples are compared without a fault.  Each division by zero on the way
is one of those that are told by an undefined or unbounded value: of the statistic, if a sample is
empty or no sample varies, and of the degrees of freedom, if a sample has less than two values or no
sample varies.  Exchanging the samples turns the sign of the statistic and changes nothing else.
-/

namespace Appraisal.Statistics

open Arithmetic
open scoped ExactReading

section Parts

/-! ## Divisions -/

variable {K : Type} [Field K] [LinearOrder K] [ExactReading K]

theorem divide_zero (dividend : K) : divide dividend 0 = .error .divisionByZero := by
  rw [divide, same_field, zero_field, decide_eq_true rfl, if_pos rfl]

theorem divide_of_ne_zero {divisor : K} (nonzero : divisor ≠ 0) (dividend : K) :
    divide dividend divisor = .ok (dividend / divisor) := by
  have different : same divisor zero = false := by
    rw [same_field, zero_field]
    exact decide_eq_false nonzero
  rw [divide, different]
  rfl

theorem squaredError_nil (value : K) :
    squaredError ([] : List K).length value = .error .divisionByZero := by
  rw [squaredError, ofInt_field, List.length_nil, Nat.cast_zero, Int.cast_zero, divide_zero]

theorem freedomTerm_of_small {size : Nat} (small : size < 2) (value : K) :
    freedomTerm size value = .error .divisionByZero := by
  have divisor_eq : (size : Int) * size * (size - 1) = 0 := by
    obtain rfl | rfl : size = 0 ∨ size = 1 := by omega
    · rfl
    · rfl
  rw [freedomTerm, divisor_eq, ofInt_field, Int.cast_zero, divide_zero]

/-! ## Parts of a comparison -/

theorem freedomOf_eq (leftSize rightSize : Nat) (leftVariance rightVariance error : K) :
    freedomOf leftSize rightSize leftVariance rightVariance error =
      .ok (freedomTerm leftSize leftVariance >>= fun leftTerm =>
        freedomTerm rightSize rightVariance >>= fun rightTerm =>
          divide (error * error) (leftTerm + rightTerm)).toOption :=
  rfl

theorem freedomOf_comm (leftSize rightSize : Nat) (leftVariance rightVariance error : K) :
    freedomOf rightSize leftSize rightVariance leftVariance error =
      freedomOf leftSize rightSize leftVariance rightVariance error := by
  rw [freedomOf_eq, freedomOf_eq]
  cases freedomTerm leftSize leftVariance with
  | error fault => cases freedomTerm rightSize rightVariance <;> rfl
  | ok leftTerm =>
      cases freedomTerm rightSize rightVariance with
      | error fault => rfl
      | ok rightTerm => simp only [bind, Except.bind, add_comm]

theorem probabilityOf_value (value : K) :
    probabilityOf (.value value) =
      (normalBelow (magnitude value)).map fun below => some (ofInt 2 * (ofInt 1 - below)) :=
  rfl

/-- A comparison is put together from its parts. -/
theorem compare_eq_ok {left right : List K} {leftVariance rightVariance : K}
    {freedom probability : Option K} (left_varies : variance left = .ok leftVariance)
    (right_varies : variance right = .ok rightVariance)
    (freedom_eq : freedomOf left.length right.length leftVariance rightVariance
      (statisticOf left right leftVariance rightVariance).2 = .ok freedom)
    (probability_eq : probabilityOf (statisticOf left right leftVariance rightVariance).1 =
      .ok probability) :
    compare left right = .ok
      { statistic := (statisticOf left right leftVariance rightVariance).1
        freedom
        probability } := by
  rw [compare, left_varies, right_varies]
  simp only [bind, Except.bind, freedom_eq, probability_eq]

variable [IsStrictOrderedRing K]

/-! ## Variances and statistics -/

theorem exists_variance (sample : List K) : ∃ value, variance sample = .ok value ∧ 0 ≤ value := by
  let deviations := sample.map (· - mean sample)
  have squares : sumOfSquares deviations = .ok (deviations.map fun value => value * value).sum := by
    rw [sumOfSquares_of_finite fun _ => rfl, sum_field]
    rfl
  have squares_nonneg : 0 ≤ (deviations.map fun value => value * value).sum := by
    apply List.sum_nonneg
    rw [List.forall_mem_map]
    intro value _
    exact mul_self_nonneg value
  have divisor_nonneg : (0 : K) ≤ ofInt (max 1 ((sample.length : Int) - 1)) := by
    rw [ofInt_field]
    exact_mod_cast zero_le_one.trans (le_max_left _ _)
  refine ⟨_, ?_, div_nonneg squares_nonneg divisor_nonneg⟩
  rw [variance, squares]
  rfl

/-- The difference of the means has a unit: both samples have values, and some error. -/
def HasUnit (left right : List K) (leftVariance rightVariance : K) : Prop :=
  left ≠ [] ∧ right ≠ [] ∧ 0 < leftVariance / left.length + rightVariance / right.length

section Statistic

variable {left right : List K} {leftVariance rightVariance : K}

theorem squaredError_of_ne_nil (sample_ne : left ≠ []) (value : K) :
    squaredError left.length value = .ok (value / left.length) := by
  have nonzero : ((left.length : Int) : K) ≠ 0 :=
    Int.cast_ne_zero.mpr (Int.natCast_ne_zero.mpr (List.length_pos_of_ne_nil sample_ne).ne')
  rw [squaredError, ofInt_field, divide_of_ne_zero nonzero, Int.cast_natCast]

theorem statisticOf_of_hasUnit (unit : HasUnit left right leftVariance rightVariance) :
    let error := leftVariance / left.length + rightVariance / right.length
    statisticOf left right leftVariance rightVariance =
      (.value ((mean left - mean right) / Analytic.sqrt error), error) := by
  intro error
  obtain ⟨left_ne, right_ne, error_pos⟩ := unit
  have root_ne : Analytic.sqrt error ≠ 0 :=
    (ExactReading.sqrt_eq_zero_iff error_pos.le).not.mpr error_pos.ne'
  rw [statisticOf, squaredError_of_ne_nil left_ne, squaredError_of_ne_nil right_ne]
  simp only [bind, Except.bind]
  rw [divide_of_ne_zero root_ne]

theorem statisticOf_of_not_hasUnit (left_nonneg : 0 ≤ leftVariance)
    (right_nonneg : 0 ≤ rightVariance)
    (no_unit : ¬ HasUnit left right leftVariance rightVariance) :
    statisticOf left right leftVariance rightVariance = (degenerate left right, 0) := by
  by_cases left_nil : left = []
  · rw [statisticOf, left_nil, squaredError_nil, ← zero_field]
    rfl
  by_cases right_nil : right = []
  · rw [statisticOf, right_nil, squaredError_of_ne_nil left_nil, squaredError_nil, ← zero_field]
    rfl
  have error_eq : leftVariance / left.length + rightVariance / right.length = 0 := by
    apply le_antisymm
    · exact not_lt.mp fun error_pos => no_unit ⟨left_nil, right_nil, error_pos⟩
    · positivity
  have root_eq : Analytic.sqrt (0 : K) = 0 := (ExactReading.sqrt_eq_zero_iff le_rfl).mpr rfl
  rw [statisticOf, squaredError_of_ne_nil left_nil, squaredError_of_ne_nil right_nil]
  simp only [bind, Except.bind, error_eq, root_eq, divide_zero, zero_field]

/-- Means without an error to measure their difference in: it has a sign at most. -/
theorem degenerate_field (left right : List K) :
    degenerate left right =
      if mean left = mean right then .undefined
      else .unbounded (decide (mean left < mean right)) := by
  have sign : (mean left - mean right < 0) = (mean left < mean right) := propext sub_neg
  simp only [degenerate, same_field, less_field, isUndefined_field, zero_field, sign,
    decide_eq_true_eq, Bool.false_eq_true, if_false]

end Statistic

/-! ## Degrees of freedom -/

theorem exists_freedomTerm {size : Nat} (enough : 2 ≤ size) (value : K) :
    ∃ term, freedomTerm size value = .ok term ∧ 0 ≤ term ∧ (term = 0 ↔ value = 0) := by
  have size_pos : 0 < (size : Int) := by omega
  have others_pos : 0 < (size : Int) - 1 := by omega
  have divisor_pos : 0 < (((size : Int) * size * (size - 1) : Int) : K) :=
    Int.cast_pos.mpr (mul_pos (mul_pos size_pos size_pos) others_pos)
  refine ⟨_, divide_of_ne_zero divisor_pos.ne' _, ?_, ?_⟩
  · exact div_nonneg (mul_self_nonneg value) divisor_pos.le
  · rw [div_eq_zero_iff, mul_self_eq_zero]
    exact or_iff_left divisor_pos.ne'

theorem exists_freedomOf (leftSize rightSize : Nat) (leftVariance rightVariance error : K) :
    ∃ freedom, freedomOf leftSize rightSize leftVariance rightVariance error = .ok freedom ∧
      (freedom = none ↔
        leftSize < 2 ∨ rightSize < 2 ∨ leftVariance = 0 ∧ rightVariance = 0) := by
  refine ⟨_, freedomOf_eq .., ?_⟩
  by_cases left_small : leftSize < 2
  · rw [freedomTerm_of_small left_small]
    exact iff_of_true rfl (.inl left_small)
  obtain ⟨leftTerm, left_eq, left_nonneg, left_zero⟩ :=
    exists_freedomTerm (not_lt.mp left_small) leftVariance
  by_cases right_small : rightSize < 2
  · rw [left_eq, freedomTerm_of_small right_small]
    exact iff_of_true rfl (.inr (.inl right_small))
  obtain ⟨rightTerm, right_eq, right_nonneg, right_zero⟩ :=
    exists_freedomTerm (not_lt.mp right_small) rightVariance
  have level : leftTerm + rightTerm = 0 ↔ leftVariance = 0 ∧ rightVariance = 0 := by
    rw [add_eq_zero_iff_of_nonneg left_nonneg right_nonneg, left_zero, right_zero]
  simp only [left_eq, right_eq, bind, Except.bind, left_small, right_small, false_or, ← level]
  by_cases divisor_zero : leftTerm + rightTerm = 0
  · rw [divisor_zero, divide_zero]
    exact iff_of_true rfl rfl
  · rw [divide_of_ne_zero divisor_zero]
    exact iff_of_false nofun divisor_zero

/-! ## Probabilities -/

theorem exists_normalBelow {z : K} (nonneg : 0 ≤ z) : ∃ below, normalBelow z = .ok below := by
  have scaled_ne : (ofInt 1 : K) + decimal 2316419 7 * z ≠ 0 := by
    rw [ofInt_field, decimal_field]
    positivity
  have circle_pos : 0 < (ofInt 2 : K) * Analytic.pi := by
    rw [ofInt_field]
    exact mul_pos (by norm_num) ExactReading.pi_pos
  have root_ne : Analytic.sqrt ((ofInt 2 : K) * Analytic.pi) ≠ 0 :=
    (ExactReading.sqrt_eq_zero_iff circle_pos.le).not.mpr circle_pos.ne'
  rw [normalBelow, divide_of_ne_zero scaled_ne, divide_of_ne_zero root_ne]
  exact ⟨_, rfl⟩

theorem exists_probabilityOf (statistic : Statistic K) :
    ∃ probability, probabilityOf statistic = .ok probability := by
  cases statistic with
  | value value =>
      have nonneg : 0 ≤ magnitude value := by
        rw [magnitude_field]
        exact abs_nonneg value
      obtain ⟨below, below_eq⟩ := exists_normalBelow nonneg
      rw [probabilityOf_value, below_eq]
      exact ⟨_, rfl⟩
  | undefined => exact ⟨_, rfl⟩
  | unbounded negative => exact ⟨_, rfl⟩

end Parts

/-! ## Comparisons -/

/-- The same statistic with the other sign. -/
def Statistic.negated {α : Type} [Neg α] : Statistic α → Statistic α
  | .value difference => .value (-difference)
  | .undefined => .undefined
  | .unbounded negative => .unbounded !negative

/-- The comparison of the same samples in the other order. -/
def Comparison.exchanged {α : Type} [Neg α] (comparison : Comparison α) : Comparison α :=
  { comparison with statistic := comparison.statistic.negated }

section Comparisons

variable {K : Type} [Field K] [LinearOrder K] [IsStrictOrderedRing K] [ExactReading K]

theorem probabilityOf_negated (statistic : Statistic K) :
    probabilityOf statistic.negated = probabilityOf statistic := by
  cases statistic with
  | value value =>
      rw [Statistic.negated, probabilityOf_value, probabilityOf_value, magnitude_field,
        magnitude_field, abs_neg]
  | undefined => rfl
  | unbounded negative => rfl

theorem degenerate_comm (left right : List K) :
    degenerate right left = (degenerate left right).negated := by
  rw [degenerate_field, degenerate_field]
  by_cases same_means : mean left = mean right
  · rw [if_pos same_means, if_pos same_means.symm]
    rfl
  · have turned : decide (mean right < mean left) = !decide (mean left < mean right) := by
      rcases lt_or_gt_of_ne same_means with less | greater
      · rw [decide_eq_true less, decide_eq_false less.not_gt]
        rfl
      · rw [decide_eq_true greater, decide_eq_false greater.not_gt]
        rfl
    rw [if_neg same_means, if_neg (Ne.symm same_means), turned]
    rfl

theorem statisticOf_comm (left right : List K) {leftVariance rightVariance : K}
    (left_nonneg : 0 ≤ leftVariance) (right_nonneg : 0 ≤ rightVariance) :
    statisticOf right left rightVariance leftVariance =
      ((statisticOf left right leftVariance rightVariance).1.negated,
        (statisticOf left right leftVariance rightVariance).2) := by
  have exchanged : HasUnit right left rightVariance leftVariance ↔
      HasUnit left right leftVariance rightVariance := by
    rw [HasUnit, HasUnit, add_comm, and_left_comm]
  by_cases unit : HasUnit left right leftVariance rightVariance
  · rw [statisticOf_of_hasUnit unit, statisticOf_of_hasUnit (exchanged.mpr unit),
      add_comm, Statistic.negated, ← neg_div, neg_sub]
  · rw [statisticOf_of_not_hasUnit left_nonneg right_nonneg unit,
      statisticOf_of_not_hasUnit right_nonneg left_nonneg (exchanged.not.mpr unit),
      degenerate_comm]

/--
With exact numbers two samples are always compared.  The squared error of their means is never
negative.  The statistic is a value exactly if both samples have values and that error is not zero,
and then it is the difference of the means over the root of the error; otherwise it is undefined for
equal means, and else unbounded with the sign of the difference.  The degrees of freedom are
undefined exactly if a sample has less than two values or neither of them varies.  The same samples
in the other order give the statistic with the other sign, and the same degrees of freedom and
probability.
-/
theorem compare_exact (left right : List K) :
    ∃ (comparison : Comparison K) (leftVariance rightVariance : K),
      compare left right = .ok comparison ∧
      variance left = .ok leftVariance ∧ variance right = .ok rightVariance ∧
      let error := leftVariance / left.length + rightVariance / right.length
      let hasUnit := left ≠ [] ∧ right ≠ [] ∧ 0 < error
      0 ≤ error ∧
        ((∃ value, comparison.statistic = .value value) ↔ hasUnit) ∧
        (hasUnit →
          comparison.statistic = .value ((mean left - mean right) / Analytic.sqrt error)) ∧
        (¬ hasUnit →
          (mean left = mean right → comparison.statistic = .undefined) ∧
          (mean left < mean right → comparison.statistic = .unbounded true) ∧
          (mean right < mean left → comparison.statistic = .unbounded false)) ∧
        (comparison.freedom = none ↔
          left.length < 2 ∨ right.length < 2 ∨ leftVariance = 0 ∧ rightVariance = 0) ∧
        compare right left = .ok comparison.exchanged := by
  obtain ⟨leftVariance, left_varies, left_nonneg⟩ := exists_variance left
  obtain ⟨rightVariance, right_varies, right_nonneg⟩ := exists_variance right
  obtain ⟨freedom, freedom_eq, freedom_none⟩ := exists_freedomOf left.length right.length
    leftVariance rightVariance (statisticOf left right leftVariance rightVariance).2
  obtain ⟨probability, probability_eq⟩ :=
    exists_probabilityOf (statisticOf left right leftVariance rightVariance).1
  refine ⟨_, leftVariance, rightVariance,
    compare_eq_ok left_varies right_varies freedom_eq probability_eq, left_varies, right_varies, ?_⟩
  intro error hasUnit
  have valued (yes : hasUnit) : (statisticOf left right leftVariance rightVariance).1 =
      .value ((mean left - mean right) / Analytic.sqrt error) := by
    rw [statisticOf_of_hasUnit yes]
  have unvalued (no : ¬ hasUnit) : (statisticOf left right leftVariance rightVariance).1 =
      degenerate left right := by
    rw [statisticOf_of_not_hasUnit left_nonneg right_nonneg no]
  have error_nonneg : 0 ≤ error := by positivity
  refine ⟨error_nonneg, ⟨?_, fun yes => ⟨_, valued yes⟩⟩, valued, ?_, freedom_none, ?_⟩
  · rintro ⟨value, value_eq⟩
    by_contra no
    rw [unvalued no, degenerate_field] at value_eq
    split at value_eq <;> cases value_eq
  · intro no
    rw [unvalued no, degenerate_field]
    refine ⟨fun same_means => if_pos same_means, fun less => ?_, fun greater => ?_⟩
    · rw [if_neg less.ne, decide_eq_true less]
    · rw [if_neg greater.ne', decide_eq_false greater.not_gt]
  · have turned := statisticOf_comm left right left_nonneg right_nonneg
    have freedom_again : freedomOf right.length left.length rightVariance leftVariance
        (statisticOf right left rightVariance leftVariance).2 = .ok freedom := by
      rw [turned, freedomOf_comm, freedom_eq]
    have probability_again : probabilityOf (statisticOf right left rightVariance leftVariance).1 =
        .ok probability := by
      rw [turned, probabilityOf_negated, probability_eq]
    rw [compare_eq_ok right_varies left_varies freedom_again probability_again, turned]
    rfl

end Comparisons

/-- One and three against a single five, in real numbers and in both orders. -/
theorem compare_exact_of_single_value :
    variance ([1, 3] : List ℝ) = .ok 2 ∧ variance ([5] : List ℝ) = .ok 0 ∧ ∃ probability,
      compare ([1, 3] : List ℝ) [5] = .ok ⟨.value (-3), none, probability⟩ ∧
      compare ([5] : List ℝ) [1, 3] = .ok ⟨.value 3, none, probability⟩ := by
  have left_mean : mean ([1, 3] : List ℝ) = 2 := by
    rw [mean, sum_field, ofInt_field]
    norm_num
  have right_mean : mean ([5] : List ℝ) = 5 := by
    rw [mean, sum_field, ofInt_field]
    norm_num
  have left_varies : variance ([1, 3] : List ℝ) = .ok 2 := by
    rw [variance, left_mean, sumOfSquares_of_finite fun _ => rfl, sum_field]
    simp only [bind, Except.bind, List.map_cons, List.map_nil, square_field, ofInt_field]
    norm_num
  have right_varies : variance ([5] : List ℝ) = .ok 0 := by
    rw [variance, right_mean, sumOfSquares_of_finite fun _ => rfl, sum_field]
    simp only [bind, Except.bind, List.map_cons, List.map_nil, square_field, ofInt_field]
    norm_num
  refine ⟨left_varies, right_varies, ?_⟩
  obtain ⟨comparison, leftVariance, rightVariance, compared, left_eq, right_eq, _, _, valued,
    _, freedom_none, exchanged⟩ := compare_exact ([1, 3] : List ℝ) [5]
  obtain rfl := Except.ok.inj (left_varies.symm.trans left_eq)
  obtain rfl := Except.ok.inj (right_varies.symm.trans right_eq)
  have error_eq : (2 : ℝ) / ([1, 3] : List ℝ).length + 0 / ([5] : List ℝ).length = 1 := by
    norm_num
  have root_eq : Analytic.sqrt (1 : ℝ) = 1 := Real.sqrt_one
  rw [error_eq, root_eq, left_mean, right_mean] at valued
  have statistic_eq := valued ⟨List.cons_ne_nil _ _, List.cons_ne_nil _ _, one_pos⟩
  have freedom_eq := freedom_none.mpr (.inr (.inl (by decide)))
  obtain ⟨statistic, freedom, probability⟩ := comparison
  dsimp only at statistic_eq freedom_eq
  have difference : ((2 : ℝ) - 5) / 1 = -3 := by norm_num
  rw [statistic_eq, freedom_eq, difference] at compared exchanged
  refine ⟨probability, compared, ?_⟩
  rw [exchanged, Comparison.exchanged, Statistic.negated, neg_neg]

end Appraisal.Statistics
