import Appraisal.Proofs.Number.Order
import Appraisal.Proofs.Number.Rounding
import Mathlib.Algebra.Order.Field.Power
import Mathlib.Data.Int.Log
import Mathlib.Order.Monotone.Odd

/-!
# Rounding to the digits of a double

A double has 53 binary digits at most, and the last of them is worth `2 ^ -1074` at least.  Rounding
a rational half to even at the last digit that a double of its size has is odd and keeps order: two
rationals of one size are rounded on one grid, and between two sizes lies a power of two, which is
on the grids of both.  What comes out beyond the largest double goes to an end of the line.
-/

namespace Appraisal

namespace Rounding

/-! ## Quotients -/

theorem quotientHalfEven_neg (numerator : Int) {denominator : Nat} (positive : 0 < denominator) :
    quotientHalfEven (-numerator) denominator = -quotientHalfEven numerator denominator := by
  have parts := Int.emod_add_mul_ediv numerator denominator
  have least := Int.emod_nonneg numerator (Int.natCast_ne_zero.mpr positive.ne')
  have below := Int.emod_lt_of_pos numerator (Int.natCast_pos.mpr positive)
  rw [quotientHalfEven, quotientHalfEven]
  generalize numerator / denominator = lower at parts ⊢
  generalize numerator % denominator = rest at parts least below ⊢
  rcases least.eq_or_lt with none | some
  · obtain ⟨lower_eq, rest_eq⟩ : -numerator / (denominator : Int) = -lower ∧
        -numerator % (denominator : Int) = 0 :=
      Int.ediv_emod_unique (by omega) |>.mpr ⟨by linarith, le_rfl, by omega⟩
    rw [lower_eq, rest_eq, ← none]
    simp [positive]
  · obtain ⟨lower_eq, rest_eq⟩ : -numerator / (denominator : Int) = -lower - 1 ∧
        -numerator % (denominator : Int) = denominator - rest :=
      Int.ediv_emod_unique (by omega) |>.mpr ⟨by linarith, by omega, by omega⟩
    simp only [lower_eq, rest_eq]
    split_ifs <;> omega

theorem quotientHalfEven_mul (numerator : Int) (denominator : Nat) {factor : Nat}
    (positive : 0 < factor) :
    quotientHalfEven (factor * numerator) (factor * denominator) =
      quotientHalfEven numerator denominator := by
  have factor_pos : (0 : Int) < factor := Int.natCast_pos.mpr positive
  have double (rest : Int) : 2 * (factor * rest) = factor * (2 * rest) := by ring
  simp only [quotientHalfEven, Int.natCast_mul, Int.mul_ediv_mul_of_pos _ _ factor_pos,
    Int.mul_emod_mul_of_pos _ _ factor_pos, double, mul_lt_mul_iff_right₀ factor_pos]

theorem halfEven_neg (value : Rat) : halfEven (-value) = -halfEven value :=
  quotientHalfEven_neg value.num value.pos

theorem halfEven_div (numerator : Int) {denominator : Nat} (positive : 0 < denominator) :
    halfEven (numerator / denominator) = quotientHalfEven numerator denominator := by
  obtain ⟨factor, numerator_eq, denominator_eq⟩ :=
    Rat.exists_eq_mul_div_num_and_eq_mul_div_den numerator (Int.natCast_ne_zero.mpr positive.ne')
  rw [Int.cast_natCast] at numerator_eq denominator_eq
  generalize (numerator / denominator : Rat) = value at numerator_eq denominator_eq ⊢
  have factor_pos : 0 < factor := by
    refine pos_of_mul_pos_left ?_ (Int.natCast_nonneg value.den)
    rw [← denominator_eq]
    exact Int.natCast_pos.mpr positive
  lift factor to Nat using factor_pos.le
  obtain rfl : denominator = factor * value.den := by exact_mod_cast denominator_eq
  rw [numerator_eq, quotientHalfEven_mul _ _ (Int.natCast_pos.mp factor_pos), halfEven]

/-! ## The last digit -/

/-- A value is rounded at the digit that is worth `2 ^ place`: that is the last of 53 digits, unless
it is the least digit that there is. -/
structure HasLastPlace (value : Rat) (place : Int) : Prop where
  least : -1074 ≤ place
  below : |value| < 2 ^ (place + 53)
  tight : place = -1074 ∨ 2 ^ (place + 52) ≤ |value|

/-- The exponent of the digit at which a value is rounded. -/
def lastPlace (value : Rat) : Int :=
  max (Int.log 2 |value| - 52) (-1074)

theorem hasLastPlace {value : Rat} (nonzero : value ≠ 0) :
    HasLastPlace value (lastPlace value) where
  least := le_max_right _ _
  below := by
    have below := Int.lt_zpow_succ_log_self (b := 2) (by norm_num) |value|
    refine below.trans_le (zpow_le_zpow_right₀ (by norm_num) ?_)
    rw [lastPlace]
    omega
  tight := by
    rw [lastPlace]
    rcases le_total (Int.log 2 |value| - 52) (-1074) with small | large
    · exact .inl (max_eq_right small)
    · rw [max_eq_left large, sub_add_cancel]
      exact .inr (Int.zpow_log_le_self (b := 2) (by norm_num) (abs_pos.mpr nonzero))

theorem HasLastPlace.le {left right : Rat} {first second : Int}
    (left_last : HasLastPlace left first) (right_last : HasLastPlace right second)
    (ordered : |left| ≤ |right|) : first ≤ second := by
  rcases left_last.tight with least | reached
  · rw [least]
    exact right_last.least
  · have between : (2 : Rat) ^ (first + 52) < 2 ^ (second + 53) :=
      (reached.trans ordered).trans_lt right_last.below
    have exponents := (zpow_lt_zpow_iff_right₀ (by norm_num : (1 : Rat) < 2)).mp between
    omega

theorem HasLastPlace.le_digits {value : Rat} {place : Int} (last : HasLastPlace value place) :
    |value| ≤ (2 ^ 53 : Int) * 2 ^ place := by
  have below := last.below.le
  rw [zpow_add₀ (by norm_num), mul_comm] at below
  exact_mod_cast below

theorem HasLastPlace.digits_le {value : Rat} {place : Int} (last : HasLastPlace value place) :
    place = -1074 ∨ (2 ^ 52 : Int) * 2 ^ place ≤ |value| := by
  refine last.tight.imp_right fun reached => ?_
  rw [zpow_add₀ (by norm_num), mul_comm] at reached
  exact_mod_cast reached

theorem HasLastPlace.lastPlace_eq {value : Rat} {place : Int} (last : HasLastPlace value place)
    (nonzero : value ≠ 0) : lastPlace value = place :=
  ((hasLastPlace nonzero).le last le_rfl).antisymm (last.le (hasLastPlace nonzero) le_rfl)

/-! ## Significant digits -/

/-- A rational rounded half to even at the last digit that a double of its size has. -/
def toSignificant (value : Rat) : Rat :=
  halfEven (value / 2 ^ lastPlace value) * 2 ^ lastPlace value

theorem toSignificant_neg (value : Rat) : toSignificant (-value) = -toSignificant value := by
  have place_eq : lastPlace (-value) = lastPlace value := by rw [lastPlace, abs_neg, lastPlace]
  rw [toSignificant, place_eq, neg_div, halfEven_neg, toSignificant]
  push_cast
  ring

/-- A value with no digits after the last one is not changed. -/
theorem toSignificant_of_digits {digits place : Int}
    (last : HasLastPlace (digits * 2 ^ place) place) (nonzero : digits * 2 ^ place ≠ (0 : Rat)) :
    toSignificant (digits * 2 ^ place) = digits * 2 ^ place := by
  have quotient : (digits * 2 ^ place / 2 ^ place : Rat) = digits :=
    mul_div_cancel_right₀ _ (by positivity)
  rw [toSignificant, last.lastPlace_eq nonzero, quotient, halfEven_intCast]

/-- What is at most a value on its own grid is rounded to at most that. -/
theorem toSignificant_le {value : Rat} {digits : Int}
    (bounded : value ≤ digits * 2 ^ lastPlace value) :
    toSignificant value ≤ digits * 2 ^ lastPlace value := by
  have positive : (0 : Rat) < 2 ^ lastPlace value := by positivity
  have rounded := halfEven_mono ((div_le_iff₀ positive).mpr bounded)
  rw [halfEven_intCast] at rounded
  rw [toSignificant]
  gcongr

/-- What is at least a value on its own grid is rounded to at least that. -/
theorem le_toSignificant {value : Rat} {digits : Int}
    (bounded : digits * 2 ^ lastPlace value ≤ value) :
    digits * 2 ^ lastPlace value ≤ toSignificant value := by
  have positive : (0 : Rat) < 2 ^ lastPlace value := by positivity
  have rounded := halfEven_mono ((le_div_iff₀ positive).mpr bounded)
  rw [halfEven_intCast] at rounded
  rw [toSignificant]
  gcongr

theorem toSignificant_mono_of_pos {left right : Rat} (positive : 0 < left)
    (ordered : left ≤ right) : toSignificant left ≤ toSignificant right := by
  have right_positive := positive.trans_le ordered
  have left_last := hasLastPlace positive.ne'
  have right_last := hasLastPlace right_positive.ne'
  have sizes : |left| ≤ |right| := abs_le_abs_of_nonneg positive.le ordered
  rcases (left_last.le right_last sizes).eq_or_lt with same | apart
  · rw [toSignificant, toSignificant, same]
    have quotients : left / 2 ^ lastPlace right ≤ right / 2 ^ lastPlace right := by gcongr
    gcongr
    exact halfEven_mono quotients
  · -- The power of two at the upper end of the left size lies on both grids.
    have left_bound : left ≤ (2 ^ 53 : Int) * 2 ^ lastPlace left :=
      (le_abs_self left).trans left_last.le_digits
    have right_bound : (2 ^ 52 : Int) * 2 ^ lastPlace right ≤ right := by
      have digits := right_last.digits_le.resolve_left (left_last.least.trans_lt apart).ne'
      rwa [abs_of_pos right_positive] at digits
    calc
      toSignificant left ≤ (2 ^ 53 : Int) * 2 ^ lastPlace left := toSignificant_le left_bound
      _ = (2 ^ 52 : Int) * 2 ^ (lastPlace left + 1) := by
        rw [zpow_add_one₀ (by norm_num)]
        push_cast
        ring
      _ ≤ (2 ^ 52 : Int) * 2 ^ lastPlace right := by
        gcongr
        · norm_num
        · exact apart
      _ ≤ toSignificant right := le_toSignificant right_bound

@[simp]
theorem toSignificant_zero : toSignificant 0 = 0 := by
  have zero : halfEven 0 = 0 := halfEven_intCast 0
  rw [toSignificant, zero_div, zero, Int.cast_zero, zero_mul]

theorem toSignificant_nonneg {value : Rat} (fair : 0 ≤ value) : 0 ≤ toSignificant value := by
  have bounded : ((0 : Int) : Rat) * 2 ^ lastPlace value ≤ value := by simpa using fair
  simpa using le_toSignificant bounded

/-- Rounding to significant digits keeps order. -/
theorem toSignificant_mono : Monotone toSignificant := by
  refine monotone_of_odd_of_monotoneOn_nonneg toSignificant_neg fun left fair right _ ordered => ?_
  rcases (Set.mem_Ici.mp fair).eq_or_lt with rfl | positive
  · rw [toSignificant_zero]
    exact toSignificant_nonneg ordered
  · exact toSignificant_mono_of_pos positive ordered

end Rounding

namespace Extent

/-- The place of a rounded value: only the ends of the line are beyond the largest double. -/
def bounded (value : Rat) : Extent :=
  if 2 ^ 1024 ≤ value then .above
  else if value ≤ -2 ^ 1024 then .below
  else .finite value

theorem bounded_of_abs_lt {value : Rat} (inside : |value| < 2 ^ 1024) :
    bounded value = .finite value := by
  obtain ⟨above, below⟩ := abs_lt.mp inside
  rw [bounded, if_neg below.not_ge, if_neg above.not_ge]

theorem bounded_of_le {value : Rat} (reached : 2 ^ 1024 ≤ value) : bounded value = .above :=
  if_pos reached

theorem bounded_of_le_neg {value : Rat} (reached : value ≤ -2 ^ 1024) : bounded value = .below := by
  have limits : (-2 ^ 1024 : Rat) < 2 ^ 1024 := neg_lt_self (by positivity)
  rw [bounded, if_neg (reached.trans_lt limits).not_ge, if_pos reached]

theorem bounded_zero : bounded 0 = .finite 0 :=
  bounded_of_abs_lt (by rw [abs_zero]; positivity)

theorem bounded_atMost {left right : Rat} (ordered : left ≤ right) :
    (bounded left).atMost (bounded right) = true := by
  rw [bounded]
  split_ifs with left_above left_below
  · rw [bounded, if_pos (left_above.trans ordered)]
    rfl
  · rw [bounded]
    split_ifs <;> rfl
  · rw [bounded]
    split_ifs with right_above right_below
    · rfl
    · exact absurd (ordered.trans right_below) left_below
    · simp [atMost, less, same, le_iff_lt_or_eq.mp ordered]

end Extent

end Appraisal
