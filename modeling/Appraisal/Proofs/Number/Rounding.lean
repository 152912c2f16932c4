import Appraisal.Proofs.Number.Exact
import Mathlib.Algebra.Order.Field.Basic
import Mathlib.Data.Rat.Floor
import Mathlib.Tactic.Linarith

/-!
# Rounding keeps order

Rounding a rational half to even moves it by at most a half, so it leaves whole numbers where they
are.  Two rationals could change their order only if they lay half-way between the same two whole
numbers, but then they are equal.  The same holds on the grid of some decimal places, and of
rounding a half upwards.
-/

namespace Appraisal

namespace Rounding

/-- Twice the distance of a quotient to the whole number it is rounded to is at most one. -/
theorem quotientHalfEven_near (numerator : Int) {denominator : Nat} (positive : 0 < denominator) :
    2 * numerator ≤ 2 * (quotientHalfEven numerator denominator * denominator) + denominator ∧
      2 * (quotientHalfEven numerator denominator * denominator) ≤ 2 * numerator + denominator := by
  have parts := Int.emod_add_mul_ediv numerator denominator
  have least := Int.emod_nonneg numerator (Int.natCast_ne_zero.mpr positive.ne')
  have below := Int.emod_lt_of_pos numerator (Int.natCast_pos.mpr positive)
  have lower_mul : numerator / denominator * denominator = denominator * (numerator / denominator) :=
    mul_comm _ _
  rw [quotientHalfEven]
  split_ifs <;> simp only [add_mul, one_mul, lower_mul] <;> omega

theorem abs_halfEven_sub_le (value : Rat) : |(halfEven value : Rat) - value| ≤ 1 / 2 := by
  have positive : (0 : Rat) < value.den := Nat.cast_pos.mpr value.pos
  obtain ⟨above, below⟩ := quotientHalfEven_near value.num value.pos
  have above_rat : 2 * (value.num : Rat) ≤ 2 * (halfEven value * value.den) + value.den := by
    exact_mod_cast above
  have below_rat : 2 * ((halfEven value : Rat) * value.den) ≤ 2 * value.num + value.den := by
    exact_mod_cast below
  rw [← Rat.mul_den_eq_num value] at above_rat below_rat
  rw [abs_le]
  constructor <;> nlinarith

theorem halfEven_intCast (value : Int) : halfEven value = value := by
  have near := abs_halfEven_sub_le value
  have near_int : |halfEven value - value| < 1 := by
    have near_rat : |((halfEven value - value : Int) : Rat)| < 1 := by
      push_cast
      linarith
    exact_mod_cast near_rat
  exact sub_eq_zero.mp (Int.abs_lt_one_iff.mp near_int)

theorem halfEven_mono {left right : Rat} (ordered : left ≤ right) :
    halfEven left ≤ halfEven right := by
  by_contra crossed
  rw [not_le] at crossed
  have apart : (halfEven right : Rat) + 1 ≤ halfEven left := by exact_mod_cast crossed
  have left_near := (abs_le.mp (abs_halfEven_sub_le left)).2
  have right_near := (abs_le.mp (abs_halfEven_sub_le right)).1
  have same : left = right := by linarith
  rw [same] at crossed
  exact lt_irrefl _ crossed

theorem toPlaces_eq (places : Nat) (value : Rat) :
    toPlaces places value = halfEven (value * 10 ^ places) / 10 ^ places := by
  rw [toPlaces, Rat.mkRat_eq_div]
  norm_cast

theorem toPlaces_mono (places : Nat) {left right : Rat} (ordered : left ≤ right) :
    toPlaces places left ≤ toPlaces places right := by
  have scaled : left * 10 ^ places ≤ right * 10 ^ places := by gcongr
  rw [toPlaces_eq, toPlaces_eq]
  gcongr
  exact_mod_cast halfEven_mono scaled

theorem toPlaces_intCast (places : Nat) (value : Int) : toPlaces places value = value := by
  have scaled : (value : Rat) * 10 ^ places = ((value * 10 ^ places : Int) : Rat) := by
    push_cast
    rfl
  rw [toPlaces_eq, scaled, halfEven_intCast]
  push_cast
  field_simp

end Rounding

namespace Arithmetic

theorem roundPlaces_rat (places : Nat) (value : Rat) :
    roundPlaces places value = Rounding.toPlaces places value :=
  rfl

theorem roundHalfUp_rat (value : Rat) : roundHalfUp value = (⌊value + 1 / 2⌋ : Rat) := by
  have half : (decimal 5 1 : Rat) = 1 / 2 := by decide +kernel
  rw [roundHalfUp, half]
  rfl

theorem roundHalfUp_mono {left right : Rat} (ordered : left ≤ right) :
    roundHalfUp left ≤ roundHalfUp right := by
  rw [roundHalfUp_rat, roundHalfUp_rat]
  gcongr

theorem roundHalfUp_intCast (value : Int) : roundHalfUp (value : Rat) = value := by
  rw [roundHalfUp_rat, Int.floor_intCast_add]
  norm_num

end Arithmetic

end Appraisal
