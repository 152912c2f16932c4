import Appraisal.Number.Double
import Mathlib

/-!
# Signs and order of doubles

A double is computed by unpacking its operands and packing the result, which may round it, down to
zero or up to infinity.  Its sign survives, and so does being undefined (`sign?_unpack_pack`).  That
is enough to tell which sums are defined and which quotients are not below zero.  The order of
doubles is total among those that are defined.
-/

namespace Appraisal.Double

open Float.Model
open Float.Model.UnpackedFloat

/-! ## Packing -/

/-- The sign of an unpacked double; one that is undefined has none. -/
def sign? : UnpackedFloat → Option Sign
  | .notANumber => none
  | .infinity sign | .zero sign | .finite sign .. => some sign

theorem isNaN_eq_isNone_sign? (unpacked : UnpackedFloat) :
    unpacked.isNaN = (sign? unpacked).isNone := by
  cases unpacked <;> rfl

theorem sign?_unpack_packComponents {format : Format} (sign : Sign)
    {exponent : BitVec format.exponentBits}
    (mantissa : BitVec format.mantissaBitsWithoutImplicit) (inside : exponent ≠ -1#_) :
    sign? (UnpackedFloat.unpack format (packComponents format sign exponent mantissa)) =
      some sign := by
  rw [UnpackedFloat.unpack]
  simp only [unpackMantissa_packComponents, unpackExponent_packComponents,
    unpackSign_packComponents, Sign.ofBitVec_toBitVec, if_neg inside]
  split
  · split <;> rfl
  · rfl

/-- Packing keeps the sign of a double, and whether it is undefined. -/
theorem sign?_unpack_pack (unpacked : UnpackedFloat) :
    sign? (Float.Model.pack unpacked).unpack = sign? unpacked := by
  change sign? (UnpackedFloat.unpack .binary64 (UnpackedFloat.pack .binary64 unpacked)) = _
  cases unpacked with
  | notANumber => rfl
  | infinity sign => cases sign <;> rfl
  | zero sign => cases sign <;> rfl
  | finite sign mantissa exponent positive =>
      rw [UnpackedFloat.pack]
      dsimp only
      split
      · cases sign <;> rfl
      · rename_i small
        split
        · apply sign?_unpack_packComponents
          intro full
          have bits := congrArg BitVec.toNat full
          simp at bits small
          omega
        · exact sign?_unpack_packComponents sign _ (by decide)

theorem unpack_pack_zero (sign : Sign) : (Float.Model.pack (.zero sign)).unpack = .zero sign := by
  cases sign <;> rfl

theorem sign?_roundWithAccuracy (format : Format) (sign : Sign) (mantissa : Nat) (exponent : Int)
    (accuracy : Accuracy) :
    sign? (roundWithAccuracy format sign mantissa exponent accuracy) = some sign := by
  rw [roundWithAccuracy]
  dsimp only
  split <;> rfl

/-! ## Undefined doubles -/

theorem isNaN_packed (unpacked : UnpackedFloat) :
    (Float.ofModel (Float.Model.pack unpacked)).isNaN = (sign? unpacked).isNone := by
  rw [← sign?_unpack_pack unpacked]
  exact isNaN_eq_isNone_sign? _

theorem isSome_sign?_normalize (format : Format) (mantissa exponent : Int) (zeroSign : Sign) :
    (sign? (UnpackedFloat.normalize format mantissa exponent zeroSign)).isSome = true := by
  rw [UnpackedFloat.normalize]
  split
  · simp only [UnpackedFloat.round, sign?_roundWithAccuracy, Option.isSome_some]
  · rfl
  · simp only [UnpackedFloat.round, sign?_roundWithAccuracy, Option.isSome_some]

/-- Infinities of both signs have no sum, but one summand that is finite rules that out. -/
theorem isNaN_add {left right : Float} (defined : left.isNaN = false)
    (finite : right.isFinite = true) : (left + right).isNaN = false := by
  have packed : left + right = .ofModel (Float.Model.pack
    (UnpackedFloat.add .binary64 left.toModel.unpack right.toModel.unpack)) := rfl
  rw [packed, isNaN_packed, Option.isNone_eq_false_iff]
  change left.toModel.unpack.isNaN = false at defined
  change right.toModel.unpack.isFinite = true at finite
  generalize left.toModel.unpack = first at defined ⊢
  generalize right.toModel.unpack = second at finite ⊢
  cases second with
  | notANumber => contradiction
  | infinity sign => contradiction
  | zero sign =>
      cases first with
      | notANumber => contradiction
      | zero other => cases sign <;> cases other <;> rfl
      | _ => rfl
  | finite sign mantissa exponent positive =>
      cases first with
      | notANumber => contradiction
      | finite => exact isSome_sign?_normalize _ _ _ _
      | _ => rfl

/-! ## Order -/

theorem le_iff_unpack {left right : Float} :
    left ≤ right ↔ left.toModel.unpack.le right.toModel.unpack = true :=
  decide_eq_true_iff

theorem lt_iff_unpack {left right : Float} :
    left < right ↔ left.toModel.unpack.lt right.toModel.unpack = true :=
  decide_eq_true_iff

theorem swap_then_compare (leftExponent rightExponent : Int) (left right : Nat) :
    ((compare leftExponent rightExponent).then (compare left right)).swap =
      (compare rightExponent leftExponent).then (compare right left) := by
  rw [Ordering.swap_then, ← Std.OrientedOrd.eq_swap, ← Std.OrientedOrd.eq_swap]

/-- Compared the other way round, two doubles are in the opposite order. -/
theorem compare_swap (left right : UnpackedFloat) :
    right.compare left = (left.compare right).map Ordering.swap := by
  cases left with
  | notANumber => cases right <;> rfl
  | infinity sign =>
      cases right with
      | infinity other => cases sign <;> cases other <;> rfl
      | _ => cases sign <;> rfl
  | zero sign =>
      cases right with
      | infinity other => cases other <;> rfl
      | finite other => cases other <;> rfl
      | _ => rfl
  | finite sign =>
      cases right with
      | infinity other => cases sign <;> cases other <;> rfl
      | finite other =>
          cases sign <;> cases other <;> simp [UnpackedFloat.compare, swap_then_compare]
      | _ => cases sign <;> rfl

theorem isSome_compare {left right : UnpackedFloat} (left_defined : left.isNaN = false)
    (right_defined : right.isNaN = false) : (left.compare right).isSome = true := by
  cases left with
  | notANumber => contradiction
  | infinity sign =>
      cases right with
      | notANumber => contradiction
      | _ => cases sign <;> rfl
  | zero sign =>
      cases right with
      | notANumber => contradiction
      | infinity other => cases other <;> rfl
      | finite other => cases other <;> rfl
      | zero => rfl
  | finite sign =>
      cases right with
      | notANumber => contradiction
      | infinity other => cases sign <;> cases other <;> rfl
      | finite other => cases sign <;> cases other <;> rfl
      | zero => cases sign <;> rfl

theorem isNaN_of_lt {left right : Float} (below : left < right) :
    left.isNaN = false ∧ right.isNaN = false := by
  rw [lt_iff_unpack] at below
  change left.toModel.unpack.isNaN = false ∧ right.toModel.unpack.isNaN = false
  revert below
  cases left.toModel.unpack <;> cases right.toModel.unpack <;>
    simp [UnpackedFloat.lt, UnpackedFloat.compare, UnpackedFloat.isNaN]

theorem le_of_lt {left right : Float} (below : left < right) : left ≤ right := by
  rw [lt_iff_unpack, UnpackedFloat.lt, beq_iff_eq] at below
  rw [le_iff_unpack, UnpackedFloat.le, below]
  rfl

/-- Of two doubles that are defined, one is at most the other. -/
theorem le_of_not_lt {left right : Float} (left_defined : left.isNaN = false)
    (right_defined : right.isNaN = false) (not_below : ¬ left < right) : right ≤ left := by
  obtain ⟨order, compared⟩ :=
    Option.isSome_iff_exists.mp (isSome_compare left_defined right_defined)
  rw [lt_iff_unpack, UnpackedFloat.lt, compared] at not_below
  rw [le_iff_unpack, UnpackedFloat.le, compare_swap, compared]
  cases order with
  | lt => exact absurd rfl not_below
  | eq => rfl
  | gt => rfl

theorem le_self {value : Float} (defined : value.isNaN = false) : value ≤ value := by
  apply le_of_not_lt defined defined
  rw [lt_iff_unpack, UnpackedFloat.lt, beq_iff_eq]
  intro below
  have above := compare_swap value.toModel.unpack value.toModel.unpack
  rw [below] at above
  contradiction

/-! ## Doubles that are not below zero -/

/-- An unpacked double is above zero. -/
def IsPositive : UnpackedFloat → Prop
  | .infinity .positive | .finite .positive .. => True
  | _ => False

theorem unpack_zero : (0 : Float).toModel.unpack = .zero .positive :=
  rfl

theorem zero_lt_iff {value : Float} : 0 < value ↔ IsPositive value.toModel.unpack := by
  rw [lt_iff_unpack, unpack_zero]
  cases value.toModel.unpack with
  | infinity sign => cases sign <;> simp [UnpackedFloat.lt, UnpackedFloat.compare, IsPositive]
  | finite sign => cases sign <;> simp [UnpackedFloat.lt, UnpackedFloat.compare, IsPositive]
  | _ => simp [UnpackedFloat.lt, UnpackedFloat.compare, IsPositive]

theorem zero_le_iff {value : Float} :
    0 ≤ value ↔ (∃ sign, value.toModel.unpack = .zero sign) ∨
      sign? value.toModel.unpack = some .positive := by
  rw [le_iff_unpack, unpack_zero]
  cases value.toModel.unpack with
  | infinity sign => cases sign <;> simp [UnpackedFloat.le, UnpackedFloat.compare, sign?]
  | finite sign => cases sign <;> simp [UnpackedFloat.le, UnpackedFloat.compare, sign?]
  | _ => simp [UnpackedFloat.le, UnpackedFloat.compare, sign?]

theorem zero_div_of_positive {format : Format} {divisor : UnpackedFloat}
    (positive : IsPositive divisor) (sign : Sign) :
    UnpackedFloat.div format (.zero sign) divisor = .zero sign := by
  cases divisor with
  | infinity other => cases other <;> cases sign <;> trivial
  | finite other => cases other <;> cases sign <;> trivial
  | _ => contradiction

theorem sign?_div_of_positive {format : Format} {dividend divisor : UnpackedFloat}
    (finite : dividend.isFinite = true) (positive : IsPositive divisor) :
    sign? (UnpackedFloat.div format dividend divisor) = sign? dividend := by
  cases dividend with
  | notANumber => contradiction
  | infinity => contradiction
  | zero sign => rw [zero_div_of_positive positive]
  | finite sign =>
      cases divisor with
      | infinity other => cases other <;> cases sign <;> trivial
      | finite other =>
          rw [UnpackedFloat.div, sign?_roundWithAccuracy]
          cases other <;> cases sign <;> trivial
      | _ => contradiction

/-- A finite double that is not below zero, divided by one that is above zero, may vanish, but it
is not below zero. -/
theorem zero_le_div {dividend divisor : Float} (fair : 0 ≤ dividend)
    (finite : dividend.isFinite = true) (positive : 0 < divisor) : 0 ≤ dividend / divisor := by
  have packed : (dividend / divisor).toModel = Float.Model.pack
    (UnpackedFloat.div .binary64 dividend.toModel.unpack divisor.toModel.unpack) := rfl
  rw [zero_lt_iff] at positive
  rw [zero_le_iff] at fair ⊢
  rw [packed, sign?_unpack_pack, sign?_div_of_positive finite positive]
  refine fair.imp_left ?_
  rintro ⟨sign, zero⟩
  rw [zero, zero_div_of_positive positive, unpack_pack_zero]
  exact ⟨sign, rfl⟩

end Appraisal.Double
