import Appraisal.Number
import Appraisal.Proofs.Number.Order
import Appraisal.Proofs.Number.Packing

/-!
# Numbers that are read without a sign

A row of digits with a power of ten is read as a double of positive sign, however it is rounded, so
the double is not below zero.  Few digits are multiplied by an exact power of ten or divided by one,
all others are rounded once; the sign survives on both ways.
-/

namespace Appraisal

namespace Double

open Float.Model
open Float.Model.UnpackedFloat

theorem sign?_ofNat (format : Format) (value : Nat) :
    sign? (UnpackedFloat.ofNat format value) = some .positive := by
  cases value with
  | zero => rfl
  | succ value => exact sign?_roundWithAccuracy format .positive _ _ _

/-- The exact powers of ten are finite, and above zero. -/
theorem exists_unpack_power {power : Float}
    (listed : power ∈ Float.exactlyRepresentablePowersOfTen) :
    ∃ mantissa exponent positive,
      power.toModel.unpack = .finite .positive mantissa exponent positive := by
  have all_above : ∀ power ∈ Float.exactlyRepresentablePowersOfTen,
      power.isFinite = true ∧ 0 < power := by
    decide +kernel
  obtain ⟨finite, above⟩ := all_above power listed
  change power.toModel.unpack.isFinite = true at finite
  rw [zero_lt_iff] at above
  generalize power.toModel.unpack = unpacked at finite above ⊢
  cases unpacked with
  | finite sign mantissa exponent positive =>
      cases sign with
      | positive => exact ⟨mantissa, exponent, positive, rfl⟩
      | negative => contradiction
  | _ => contradiction

/-- A product or a quotient has positive sign if one side has it and the other is a finite double
above zero. -/
theorem sign?_scaled (format : Format) {unpacked : UnpackedFloat}
    (sign_eq : sign? unpacked = some .positive) {mantissa : Nat} (positive : 0 < mantissa)
    (exponent : Int) :
    sign? (UnpackedFloat.mul format unpacked (.finite .positive mantissa exponent positive)) =
        some .positive ∧
      sign? (UnpackedFloat.div format unpacked (.finite .positive mantissa exponent positive)) =
        some .positive := by
  cases unpacked with
  | notANumber => contradiction
  | finite =>
      obtain rfl := Option.some.inj sign_eq
      exact ⟨sign?_roundWithAccuracy format _ _ _ _, sign?_roundWithAccuracy format _ _ _ _⟩
  | _ =>
      obtain rfl := Option.some.inj sign_eq
      exact ⟨rfl, rfl⟩

theorem sign?_unpacked_ofScientific (format : Format) (digits : Nat) (exponent : Int) :
    sign? (UnpackedFloat.ofScientific format digits exponent) = some .positive := by
  rw [UnpackedFloat.ofScientific]
  -- No digits, or a power that is out of reach on either side, give a zero or an infinity outright.
  split
  · rfl
  · split
    · rfl
    · split
      · rfl
      · split
        · exact (sign?_scaled format rfl _ _).1
        · exact (sign?_scaled format rfl _ _).2

/-- Digits with a power of ten are read as a double of positive sign. -/
theorem sign?_ofScientific (digits : Nat) (below : Bool) (places : Nat) :
    sign? (Float.ofScientific digits below places).toModel.unpack = some .positive := by
  rw [Float.ofScientific]
  split
  · rename_i small
    have whole : sign? digits.toUInt64.toFloat.toModel.unpack = some .positive :=
      (sign?_unpack_pack _).trans (sign?_ofNat _ _)
    have bounded : places < Float.exactlyRepresentablePowersOfTen.size :=
      Nat.lt_of_le_of_lt small.2 (by decide)
    obtain ⟨mantissa, exponent, positive, power_eq⟩ :=
      exists_unpack_power (Array.getElem_mem bounded)
    have scaled := sign?_scaled .binary64 whole positive exponent
    rw [← power_eq] at scaled
    dsimp only
    split
    · exact (sign?_unpack_pack _).trans scaled.2
    · exact (sign?_unpack_pack _).trans scaled.1
  · exact (sign?_unpack_pack _).trans (sign?_unpacked_ofScientific _ _ _)

/-- A double of positive sign is not below zero. -/
theorem zero_atMost_place {unpacked : UnpackedFloat} (sign_eq : sign? unpacked = some .positive) :
    (Extent.finite 0).atMost (place unpacked) = true := by
  cases unpacked with
  | notANumber => contradiction
  | infinity sign =>
      obtain rfl := Option.some.inj sign_eq
      rfl
  | zero sign => rfl
  | finite sign mantissa exponent positive =>
      obtain rfl := Option.some.inj sign_eq
      rw [place, Extent.atMost_finite]
      exact mul_nonneg (Int.cast_nonneg (Int.natCast_nonneg mantissa)) (by positivity)

end Double

/-- Digits with a power of ten are read as a number that is not below zero. -/
theorem Number.zero_atMost_ofScientific (digits : Nat) (below : Bool) (places : Nat) :
    (0 : Number).atMost (.double (Float.ofScientific digits below places)) = true := by
  change (Extent.finite 0).atMost (Extent.ofFloat _) = true
  rw [Double.ofFloat_eq_place]
  exact Double.zero_atMost_place (Double.sign?_ofScientific digits below places)

end Appraisal
