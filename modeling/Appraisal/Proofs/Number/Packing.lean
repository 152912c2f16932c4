import Appraisal.Number.Double
import Appraisal.Proofs.Number.Significant
import Appraisal.Proofs.Number.Signs

/-!
# The places of packed doubles

A double is kept as a sign, at most 53 binary digits and the exponent of the last of them.  Packing
keeps the place of digits that fit, unless they lie beyond the largest double, and every finite
double consists of digits that fit.
-/

namespace Appraisal.Double

open Float.Model
open Float.Model.UnpackedFloat

/-! ## Places -/

/-- The place of an unpacked double. -/
def place : UnpackedFloat → Extent
  | .notANumber => .undefined
  | .infinity .negative => .below
  | .infinity .positive => .above
  | .zero _ => .finite 0
  | .finite sign mantissa exponent _ => .finite (sign.apply mantissa * 2 ^ exponent)

theorem ofFloat_eq_place (value : Float) : Extent.ofFloat value = place value.toModel.unpack := by
  rw [Extent.ofFloat]
  generalize value.toModel.unpack = unpacked
  cases unpacked with
  | notANumber => rfl
  | zero => rfl
  | infinity sign => cases sign <;> rfl
  | finite sign mantissa exponent positive =>
      dsimp only [place]
      split
      · rename_i fair
        lift exponent to Nat using fair
        cases sign <;> simp [Sign.apply]
      · rename_i below
        obtain ⟨places, rfl⟩ : ∃ places : Nat, exponent = -places :=
          ⟨exponent.natAbs, by omega⟩
        rw [Rat.mkRat_eq_div]
        simp [div_eq_mul_inv]

/-- A double with a place inside the line is a zero or has digits. -/
theorem zero_or_finite {unpacked : UnpackedFloat} {value : Rat}
    (placed : place unpacked = .finite value) :
    (∃ sign, unpacked = .zero sign ∧ value = 0) ∨
      ∃ sign mantissa exponent positive, unpacked = .finite sign mantissa exponent positive ∧
        value = sign.apply mantissa * 2 ^ exponent := by
  cases unpacked with
  | notANumber => contradiction
  | infinity sign => cases sign <;> contradiction
  | zero sign => exact .inl ⟨sign, rfl, (Extent.finite.inj placed).symm⟩
  | finite sign mantissa exponent positive =>
      exact .inr ⟨sign, mantissa, exponent, positive, rfl, (Extent.finite.inj placed).symm⟩

theorem eq_infinity_of_place_above {unpacked : UnpackedFloat} (placed : place unpacked = .above) :
    unpacked = .infinity .positive := by
  cases unpacked with
  | infinity sign => cases sign <;> trivial
  | _ => contradiction

theorem eq_infinity_of_place_below {unpacked : UnpackedFloat} (placed : place unpacked = .below) :
    unpacked = .infinity .negative := by
  cases unpacked with
  | infinity sign => cases sign <;> trivial
  | _ => contradiction

/-! ## Digits that fit -/

/-- Digits that fit into a double, as far as their number goes: there are at most 53, and fewer only
where the last of them is worth as little as it can. -/
structure Fits (mantissa : Nat) (exponent : Int) : Prop where
  least : -1074 ≤ exponent
  below : mantissa < 2 ^ 53
  tight : exponent = -1074 ∨ 2 ^ 52 ≤ mantissa

theorem abs_apply_mul (sign : Sign) (mantissa : Nat) (exponent : Int) :
    |(sign.apply mantissa * 2 ^ exponent : Rat)| = mantissa * 2 ^ exponent := by
  have digits : |(sign.apply mantissa : Rat)| = mantissa := by cases sign <;> simp [Sign.apply]
  rw [abs_mul, digits, abs_of_pos (by positivity)]

theorem apply_mul_ne_zero {mantissa : Nat} (positive : 0 < mantissa) (exponent : Int)
    (sign : Sign) : (sign.apply mantissa * 2 ^ exponent : Rat) ≠ 0 := by
  rw [← abs_pos, abs_apply_mul]
  positivity

/-- Digits that fit end at the place at which they would be rounded. -/
theorem Fits.hasLastPlace {mantissa : Nat} {exponent : Int} (fits : Fits mantissa exponent)
    (sign : Sign) : Rounding.HasLastPlace (sign.apply mantissa * 2 ^ exponent) exponent where
  least := fits.least
  below := by
    have below : (mantissa : Rat) < 2 ^ (53 : Int) := by exact_mod_cast fits.below
    rw [abs_apply_mul, zpow_add₀ (by norm_num), mul_comm]
    gcongr
  tight := by
    refine fits.tight.imp_right fun reached => ?_
    have reached : (2 : Rat) ^ (52 : Int) ≤ mantissa := by exact_mod_cast reached
    rw [abs_apply_mul, zpow_add₀ (by norm_num), mul_comm]
    gcongr

/-- Digits that fit are not changed by rounding. -/
theorem Fits.toSignificant_eq {mantissa : Nat} {exponent : Int} (fits : Fits mantissa exponent)
    (positive : 0 < mantissa) (sign : Sign) :
    Rounding.toSignificant (sign.apply mantissa * 2 ^ exponent) =
      sign.apply mantissa * 2 ^ exponent :=
  Rounding.toSignificant_of_digits (fits.hasLastPlace sign)
    (apply_mul_ne_zero positive exponent sign)

theorem Fits.lastPlace_eq {mantissa : Nat} {exponent : Int} (fits : Fits mantissa exponent)
    (positive : 0 < mantissa) : Rounding.lastPlace (mantissa * 2 ^ exponent) = exponent := by
  simpa [Sign.apply] using
    (fits.hasLastPlace .positive).lastPlace_eq (apply_mul_ne_zero positive exponent .positive)

/-- Digits that fit are not beyond the largest double, unless their exponent is. -/
theorem abs_lt_of_fits {mantissa : Nat} {exponent : Int} (fits : Fits mantissa exponent)
    (inside : exponent ≤ 971) (sign : Sign) :
    |(sign.apply mantissa * 2 ^ exponent : Rat)| < 2 ^ 1024 := by
  refine (fits.hasLastPlace sign).below.trans_le ?_
  rw [← zpow_natCast]
  exact zpow_le_zpow_right₀ (by norm_num) (by push_cast; omega)

/-- The first of 53 digits is not kept, since it is always one. -/
theorem toNat_implicit (digits : BitVec 52) : (1#1 ++ digits).toNat = 2 ^ 52 + digits.toNat := by
  rw [BitVec.toNat_append, ← Nat.shiftLeft_add_eq_or_of_lt digits.isLt, Nat.shiftLeft_eq]
  rfl

/-- Finite doubles consist of digits that fit, none of them beyond the largest one. -/
theorem fits_of_unpack {value : Float} {sign : Sign} {mantissa : Nat} {exponent : Int}
    {positive : 0 < mantissa}
    (unpacked : value.toModel.unpack = .finite sign mantissa exponent positive) :
    Fits mantissa exponent ∧ exponent ≤ 971 := by
  change UnpackedFloat.unpack .binary64 value.toModel.toBits.toBitVec = _ at unpacked
  generalize value.toModel.toBits.toBitVec = bits at unpacked
  have digits_lt : (@unpackMantissa .binary64 bits).toNat < 2 ^ 52 := BitVec.isLt _
  have places_lt : (@unpackExponent .binary64 bits).toNat < 2 ^ 11 := BitVec.isLt _
  have bias : (Format.binary64.exponentBias : Int) +
      Format.binary64.mantissaBitsWithoutImplicit = 1075 := rfl
  rw [UnpackedFloat.unpack] at unpacked
  dsimp only at unpacked
  split at unpacked
  · split at unpacked <;> contradiction
  · rename_i finite
    rw [bias] at unpacked
    split at unpacked
    · rename_i least
      split at unpacked
      · contradiction
      · simp only [UnpackedFloat.finite.injEq] at unpacked
        obtain ⟨_, rfl, rfl⟩ := unpacked
        rw [least]
        exact ⟨⟨by decide, by omega, .inl rfl⟩, by decide⟩
    · rename_i normal
      simp only [UnpackedFloat.finite.injEq, toNat_implicit] at unpacked
      obtain ⟨_, rfl, rfl⟩ := unpacked
      have lower : (@unpackExponent .binary64 bits).toNat ≠ 0 := by
        intro none
        exact normal (BitVec.eq_of_toNat_eq none)
      have upper : (@unpackExponent .binary64 bits).toNat ≠ 2047 := by
        intro full
        exact finite (BitVec.eq_of_toNat_eq full)
      exact ⟨⟨by omega, by omega, .inr (by omega)⟩, by omega⟩

/-! ## Packing -/

/-- An exponent is kept with 1075 added to it, where 53 digits follow. -/
theorem unpack_normal (sign : Sign) {places : Nat} (lower : 0 < places) (upper : places < 2047)
    (digits : BitVec 52) :
    UnpackedFloat.unpack .binary64 (packComponents .binary64 sign (BitVec.ofNat 11 places) digits) =
      .finite sign (2 ^ 52 + digits.toNat) (places - 1075) (by omega) := by
  have places_eq : (BitVec.ofNat 11 places).toNat = places := by
    rw [BitVec.toNat_ofNat, Nat.mod_eq_of_lt (by omega)]
  have not_full : BitVec.ofNat 11 places ≠ -1#11 := by
    intro full
    rw [full] at places_eq
    have full_eq : (-1#11).toNat = 2047 := rfl
    omega
  have not_least : BitVec.ofNat 11 places ≠ 0#11 := by
    intro least
    rw [least] at places_eq
    have least_eq : (0#11).toNat = 0 := rfl
    omega
  rw [UnpackedFloat.unpack]
  simp only [unpackMantissa_packComponents, unpackExponent_packComponents,
    unpackSign_packComponents, Sign.ofBitVec_toBitVec, if_neg not_full, if_neg not_least,
    toNat_implicit, places_eq]
  rfl

/-- Fewer digits than 53 are kept with an exponent of zero, which stands for the least one. -/
theorem unpack_least (sign : Sign) {digits : BitVec 52} (positive : 0 < digits.toNat) :
    UnpackedFloat.unpack .binary64 (packComponents .binary64 sign 0#11 digits) =
      .finite sign digits.toNat (-1074) positive := by
  have nonzero : digits ≠ 0#52 := by
    rintro rfl
    contradiction
  rw [UnpackedFloat.unpack]
  simp only [unpackMantissa_packComponents, unpackExponent_packComponents,
    unpackSign_packComponents, Sign.ofBitVec_toBitVec, dif_neg nonzero]
  rfl

theorem pack_finite {mantissa : Nat} {exponent : Int} (least : -1074 ≤ exponent) (sign : Sign)
    (positive : 0 < mantissa) :
    UnpackedFloat.pack .binary64 (.finite sign mantissa exponent positive) =
      if 972 ≤ exponent then packedInfinity .binary64 sign
      else if mantissa.log2 = 52 then
        packComponents .binary64 sign (BitVec.ofNat 11 (exponent + 1075).toNat)
          (BitVec.ofNat 52 mantissa)
      else packComponents .binary64 sign 0#11 (BitVec.ofNat 52 mantissa) := by
  have places_eq : exponent + (Format.binary64.exponentBias : Int) +
      Format.binary64.mantissaBitsWithoutImplicit = exponent + 1075 := by
    rw [add_assoc]
    rfl
  have overflow :
      2 ^ Format.binary64.exponentBits ≤ (exponent + 1075).toNat + 1 ↔ 972 ≤ exponent := by
    have capacity : 2 ^ Format.binary64.exponentBits = 2048 := rfl
    omega
  have normal : mantissa.log2 + 1 = Format.binary64.mantissaBits ↔ mantissa.log2 = 52 := by
    have bits : Format.binary64.mantissaBits = 53 := rfl
    omega
  rw [UnpackedFloat.pack]
  simp only [places_eq, overflow, normal]

theorem unpack_pack_finite {mantissa : Nat} {exponent : Int} (fits : Fits mantissa exponent)
    (inside : exponent ≤ 971) (sign : Sign) (positive : 0 < mantissa) :
    (Float.Model.pack (.finite sign mantissa exponent positive)).unpack =
      .finite sign mantissa exponent positive := by
  obtain ⟨least, below, tight⟩ := fits
  change UnpackedFloat.unpack .binary64 (UnpackedFloat.pack .binary64 _) = _
  rw [pack_finite least, if_neg (by omega)]
  by_cases normal : 2 ^ 52 ≤ mantissa
  · have digits_eq : (BitVec.ofNat 52 mantissa).toNat = mantissa - 2 ^ 52 := by
      rw [BitVec.toNat_ofNat]
      omega
    rw [if_pos ((Nat.log2_eq_iff positive.ne').mpr ⟨normal, below⟩),
      unpack_normal sign (by omega) (by omega)]
    congr 1
    · omega
    · omega
  · have digits_eq : (BitVec.ofNat 52 mantissa).toNat = mantissa := by
      rw [BitVec.toNat_ofNat]
      omega
    obtain rfl := tight.resolve_right normal
    have short : mantissa.log2 ≠ 52 :=
      fun long => normal ((Nat.log2_eq_iff positive.ne').mp long).1
    rw [if_neg short, unpack_least sign (by omega)]
    congr 1

theorem unpack_pack_overflow {mantissa : Nat} {exponent : Int} (overflow : 972 ≤ exponent)
    (sign : Sign) (positive : 0 < mantissa) :
    (Float.Model.pack (.finite sign mantissa exponent positive)).unpack = .infinity sign := by
  change UnpackedFloat.unpack .binary64 (UnpackedFloat.pack .binary64 _) = _
  rw [pack_finite (by omega), if_pos overflow]
  cases sign <;> rfl

theorem bounded_of_overflow {mantissa : Nat} {exponent : Int} (fits : Fits mantissa exponent)
    (overflow : 972 ≤ exponent) (sign : Sign) :
    Extent.bounded (sign.apply mantissa * 2 ^ exponent) = place (.infinity sign) := by
  have digits : (2 : Rat) ^ 52 ≤ mantissa := by
    exact_mod_cast fits.tight.resolve_left (by omega)
  have reached : (2 : Rat) ^ 1024 ≤ mantissa * 2 ^ exponent := by
    calc
      (2 : Rat) ^ 1024 = 2 ^ 52 * 2 ^ (972 : Int) := by
        rw [← zpow_natCast, ← zpow_natCast, ← zpow_add₀ (by norm_num)]
        rfl
      _ ≤ (mantissa * 2 ^ exponent : Rat) := by
        gcongr
        norm_num
  cases sign with
  | positive => exact Extent.bounded_of_le (by simpa [Sign.apply] using reached)
  | negative => exact Extent.bounded_of_le_neg (by simpa [Sign.apply] using reached)

/-- Packing keeps the place of digits that fit, unless it is beyond the largest double. -/
theorem place_pack {mantissa : Nat} {exponent : Int} (fits : Fits mantissa exponent) (sign : Sign)
    (positive : 0 < mantissa) :
    place (Float.Model.pack (.finite sign mantissa exponent positive)).unpack =
      Extent.bounded (sign.apply mantissa * 2 ^ exponent) := by
  by_cases inside : exponent ≤ 971
  · rw [unpack_pack_finite fits inside sign positive,
      Extent.bounded_of_abs_lt (abs_lt_of_fits fits inside sign)]
    rfl
  · have overflow : 972 ≤ exponent := by omega
    rw [unpack_pack_overflow overflow sign positive, bounded_of_overflow fits overflow sign]

end Appraisal.Double
