import Appraisal.Proofs.Number.Packing

/-!
# Differences of doubles

The difference of two finite doubles is their exact difference, rounded half to even to the digits
of a double.  The digits that are shifted out are remembered by two bits, which tell whether they
come to a half and whether they are exactly nothing or a half; that is all that rounding asks for.
Rounding up may carry into one digit too many, and the shift that takes it away loses nothing.
-/

namespace Appraisal.Double

open Float.Model
open Float.Model.UnpackedFloat

/-! ## Shifting digits out -/

/-- A mantissa stands for a number without its last places: it is the whole part of the quotient,
and the two bits say where in its unit the rest is. -/
structure Shifted (shifted : ExtendedMantissa) (number places : Nat) : Prop where
  mantissa : shifted.mantissa = number / 2 ^ places
  roundBit : shifted.roundBit = true ↔ 2 ^ places ≤ 2 * (number % 2 ^ places)
  stickyBit : shifted.stickyBit = true ↔
    number % 2 ^ places ≠ 0 ∧ 2 * (number % 2 ^ places) ≠ 2 ^ places

theorem Shifted.shiftRightOne {shifted : ExtendedMantissa} {number places : Nat}
    (stands : Shifted shifted number places) :
    Shifted shifted.shiftRightOne number (places + 1) := by
  obtain ⟨mantissa, roundBit, stickyBit⟩ := stands
  have rest_eq : number % (2 ^ places * 2) =
      number % 2 ^ places + 2 ^ places * (number / 2 ^ places % 2) := by
    rw [← pow_succ, Nat.mod_pow_succ]
  have rest_lt : number % 2 ^ places < 2 ^ places := Nat.mod_lt number (Nat.two_pow_pos places)
  have last := Nat.mod_two_eq_zero_or_one (number / 2 ^ places)
  refine ⟨?_, ?_, ?_⟩
  · rw [ExtendedMantissa.shiftRightOne, mantissa, Nat.div_div_eq_div_mul, pow_succ]
  · simp only [ExtendedMantissa.shiftRightOne, mantissa, bne_iff_ne, pow_succ, rest_eq]
    rcases last with even | odd
    · rw [even]
      omega
    · rw [odd]
      omega
  · simp only [ExtendedMantissa.shiftRightOne, Bool.or_eq_true, roundBit, stickyBit, pow_succ,
      rest_eq]
    rcases last with even | odd
    · rw [even]
      omega
    · rw [odd]
      omega

theorem shifted_shiftRight (number places : Nat) :
    Shifted (ExtendedMantissa.mk number false false >>> places) number places := by
  induction places with
  | zero =>
      change Shifted (ExtendedMantissa.mk number false false) number 0
      exact ⟨by simp, by simp [Nat.mod_one], by simp [Nat.mod_one]⟩
  | succ places induction => exact induction.shiftRightOne

/-- Rounding a shifted mantissa rounds the quotient half to even. -/
theorem Shifted.roundedMantissa_eq {shifted : ExtendedMantissa} {number places : Nat}
    (stands : Shifted shifted number places) :
    (shifted.roundedMantissa : Int) = Rounding.quotientHalfEven number (2 ^ places : Nat) := by
  obtain ⟨mantissa, roundBit, stickyBit⟩ := stands
  have whole_eq : (number : Int) / (2 ^ places : Nat) = (number / 2 ^ places : Nat) := by norm_cast
  have rest_eq : (number : Int) % (2 ^ places : Nat) = (number % 2 ^ places : Nat) := by norm_cast
  rw [Rounding.quotientHalfEven, whole_eq, rest_eq, ← mantissa]
  generalize number % 2 ^ places = rest at roundBit stickyBit ⊢
  generalize 2 ^ places = unit at roundBit stickyBit ⊢
  obtain ⟨digits, half, more⟩ := shifted
  dsimp only at roundBit stickyBit ⊢
  cases half <;> cases more <;>
    simp only [ExtendedMantissa.roundedMantissa, ExtendedMantissa.accuracy,
      Accuracy.roundToNearestEven, Bool.false_eq_true, false_iff, true_iff] at roundBit stickyBit ⊢
  all_goals split_ifs <;> omega

/-! ## Rounding to the digits of a double -/

/-- The last place of digits is the exponent that they are shifted to. -/
theorem hasLastPlace_target {mantissa : Nat} (positive : 0 < mantissa) (exponent : Int) :
    Rounding.HasLastPlace (mantissa * 2 ^ exponent)
      (Format.binary64.targetExponent (totalExponent mantissa exponent)) := by
  have target_eq : Format.binary64.targetExponent (totalExponent mantissa exponent) =
      max (mantissa.log2 + exponent - 52) (-1074) := by
    have digits : (Format.binary64.mantissaBits : Int) = 53 := rfl
    have least : Format.binary64.minExponent = -1074 := rfl
    rw [Format.targetExponent, totalExponent, digits, least]
    omega
  have size : |(mantissa * 2 ^ exponent : Rat)| = mantissa * 2 ^ exponent :=
    abs_of_pos (by positivity)
  have mantissa_lt : (mantissa : Rat) < 2 ^ (mantissa.log2 + 1) := by
    exact_mod_cast Nat.lt_log2_self
  have le_mantissa : (2 : Rat) ^ mantissa.log2 ≤ mantissa := by
    exact_mod_cast Nat.log2_self_le positive.ne'
  rw [target_eq]
  refine ⟨le_max_right _ _, ?_, ?_⟩
  · calc
      |(mantissa * 2 ^ exponent : Rat)| = mantissa * 2 ^ exponent := size
      _ < (2 ^ (mantissa.log2 + 1) * 2 ^ exponent : Rat) := by gcongr
      _ = (2 : Rat) ^ ((mantissa.log2 : Int) + 1 + exponent) := by
        rw [zpow_add₀ (by norm_num)]
        norm_cast
      _ ≤ (2 : Rat) ^ (max (mantissa.log2 + exponent - 52) (-1074) + 53) :=
        zpow_le_zpow_right₀ (by norm_num) (by omega)
  · refine (le_total (mantissa.log2 + exponent - 52) (-1074)).imp max_eq_right fun large => ?_
    rw [max_eq_left large, size, sub_add_cancel, zpow_add₀ (by norm_num), zpow_natCast]
    gcongr

theorem lastPlace_eq_target {mantissa : Nat} (positive : 0 < mantissa) (exponent : Int) :
    Rounding.lastPlace (mantissa * 2 ^ exponent) =
      Format.binary64.targetExponent (totalExponent mantissa exponent) :=
  (hasLastPlace_target positive exponent).lastPlace_eq (by positivity)

theorem shiftToTargetExponent_eq {mantissa : Nat} {exponent : Int} (positive : 0 < mantissa)
    (early : exponent ≤ Rounding.lastPlace (mantissa * 2 ^ exponent)) :
    shiftToTargetExponent .binary64 mantissa exponent .exact =
      (ExtendedMantissa.mk mantissa false false >>>
          (Rounding.lastPlace (mantissa * 2 ^ exponent) - exponent).toNat,
        Rounding.lastPlace (mantissa * 2 ^ exponent)) := by
  rw [lastPlace_eq_target positive] at early ⊢
  rw [shiftToTargetExponent, shiftToExponent]
  refine Prod.ext rfl ?_
  dsimp only
  omega

/-- The digits of a number that are left when all behind its last place were rounded away. -/
def roundedDigits (mantissa : Nat) (exponent : Int) : Nat :=
  (ExtendedMantissa.mk mantissa false false >>>
    (Rounding.lastPlace (mantissa * 2 ^ exponent) - exponent).toNat).roundedMantissa

theorem roundedDigits_mul {mantissa : Nat} {exponent : Int}
    (early : exponent ≤ Rounding.lastPlace (mantissa * 2 ^ exponent)) :
    (roundedDigits mantissa exponent * 2 ^ Rounding.lastPlace (mantissa * 2 ^ exponent) : Rat) =
      Rounding.toSignificant (mantissa * 2 ^ exponent) := by
  rw [Rounding.toSignificant, roundedDigits]
  obtain ⟨places, last_eq⟩ := Int.le.dest early
  rw [← last_eq, add_sub_cancel_left, Int.toNat_natCast]
  have quotient : (mantissa * 2 ^ exponent / 2 ^ (exponent + places) : Rat) =
      (mantissa : Int) / (2 ^ places : Nat) := by
    rw [zpow_add₀ (by norm_num), zpow_natCast]
    push_cast
    field_simp
  rw [quotient, Rounding.halfEven_div _ (Nat.two_pow_pos places),
    ← (shifted_shiftRight mantissa places).roundedMantissa_eq, Int.cast_natCast]

theorem roundedDigits_le {mantissa : Nat} {exponent : Int} (positive : 0 < mantissa)
    (early : exponent ≤ Rounding.lastPlace (mantissa * 2 ^ exponent)) :
    roundedDigits mantissa exponent ≤ 2 ^ 53 := by
  have digits := roundedDigits_mul early
  have nonzero : (mantissa * 2 ^ exponent : Rat) ≠ 0 := by positivity
  have bounded := (le_abs_self _).trans (Rounding.hasLastPlace nonzero).le_digits
  have rounded := digits.le.trans (Rounding.toSignificant_le bounded)
  exact_mod_cast le_of_mul_le_mul_right rounded (by positivity)

theorem roundedDigits_tight {mantissa : Nat} {exponent : Int} (positive : 0 < mantissa)
    (early : exponent ≤ Rounding.lastPlace (mantissa * 2 ^ exponent)) :
    Rounding.lastPlace (mantissa * 2 ^ exponent) = -1074 ∨
      2 ^ 52 ≤ roundedDigits mantissa exponent := by
  have digits := roundedDigits_mul early
  have nonzero : (mantissa * 2 ^ exponent : Rat) ≠ 0 := by positivity
  refine (Rounding.hasLastPlace nonzero).digits_le.imp_right fun bounded => ?_
  rw [abs_of_pos (by positivity)] at bounded
  have rounded := (Rounding.le_toSignificant bounded).trans digits.ge
  exact_mod_cast le_of_mul_le_mul_right rounded (by positivity)

/-! ## Carries -/

theorem shiftToTargetExponent_zero (exponent : Int) :
    (shiftToTargetExponent .binary64 0 exponent .exact).1.mantissa = 0 :=
  (shifted_shiftRight 0 _).mantissa.trans (Nat.zero_div _)

theorem shiftToTargetExponent_of_fits {digits : Nat} {exponent : Int} (fits : Fits digits exponent)
    (positive : 0 < digits) :
    shiftToTargetExponent .binary64 digits exponent .exact =
      (ExtendedMantissa.mk digits false false, exponent) := by
  have last_eq := fits.lastPlace_eq positive
  rw [shiftToTargetExponent_eq positive last_eq.ge, last_eq, sub_self]
  rfl

theorem shiftToTargetExponent_of_full {exponent : Int} (least : -1074 ≤ exponent) :
    shiftToTargetExponent .binary64 (2 ^ 53) exponent .exact =
      (ExtendedMantissa.mk (2 ^ 52) false false, exponent + 1) := by
  have fits : Fits (2 ^ 52) (exponent + 1) := ⟨by omega, by norm_num, .inr le_rfl⟩
  have value_eq : ((2 ^ 53 : Nat) * 2 ^ exponent : Rat) = (2 ^ 52 : Nat) * 2 ^ (exponent + 1) := by
    rw [zpow_add_one₀ (by norm_num)]
    push_cast
    ring
  have last_eq : Rounding.lastPlace ((2 ^ 53 : Nat) * 2 ^ exponent) = exponent + 1 := by
    rw [value_eq, fits.lastPlace_eq (by norm_num)]
  rw [shiftToTargetExponent_eq (by norm_num) (by omega), last_eq, add_sub_cancel_left]
  rfl

/-- Where rounding has carried into a digit too many, it is shifted out without a loss. -/
theorem carry {digits : Nat} {exponent : Int} (positive : 0 < digits) (bounded : digits ≤ 2 ^ 53)
    (least : -1074 ≤ exponent) (tight : exponent = -1074 ∨ 2 ^ 52 ≤ digits) :
    ∃ mantissa last, Fits mantissa last ∧ 0 < mantissa ∧
      shiftToTargetExponent .binary64 digits exponent .exact =
        (ExtendedMantissa.mk mantissa false false, last) ∧
      (mantissa * 2 ^ last : Rat) = digits * 2 ^ exponent := by
  rcases bounded.lt_or_eq with below | rfl
  · have fits : Fits digits exponent := ⟨least, below, tight⟩
    exact ⟨digits, exponent, fits, positive, shiftToTargetExponent_of_fits fits positive, rfl⟩
  · refine ⟨2 ^ 52, exponent + 1, ⟨by omega, by norm_num, .inr le_rfl⟩, by norm_num,
      shiftToTargetExponent_of_full least, ?_⟩
    rw [zpow_add_one₀ (by norm_num)]
    push_cast
    ring

/-! ## Operations -/

theorem roundWithAccuracy_eq {mantissa : Nat} {exponent : Int} (positive : 0 < mantissa)
    (early : exponent ≤ Rounding.lastPlace (mantissa * 2 ^ exponent)) (sign : Sign)
    {carried : ExtendedMantissa} {last : Int}
    (carried_eq : shiftToTargetExponent .binary64 (roundedDigits mantissa exponent)
      (Rounding.lastPlace (mantissa * 2 ^ exponent)) .exact = (carried, last)) :
    roundWithAccuracy .binary64 sign mantissa exponent .exact =
      if gone : carried.mantissa = 0 then .zero sign
      else .finite sign carried.mantissa last (Nat.pos_of_ne_zero gone) := by
  rw [roundedDigits] at carried_eq
  simp only [roundWithAccuracy, shiftToTargetExponent_eq positive early, carried_eq]

theorem apply_mul_congr {first second : Nat} {left right : Rat}
    (equal : (first * left : Rat) = second * right) (sign : Sign) :
    (sign.apply first * left : Rat) = sign.apply second * right := by
  cases sign with
  | positive => simpa [Sign.apply] using equal
  | negative => simpa [Sign.apply] using equal

theorem toSignificant_apply_mul {mantissa digits : Nat} {value unit : Rat}
    (equal : digits * unit = Rounding.toSignificant (mantissa * value)) (sign : Sign) :
    Rounding.toSignificant (sign.apply mantissa * value) = sign.apply digits * unit := by
  cases sign with
  | positive => simpa [Sign.apply] using equal.symm
  | negative => simpa [Sign.apply, Rounding.toSignificant_neg] using equal.symm

theorem place_roundWithAccuracy {mantissa : Nat} {exponent : Int} (positive : 0 < mantissa)
    (early : exponent ≤ Rounding.lastPlace (mantissa * 2 ^ exponent)) (sign : Sign) :
    place (Float.Model.pack (roundWithAccuracy .binary64 sign mantissa exponent .exact)).unpack =
      Extent.bounded (Rounding.toSignificant (sign.apply mantissa * 2 ^ exponent)) := by
  have nonzero : (mantissa * 2 ^ exponent : Rat) ≠ 0 := by positivity
  rw [toSignificant_apply_mul (roundedDigits_mul early) sign]
  rcases Nat.eq_zero_or_pos (roundedDigits mantissa exponent) with gone | left
  · have none := shiftToTargetExponent_zero (Rounding.lastPlace (mantissa * 2 ^ exponent))
    rw [← congrArg (shiftToTargetExponent .binary64 · _ _) gone] at none
    rw [roundWithAccuracy_eq positive early sign (Prod.eta _).symm, dif_pos none, unpack_pack_zero,
      gone]
    cases sign <;> simp [Sign.apply, place, Extent.bounded_zero]
  · obtain ⟨digits, last, fits, digits_pos, carried_eq, value_eq⟩ := carry left
      (roundedDigits_le positive early) (Rounding.hasLastPlace nonzero).least
      (roundedDigits_tight positive early)
    rw [roundWithAccuracy_eq positive early sign carried_eq, dif_neg digits_pos.ne',
      place_pack fits, apply_mul_congr value_eq]

/-- A number with binary places becomes the nearest double, ties to even. -/
theorem place_round {mantissa : Nat} (positive : 0 < mantissa) (exponent : Int) (sign : Sign) :
    place (Float.Model.pack (UnpackedFloat.round .binary64 sign mantissa exponent)).unpack =
      Extent.bounded (Rounding.toSignificant (sign.apply mantissa * 2 ^ exponent)) := by
  obtain ⟨shift, shift_eq⟩ : ∃ shift : Nat, shift =
      (exponent - Format.binary64.targetExponent (totalExponent mantissa exponent)).toNat :=
    ⟨_, rfl⟩
  have value_eq : ((mantissa <<< shift : Nat) * 2 ^ (exponent - shift) : Rat) =
      mantissa * 2 ^ exponent := by
    rw [Nat.shiftLeft_eq, zpow_sub₀ (by norm_num), zpow_natCast]
    push_cast
    field_simp
  have shifted_pos : 0 < mantissa <<< shift := by
    rw [Nat.shiftLeft_eq]
    positivity
  have early : exponent - shift ≤
      Rounding.lastPlace ((mantissa <<< shift : Nat) * 2 ^ (exponent - shift)) := by
    rw [value_eq, lastPlace_eq_target positive]
    omega
  have rounded := place_roundWithAccuracy shifted_pos early sign
  rw [apply_mul_congr value_eq] at rounded
  rw [UnpackedFloat.round, decreaseExponent]
  subst shift_eq
  exact rounded

/-- A whole number of binary units becomes the nearest double, ties to even. -/
theorem place_normalize (mantissa exponent : Int) (sign : Sign) :
    place (Float.Model.pack (UnpackedFloat.normalize .binary64 mantissa exponent sign)).unpack =
      Extent.bounded (Rounding.toSignificant (mantissa * 2 ^ exponent)) := by
  rw [UnpackedFloat.normalize]
  rcases lt_trichotomy mantissa 0 with below | rfl | above
  · have magnitude : Sign.negative.apply (-mantissa).toNat = mantissa := by
      rw [Int.toNat_of_nonneg (by omega), Sign.apply, neg_neg]
    have rounded := place_round (by omega : 0 < (-mantissa).toNat) exponent .negative
    rw [magnitude] at rounded
    rwa [Int.compare_eq_lt.mpr below]
  · change place (Float.Model.pack (.zero sign)).unpack = _
    rw [unpack_pack_zero, Int.cast_zero, zero_mul, Rounding.toSignificant_zero,
      Extent.bounded_zero]
    rfl
  · have magnitude : Sign.positive.apply mantissa.toNat = mantissa := by
      rw [Int.toNat_of_nonneg above.le, Sign.apply]
    have rounded := place_round (by omega : 0 < mantissa.toNat) exponent .positive
    rw [magnitude] at rounded
    rwa [Int.compare_eq_gt.mpr above]

theorem decreaseExponent_mul (sign : Sign) (mantissa : Nat) {exponent target : Int}
    (late : target ≤ exponent) :
    ((sign.apply (decreaseExponent mantissa exponent target).1 : Int) * 2 ^ target : Rat) =
      sign.apply mantissa * 2 ^ exponent := by
  refine apply_mul_congr ?_ sign
  obtain ⟨places, rfl⟩ := Int.le.dest late
  rw [decreaseExponent, add_sub_cancel_left, Int.toNat_natCast, Nat.shiftLeft_eq,
    zpow_add₀ (by norm_num), zpow_natCast]
  push_cast
  ring

/-- The difference of two finite doubles is the exact one, rounded to the digits of a double. -/
theorem ofFloat_sub {left right : Float} {first second : Rat}
    (left_placed : Extent.ofFloat left = .finite first)
    (right_placed : Extent.ofFloat right = .finite second) :
    Extent.ofFloat (left - right) = Extent.bounded (Rounding.toSignificant (first - second)) := by
  rw [ofFloat_eq_place] at left_placed right_placed ⊢
  change place (Float.Model.pack (UnpackedFloat.sub .binary64 left.toModel.unpack
    right.toModel.unpack)).unpack = _
  rcases zero_or_finite left_placed with
    ⟨sign, left_eq, rfl⟩ | ⟨sign, mantissa, exponent, positive, left_eq, rfl⟩ <;>
  rcases zero_or_finite right_placed with
    ⟨other, right_eq, rfl⟩ | ⟨other, mantissa', exponent', positive', right_eq, rfl⟩ <;>
  rw [left_eq, right_eq]
  · have zero : ∃ kept, UnpackedFloat.sub .binary64 (.zero sign) (.zero other) = .zero kept := by
      cases sign <;> cases other <;> exact ⟨_, rfl⟩
    obtain ⟨kept, kept_eq⟩ := zero
    rw [kept_eq, unpack_pack_zero, sub_self, Rounding.toSignificant_zero, Extent.bounded_zero]
    rfl
  · have opposite : (0 - other.apply mantissa' * 2 ^ exponent' : Rat) =
        (-other).apply mantissa' * 2 ^ exponent' := by
      cases other <;> simp [Sign.apply]
    have fits := (fits_of_unpack right_eq).1
    rw [opposite, fits.toSignificant_eq positive', ← place_pack fits _ positive']
    rfl
  · have fits := (fits_of_unpack left_eq).1
    rw [sub_zero, fits.toSignificant_eq positive, ← place_pack fits _ positive]
    rfl
  · -- Both are written with the exponent of the smaller digits, and their difference is rounded.
    have difference := place_normalize
      (sign.apply (decreaseExponent mantissa exponent (min exponent exponent')).1 -
        other.apply (decreaseExponent mantissa' exponent' (min exponent exponent')).1)
      (min exponent exponent') .positive
    rw [Int.cast_sub, sub_mul, decreaseExponent_mul sign mantissa (min_le_left _ _),
      decreaseExponent_mul other mantissa' (min_le_right _ _)] at difference
    exact difference

theorem place_pack_infinity (sign : Sign) :
    place (Float.Model.pack (.infinity sign)).unpack = place (.infinity sign) := by
  cases sign <;> rfl

/-- From the lower end of the line to the upper one it is infinitely far, and from an end to itself
there is no distance. -/
theorem ofFloat_sub_of_infinite {left right : Float}
    (left_placed : Extent.ofFloat left ≠ .undefined)
    (right_placed : Extent.ofFloat right ≠ .undefined)
    (infinite : Extent.ofFloat left = .above ∨ Extent.ofFloat right = .below) :
    Extent.ofFloat (left - right) =
      if Extent.ofFloat left = Extent.ofFloat right then .undefined else .above := by
  simp only [ofFloat_eq_place] at left_placed right_placed infinite ⊢
  change place (Float.Model.pack (UnpackedFloat.sub .binary64 left.toModel.unpack
    right.toModel.unpack)).unpack = _
  generalize left.toModel.unpack = first at left_placed infinite ⊢
  generalize right.toModel.unpack = second at right_placed infinite ⊢
  rcases infinite with above | below
  · obtain rfl := eq_infinity_of_place_above above
    cases second with
    | notANumber => contradiction
    | infinity sign => cases sign <;> rfl
    | _ =>
        rw [if_neg nofun]
        exact place_pack_infinity .positive
  · obtain rfl := eq_infinity_of_place_below below
    cases first with
    | notANumber => contradiction
    | infinity sign => cases sign <;> rfl
    | _ =>
        rw [if_neg nofun]
        exact place_pack_infinity .positive

/-! ## Order -/

/-- What has been reached at some distance from an origin has been reached at every greater one. -/
theorem atMost_sub_mono {origin near far : Float} {threshold : Extent}
    (started : (Extent.ofFloat origin).atMost (Extent.ofFloat near) = true)
    (ordered : (Extent.ofFloat near).atMost (Extent.ofFloat far) = true)
    (reached : threshold.atMost (Extent.ofFloat (near - origin)) = true) :
    threshold.atMost (Extent.ofFloat (far - origin)) = true := by
  obtain ⟨origin_placed, near_placed⟩ := Extent.placed_of_atMost started
  have far_placed := (Extent.placed_of_atMost ordered).2
  obtain ⟨threshold_placed, distance_placed⟩ := Extent.placed_of_atMost reached
  by_cases infinite : Extent.ofFloat far = .above ∨ Extent.ofFloat origin = .below
  · have apart : Extent.ofFloat far ≠ Extent.ofFloat origin := by
      intro far_eq
      have near_eq : Extent.ofFloat near = Extent.ofFloat origin :=
        Extent.atMost_antisymm (far_eq ▸ ordered) started
      rw [far_eq, ← near_eq, near_eq] at infinite
      rw [ofFloat_sub_of_infinite near_placed origin_placed (near_eq ▸ infinite),
        if_pos near_eq] at distance_placed
      contradiction
    rw [ofFloat_sub_of_infinite far_placed origin_placed infinite, if_neg apart]
    exact Extent.atMost_above threshold_placed
  · obtain ⟨far_not_above, origin_not_below⟩ := not_or.mp infinite
    have near_not_above : Extent.ofFloat near ≠ .above := fun near_eq =>
      far_not_above (Extent.eq_above_of_atMost (near_eq ▸ ordered))
    have near_not_below : Extent.ofFloat near ≠ .below := fun near_eq =>
      origin_not_below (Extent.eq_below_of_atMost (near_eq ▸ started))
    have origin_not_above : Extent.ofFloat origin ≠ .above := fun origin_eq =>
      near_not_above (Extent.eq_above_of_atMost (origin_eq ▸ started))
    have far_not_below : Extent.ofFloat far ≠ .below := fun far_eq =>
      near_not_below (Extent.eq_below_of_atMost (far_eq ▸ ordered))
    obtain ⟨start, origin_eq⟩ :=
      Extent.exists_finite origin_placed origin_not_below origin_not_above
    obtain ⟨first, near_eq⟩ := Extent.exists_finite near_placed near_not_below near_not_above
    obtain ⟨second, far_eq⟩ := Extent.exists_finite far_placed far_not_below far_not_above
    have values : first ≤ second := by
      rwa [near_eq, far_eq, Extent.atMost_finite] at ordered
    rw [ofFloat_sub near_eq origin_eq] at reached
    rw [ofFloat_sub far_eq origin_eq]
    exact Extent.atMost_trans reached
      (Extent.bounded_atMost (Rounding.toSignificant_mono (sub_le_sub_right values start)))

end Appraisal.Double
