import Appraisal.Proofs.Number.Rounding
import Appraisal.Proofs.Policy.Weights
import Appraisal.Proofs.Scoring.Outcome
import Mathlib.Algebra.Order.BigOperators.Group.List

/-!
# Scores stay on their scale and keep their order

With exact numbers the overall score is a weighted mean of the six scores, so it grows with each of
them and is the common score of six equal ones; both roundings and the cap keep order, and the
roundings leave whole numbers where they are.  What lies between six scores of zero and six of ten
therefore gives an outcome between zero and ten, and between zero and a hundred (`scored_mono`).
-/

namespace Appraisal

namespace Weights

/-- Weights of a mean: none is below zero, and they add up to one. -/
structure Shares (weights : PerDimension Rat) : Prop where
  zero_le : ∀ dimension, 0 ≤ weights.get dimension
  whole : weights.toList.sum = 1

theorem zero_le_base (category : Category) (dimension : Dimension) :
    0 ≤ (base category : PerDimension Rat).get dimension := by
  cases category <;> cases dimension <;> decide +kernel

theorem shares_of_under {name : String} {fields : List (String × Rat)}
    (fair : ∀ field ∈ fields, 0 ≤ field.2)
    (positive : 0 < (overwritten (base (Category.ofName name)) fields).toList.sum) :
    ∃ weights, under name fields = .ok weights ∧ Shares weights := by
  have row_zero_le (dimension : Dimension) :
      0 ≤ (overwritten (base (Category.ofName name)) fields).get dimension :=
    get_overwritten_induction (zero_le_base _ dimension) fun _ member => fair _ member
  generalize row_eq : overwritten (base (Category.ofName name)) fields = row at *
  refine ⟨row.map (· / row.toList.sum), ?_, ?_, ?_⟩
  · rw [under_eq_normalized, row_eq, normalized_of_pos positive]
  · intro dimension
    rw [PerDimension.get_map]
    exact div_nonneg (row_zero_le dimension) positive.le
  · rw [sum_divided, div_self positive.ne']

end Weights

namespace Scoring

open Arithmetic

variable {weights low high scores : PerDimension Rat} {category : Category}

/-! ## Means -/

theorem overall_rat (weights scores : PerDimension Rat) :
    overall weights scores = Rounding.toPlaces 3
      (Dimension.all.map fun dimension => scores.get dimension * weights.get dimension).sum := by
  rw [← sum_rat, ← roundPlaces_rat]
  rfl

theorem overall_mono (shares : Weights.Shares weights)
    (ordered : ∀ dimension, low.get dimension ≤ high.get dimension) :
    overall weights low ≤ overall weights high := by
  rw [overall_rat, overall_rat]
  apply Rounding.toPlaces_mono
  apply List.sum_le_sum
  intro dimension _
  exact mul_le_mul_of_nonneg_right (ordered dimension) (shares.zero_le dimension)

theorem overall_constant (shares : Weights.Shares weights) (score : Int) :
    overall weights (.ofFunction fun _ => (score : Rat)) = score := by
  have mean : (Dimension.all.map fun dimension => (score : Rat) * weights.get dimension).sum =
      score := by
    rw [List.sum_map_mul_left]
    exact (congrArg (_ * ·) shares.whole).trans (mul_one _)
  simp only [overall_rat, PerDimension.get_ofFunction, mean, Rounding.toPlaces_intCast]

/-! ## The scale of a hundred -/

theorem ofHundred_mono {left right : Rat} (ordered : left ≤ right) :
    ofHundred left ≤ ofHundred right := by
  apply roundHalfUp_mono
  exact mul_le_mul_of_nonneg_right ordered (by decide +kernel)

theorem ofHundred_intCast (score : Int) : ofHundred (score : Rat) = 10 * score := by
  have scaled : (score : Rat) * ofInt 10 = ((10 * score : Int) : Rat) := by
    push_cast
    exact mul_comm _ _
  rw [ofHundred, scaled, roundHalfUp_intCast]
  push_cast
  rfl

/-! ## The cap -/

theorem zero_le_cap {saturation cap : Rat}
    (applied : (Gates.ofCategory category).capAt saturation = some cap) : 0 ≤ cap := by
  rw [eq_of_saturationCap (capAt_eq_some applied)]
  decide +kernel

theorem afterCaps_mono (text : Rat → String) (saturation : Rat)
    (ordered : (outcome text category weights low saturation).beforeCaps ≤
      (outcome text category weights high saturation).beforeCaps) :
    (outcome text category weights low saturation).afterCaps ≤
      (outcome text category weights high saturation).afterCaps := by
  cases applied : (Gates.ofCategory category).capAt saturation with
  | none =>
      rw [(caps_of_capAt_none text weights low applied).2,
        (caps_of_capAt_none text weights high applied).2]
      exact ordered
  | some cap =>
      rw [(caps_of_capAt_some text weights low applied).2,
        (caps_of_capAt_some text weights high applied).2, cutAt_rat, cutAt_rat]
      exact min_le_min_left cap ordered

/-- A cap lowers a score, but not below zero. -/
theorem afterCaps_bounds (text : Rat → String) (saturation : Rat)
    (zero_le : 0 ≤ (outcome text category weights scores saturation).beforeCaps) :
    0 ≤ (outcome text category weights scores saturation).afterCaps ∧
      (outcome text category weights scores saturation).afterCaps ≤
        (outcome text category weights scores saturation).beforeCaps := by
  cases applied : (Gates.ofCategory category).capAt saturation with
  | none =>
      rw [(caps_of_capAt_none text weights scores applied).2]
      exact ⟨zero_le, le_rfl⟩
  | some cap =>
      rw [(caps_of_capAt_some text weights scores applied).2, cutAt_rat]
      exact ⟨le_min (zero_le_cap applied) zero_le, min_le_right _ _⟩

/-! ## Outcomes -/

/-- The numbers of an outcome lie on their scales. -/
structure OnScale (outcome : Outcome Rat) : Prop where
  overallOfTen : 0 ≤ outcome.overallOfTen ∧ outcome.overallOfTen ≤ 10
  beforeCaps : 0 ≤ outcome.beforeCaps ∧ outcome.beforeCaps ≤ 100
  afterCaps : 0 ≤ outcome.afterCaps ∧ outcome.afterCaps ≤ 100

/-- No number of an outcome is above that of another, and it has all violations of the other. -/
structure AtMost (low high : Outcome Rat) : Prop where
  overallOfTen : low.overallOfTen ≤ high.overallOfTen
  beforeCaps : low.beforeCaps ≤ high.beforeCaps
  afterCaps : low.afterCaps ≤ high.afterCaps
  violated : high.violations.map Prod.fst ⊆ low.violations.map Prod.fst

theorem outcome_mono (shares : Weights.Shares weights) (text : Rat → String) (saturation : Rat)
    (ordered : ∀ dimension, low.get dimension ≤ high.get dimension) :
    AtMost (outcome text category weights low saturation)
      (outcome text category weights high saturation) := by
  have overall_ordered := overall_mono shares ordered
  have hundred_ordered := ofHundred_mono overall_ordered
  refine ⟨overall_ordered, hundred_ordered, afterCaps_mono text saturation hundred_ordered, ?_⟩
  rw [names_violations, names_violations]
  apply List.map_subset
  rintro ⟨dimension, minimum⟩ member
  simp only [List.mem_filter, less_rat, decide_eq_true_eq] at member ⊢
  exact ⟨member.1, (ordered dimension).trans_lt member.2⟩

theorem onScale_outcome (shares : Weights.Shares weights) (text : Rat → String) (saturation : Rat)
    (range : ∀ dimension, 0 ≤ scores.get dimension ∧ scores.get dimension ≤ 10) :
    OnScale (outcome text category weights scores saturation) := by
  -- The scores lie between a row of zeros and a row of tens, whose means are known.
  have least : overall weights (.ofFunction fun _ => ((0 : Int) : Rat)) ≤ overall weights scores :=
    overall_mono shares fun dimension => by simpa using (range dimension).1
  have greatest :
      overall weights scores ≤ overall weights (.ofFunction fun _ => ((10 : Int) : Rat)) :=
    overall_mono shares fun dimension => by simpa using (range dimension).2
  rw [overall_constant shares] at least greatest
  have hundred_least := ofHundred_mono least
  have hundred_greatest := ofHundred_mono greatest
  rw [ofHundred_intCast] at hundred_least hundred_greatest
  norm_num at least greatest hundred_least hundred_greatest
  obtain ⟨capped_least, capped_le⟩ := afterCaps_bounds text saturation hundred_least
  exact ⟨⟨least, greatest⟩, ⟨hundred_least, hundred_greatest⟩, capped_least,
    capped_le.trans hundred_greatest⟩

/-- Score an idea under the values of an override. -/
def scored (text : Rat → String) (name : String) (fields : List (String × Rat))
    (scores : PerDimension Rat) (saturation : Rat) : Except Weights.Fault (Outcome Rat) :=
  (Weights.Override.ofFields .ok fields).bind
    (evaluate text (Category.ofName name) scores saturation)

theorem scored_of_under {name : String} {fields : List (String × Rat)}
    (resolved : Weights.under name fields = .ok weights) (text : Rat → String)
    (scores : PerDimension Rat) (saturation : Rat) :
    scored text name fields scores saturation =
      .ok (outcome text (Category.ofName name) weights scores saturation) := by
  rw [Weights.under, Weights.ofFields_ok] at resolved
  rw [scored, Weights.ofFields_ok]
  exact congrArg (Except.map _) resolved

/--
Under an override without negative values whose row has a positive total there is an outcome for any
scores.  It is on its scales if the scores are between zero and ten, and with no score lowered no
number of it is lowered and no violation is added.
-/
theorem scored_mono {name : String} {fields : List (String × Rat)}
    (fair : ∀ field ∈ fields, 0 ≤ field.2)
    (positive : 0 < (Weights.overwritten (Weights.base (Category.ofName name)) fields).toList.sum)
    (text : Rat → String) (saturation : Rat) :
    ∃ result : PerDimension Rat → Outcome Rat,
      (∀ scores, scored text name fields scores saturation = .ok (result scores)) ∧
      (∀ scores : PerDimension Rat,
        (∀ dimension, 0 ≤ scores.get dimension ∧ scores.get dimension ≤ 10) →
          OnScale (result scores)) ∧
      ∀ low high : PerDimension Rat, (∀ dimension, low.get dimension ≤ high.get dimension) →
        AtMost (result low) (result high) := by
  obtain ⟨weights, resolved, shares⟩ := Weights.shares_of_under fair positive
  refine ⟨fun scores => outcome text (Category.ofName name) weights scores saturation, ?_, ?_, ?_⟩
  · intro scores
    exact scored_of_under resolved text scores saturation
  · intro scores range
    exact onScale_outcome shares text saturation range
  · intro low high ordered
    exact outcome_mono shares text saturation ordered

/-- A saturated marketplace, with a weight for the problem alone, one of zero and one unknown. -/
theorem scored_mono_marketplace :
    let fields : List (String × Rat) := [("problem", 2), ("gtm", 0), ("budget", 7)]
    let low : PerDimension Rat := ⟨5 / 2, 0, 10, 1 / 3, 4, 9⟩
    let high : PerDimension Rat := ⟨7, 0, 10, 2, 19 / 2, 9⟩
    (∀ field ∈ fields, 0 ≤ field.2) ∧
      0 < (Weights.overwritten (Weights.base (Category.ofName "services-marketplace"))
        fields).toList.sum ∧
      ∃ first second,
        scored (fun _ => "") "services-marketplace" fields low 95 = .ok first ∧
        scored (fun _ => "") "services-marketplace" fields high 95 = .ok second ∧
        OnScale first ∧ OnScale second ∧ AtMost first second := by
  intro fields low high
  have fair : ∀ field ∈ fields, 0 ≤ field.2 := by decide +kernel
  have positive : 0 < (Weights.overwritten (Weights.base
      (Category.ofName "services-marketplace")) fields).toList.sum := by decide +kernel
  have low_range : ∀ dimension ∈ Dimension.all,
      0 ≤ low.get dimension ∧ low.get dimension ≤ 10 := by decide +kernel
  have high_range : ∀ dimension ∈ Dimension.all,
      0 ≤ high.get dimension ∧ high.get dimension ≤ 10 := by decide +kernel
  have ordered : ∀ dimension ∈ Dimension.all, low.get dimension ≤ high.get dimension := by
    decide +kernel
  obtain ⟨result, scored_eq, onScale, mono⟩ := scored_mono fair positive (fun _ => "") 95
  refine ⟨fair, positive, result low, result high, scored_eq low, scored_eq high, ?_, ?_, ?_⟩
  · exact onScale low fun dimension => low_range dimension dimension.mem_all
  · exact onScale high fun dimension => high_range dimension dimension.mem_all
  · exact mono low high fun dimension => ordered dimension dimension.mem_all

end Scoring

end Appraisal
