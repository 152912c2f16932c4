import Appraisal.Proofs.Number.Undefined
import Appraisal.Proofs.Scoring.Outcome
import Appraisal.Proofs.Verdict.Worst

/-!
# Incomplete scores

One score that is missing or undefined makes the overall score undefined, and no weight, rounding or
cap gives it a value again.  An undefined score calls for a review, so the verdict on such an outcome
is a review, or no go if a gate fails (`status_of_unscored`).
-/

namespace Appraisal

namespace Scoring

open Arithmetic

/-- A dimension has no score, or an undefined one. -/
inductive Unscored (named : List (String × Datum)) (dimension : Dimension) : Prop
  | missing (absent : Datum.lookup dimension.name named = none)
  | undefined {score : Float} (found : Datum.lookup dimension.name named = some (.double score))
      (undefined : score.isNaN = true)

theorem isNaN_score_of_unscored {named : List (String × Datum)} {dimension : Dimension}
    {score : Float} (unscored : Unscored named dimension)
    (read : scoreOf named dimension = .ok score) : score.isNaN = true := by
  rw [scoreOf] at read
  cases unscored with
  | missing absent =>
      rw [absent] at read
      cases read
      decide +kernel
  | undefined found undefined =>
      rw [found] at read
      cases read
      exact undefined

/-- The weight of an undefined score does not matter, not even if it is zero. -/
theorem isNaN_overall {scores : PerDimension Float} {dimension : Dimension}
    (undefined : (scores.get dimension).isNaN = true) (weights : PerDimension Float) :
    (overall weights scores).isNaN = true := by
  have summand : scores.get dimension * weights.get dimension ∈
      Dimension.all.map fun other => scores.get other * weights.get other :=
    List.mem_map.mpr ⟨dimension, Dimension.mem_all dimension, rfl⟩
  have raw := isNaN_sum summand (Double.isNaN_mul_of_isNaN (.inl undefined))
  rw [overall, if_neg (not_isFinite_of_isNaN raw)]
  exact raw

theorem isNaN_ofHundred {score : Float} (undefined : score.isNaN = true) :
    (ofHundred score).isNaN = true :=
  isNaN_roundHalfUp (Double.isNaN_mul_of_isNaN (.inl undefined))

end Scoring

namespace Verdict

/-- An undefined score calls for a review. -/
theorem ofScore_of_isNaN {score : Float} (undefined : score.isNaN = true)
    (goMinimum reviewMinimum : Number) :
    Status.ofScore (.double score) goMinimum reviewMinimum = .review := by
  rw [Status.ofScore, if_pos (Number.extent_of_isNaN undefined)]

/-- A verdict on an undefined score is a review, unless a gate fails. -/
theorem status_of_isNaN {outcome : Outcome Float} (undefined : outcome.afterCaps.isNaN = true)
    (thresholds : Thresholds) (actions : List Action) (rulesTotal : Int) (flags : List String) :
    let status := (decide thresholds outcome actions rulesTotal flags).status
    (status = .review ∨ status = .noGo) ∧
      (status = .noGo ↔ ∃ target reason, Action.gate target .fail reason ∈ actions) := by
  intro status
  have worst : Status.IsWorst (CalledFor thresholds outcome actions) status :=
    isWorst_status_decide thresholds outcome actions rulesTotal flags
  have scored := ofScore_of_isNaN undefined thresholds.go thresholds.review
  have review_called : CalledFor thresholds outcome actions .review := scored ▸ .score
  have at_least_review := worst.rank_le _ review_called
  have either : status = .review ∨ status = .noGo := by
    cases status_eq : status with
    | go =>
        rw [status_eq] at at_least_review
        contradiction
    | review => exact .inl rfl
    | noGo => exact .inr rfl
  refine ⟨either, ?_, ?_⟩
  · intro failed
    -- The score calls for a review, so only a gate can have called for no go.
    have called := worst.mem
    rw [failed, calledFor_iff, scored, Action.any_isFailure_iff] at called
    simpa using called
  · rintro ⟨target, reason, member⟩
    have bound := worst.rank_le _ (.failure member)
    rcases either with review | failed
    · rw [review] at bound
      contradiction
    · exact failed

/--
If weights are given for a category, every score that there is can be weighed, and the saturation can
be compared where the category has a cap, then the idea is scored.  If one of the six scores is
missing or undefined, the scores of the outcome are undefined, also under a cap and whatever the
weights are.  A verdict on it is never a go: it is no go exactly if a gate fails, and else a review.
-/
theorem status_of_unscored {category : Category} {named : List (String × Datum)}
    {saturation : Datum} {override : Weights.Override Float} {weights : PerDimension Float}
    {dimension : Dimension} (resolved : Weights.resolve category override = .ok weights)
    (weighable : Scoring.Weighable named)
    (comparable : Gates.isCrowded category = true → ∃ value, saturation.toSide? = some value)
    (unscored : Scoring.Unscored named dimension) :
    ∃ outcome, Scoring.evaluateData category named saturation override = .ok outcome ∧
      outcome.overallOfTen.isNaN = true ∧ outcome.beforeCaps.isNaN = true ∧
      outcome.afterCaps.isNaN = true ∧
      ∀ thresholds actions rulesTotal flags,
        let status := (decide thresholds outcome actions rulesTotal flags).status
        (status = .review ∨ status = .noGo) ∧
          (status = .noGo ↔ ∃ target reason, Action.gate target .fail reason ∈ actions) := by
  obtain ⟨scores, scores_read⟩ := Scoring.exists_scoresOf_iff.mpr weighable
  obtain ⟨value, saturation_read⟩ := Scoring.exists_saturationOf_iff.mpr comparable
  have score_undefined := Scoring.isNaN_score_of_unscored unscored
    (Scoring.scoresOf_eq_ok_iff.mp scores_read dimension)
  have overall_undefined := Scoring.isNaN_overall score_undefined weights
  have before_undefined := Scoring.isNaN_ofHundred overall_undefined
  have after_undefined : (Scoring.outcome Double.brief category weights scores value).afterCaps.isNaN
      = true := by
    rw [(Scoring.explains_outcome scores_read saturation_read Double.brief weights).isNaN_eq]
    exact before_undefined
  exact ⟨_, Scoring.evaluateData_eq_ok_iff.mpr
      ⟨weights, scores, value, resolved, scores_read, saturation_read, rfl⟩,
    overall_undefined, before_undefined, after_undefined, status_of_isNaN after_undefined⟩

/-- Demand is missing and has no weight, the market is full, and a gate asks for a review. -/
theorem status_of_missing_demand :
    let named : List (String × Datum) := [("problem", .double 9), ("underserved", .double 9),
      ("differentiation", .double 9), ("economics", .double 9), ("gtm", .double 9)]
    let override : Weights.Override Float := some [(.demand, 0)]
    ∃ weights outcome, Weights.resolve .pmSoftware override = .ok weights ∧
      weights.get .demand = 0 ∧ Scoring.Weighable named ∧
      (Gates.isCrowded .pmSoftware = true → ∃ value, (Datum.double 95).toSide? = some value) ∧
      Scoring.Unscored named .demand ∧
      Scoring.evaluateData .pmSoftware named (.double 95) override = .ok outcome ∧
      outcome.caps ≠ [] ∧ outcome.afterCaps.isNaN = true ∧
      (decide {} outcome [.gate .overall .review none] 1 []).status = .review := by
  intro named override
  have passed : (Weights.resolve .pmSoftware override).toOption.any
      (fun weights => weights.get .demand = 0) = true := by decide +kernel
  obtain ⟨weights, resolved, weightless⟩ := exists_of_any_toOption passed
  have weighable : Scoring.Weighable named := by
    intro dimension datum found
    obtain ⟨score, rfl⟩ : ∃ score, datum = .double score := by
      cases dimension <;> cases found <;> exact ⟨_, rfl⟩
    exact ⟨score, rfl⟩
  have comparable : Gates.isCrowded .pmSoftware = true →
      ∃ value, (Datum.double 95).toSide? = some value := fun _ => ⟨95, rfl⟩
  have unscored : Scoring.Unscored named .demand := .missing rfl
  obtain ⟨outcome, evaluated, _, _, undefined, verdict⟩ :=
    status_of_unscored resolved weighable comparable unscored
  have capped : outcome.caps ≠ [] := by
    obtain ⟨_, scores, value, _, _, saturation_read, rfl⟩ :=
      Scoring.evaluateData_eq_ok_iff.mp evaluated
    cases saturation_read
    exact (Scoring.caps_ne_nil_iff _ _ _).mpr (by decide +kernel)
  obtain ⟨either, failed_iff⟩ := verdict {} [.gate .overall .review none] 1 []
  have review := either.resolve_right (mt failed_iff.mp (by simp))
  exact ⟨weights, outcome, resolved, of_decide_eq_true weightless, weighable, comparable, unscored,
    evaluated, capped, undefined, review⟩

end Verdict

end Appraisal
