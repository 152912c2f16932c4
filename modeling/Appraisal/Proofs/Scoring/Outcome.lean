import Appraisal.Proofs.Fallible
import Appraisal.Proofs.Number.Signs
import Appraisal.Proofs.Policy.Override
import Appraisal.Scoring.Outcome

/-!
# What an outcome says

A dimension is named as violated exactly if it has a score below its minimum; a missing or undefined
score is below nothing.  A cap applies exactly if the category has one and the market is saturated,
and then the smaller of the score and the cap is given, or the score if it is undefined
(`Explains`).  Nothing else has a part in this: not the weights in the violations, not the saturation
in the score before the caps, and not the data under other names (`evaluateData_explains`).
-/

namespace Appraisal

namespace Dimension

theorem name_injective {one other : Dimension} (same : one.name = other.name) : one = other := by
  have found := ofName?_name one
  rw [same, ofName?_name other] at found
  exact (Option.some.inj found).symm

end Dimension

namespace Gates

/-- A dimension has at most one minimum. -/
theorem eq_of_mem_minimums {α : Type} {gates : Gates α} {dimension : Dimension} {one other : α}
    (first : (dimension, one) ∈ gates.minimums) (second : (dimension, other) ∈ gates.minimums) :
    one = other := by
  simp only [minimums, List.mem_cons, Prod.mk.injEq, List.not_mem_nil, or_false] at first second
  rcases first with ⟨rfl, rfl⟩ | ⟨rfl, rfl⟩ | ⟨rfl, rfl⟩ <;> simpa [eq_comm] using second

end Gates

namespace Scoring

open Arithmetic

/-! ## Violations -/

section Violations

variable {α : Type} [Arithmetic α] (text : α → String) (category : Category)
  (weights scores : PerDimension α) (saturation : α)

/-- The violated gates are the minimums that a score is below, in their order. -/
theorem names_violations :
    (outcome text category weights scores saturation).violations.map Prod.fst =
      ((Gates.ofCategory category : Gates α).minimums.filter fun (dimension, minimum) =>
        less (scores.get dimension) minimum).map fun (dimension, _) => dimension.name := by
  rw [outcome, List.map_map, violated]
  generalize (Gates.ofCategory category : Gates α).minimums = minimums
  induction minimums with
  | nil => rfl
  | cons entry minimums induction =>
      by_cases below : less (scores.get entry.1) entry.2 = true
      · simpa [below] using induction
      · simpa [below] using induction

theorem mem_names_violations {dimension : Dimension} {minimum : α}
    (demanded : (dimension, minimum) ∈ (Gates.ofCategory category : Gates α).minimums) :
    dimension.name ∈ (outcome text category weights scores saturation).violations.map Prod.fst ↔
      less (scores.get dimension) minimum = true := by
  rw [names_violations, List.mem_map]
  constructor
  · rintro ⟨⟨other, bound⟩, member, same⟩
    obtain ⟨bound_demanded, below⟩ := List.mem_filter.mp member
    obtain rfl := Dimension.name_injective same
    obtain rfl := Gates.eq_of_mem_minimums bound_demanded demanded
    exact below
  · intro below
    exact ⟨(dimension, minimum), List.mem_filter.mpr ⟨demanded, below⟩, rfl⟩

/-- Violations stand in a fixed order. -/
theorem names_violations_sublist :
    ((outcome text category weights scores saturation).violations.map Prod.fst).Sublist
      ["demand", "economics", "problem"] := by
  rw [names_violations]
  exact List.filter_sublist.map _

end Violations

/-! ## Caps -/

section Caps

variable {α : Type} [Arithmetic α] (text : α → String) {category : Category}
  (weights scores : PerDimension α) {saturation cap : α}

theorem caps_ne_nil_iff :
    (outcome text category weights scores saturation).caps ≠ [] ↔
      ((Gates.ofCategory category).capAt saturation).isSome = true := by
  rw [outcome]
  cases (Gates.ofCategory category).capAt saturation <;> simp

theorem caps_of_capAt_none (absent : (Gates.ofCategory category).capAt saturation = none) :
    (outcome text category weights scores saturation).caps = [] ∧
      (outcome text category weights scores saturation).afterCaps =
        (outcome text category weights scores saturation).beforeCaps := by
  simp [outcome, absent]

theorem caps_of_capAt_some (present : (Gates.ofCategory category).capAt saturation = some cap) :
    (outcome text category weights scores saturation).caps ≠ [] ∧
      (outcome text category weights scores saturation).afterCaps =
        cutAt cap (outcome text category weights scores saturation).beforeCaps := by
  simp [outcome, present]

theorem capAt_eq_some {gates : Gates α} (applied : gates.capAt saturation = some cap) :
    gates.saturationCap = some cap := by
  rw [Gates.capAt] at applied
  split at applied
  · exact applied
  · contradiction

theorem saturationCap_eq (category : Category) :
    (Gates.ofCategory category : Gates α).saturationCap =
      if Gates.isCrowded category then some (ofInt 15) else none :=
  rfl

theorem eq_of_saturationCap
    (given : (Gates.ofCategory category : Gates α).saturationCap = some cap) : cap = ofInt 15 := by
  rw [saturationCap_eq] at given
  split at given
  · exact (Option.some.inj given).symm
  · contradiction

end Caps

/-! ## Reading data -/

/-- A dimension has a score, and the score is below a minimum. -/
def Below (named : List (String × Datum)) (dimension : Dimension) (minimum : Float) : Prop :=
  ∃ datum score, Datum.lookup dimension.name named = some datum ∧ datum.toFactor = .ok score ∧
    score < minimum

/-- The market is saturated. -/
def Saturated (saturation : Datum) : Prop :=
  ∃ value, saturation.toSide? = some value ∧ 90 ≤ value

variable {category : Category} {named : List (String × Datum)} {saturation : Datum}
  {override : Weights.Override Float}

theorem scoresOf_eq_ok_iff {scores : PerDimension Float} :
    scoresOf named = .ok scores ↔
      ∀ dimension, scoreOf named dimension = .ok (scores.get dimension) := by
  constructor
  · intro read dimension
    simp only [scoresOf, bind_eq_ok_iff] at read
    obtain ⟨problem, read_problem, underserved, read_underserved, demand, read_demand,
      differentiation, read_differentiation, economics, read_economics, gtm, read_gtm, rest⟩ := read
    cases rest
    cases dimension <;> assumption
  · intro each
    simp only [scoresOf, each, PerDimension.get]
    rfl

/-- Every score that there is can be weighed. -/
def Weighable (named : List (String × Datum)) : Prop :=
  ∀ (dimension : Dimension) (datum : Datum), Datum.lookup dimension.name named = some datum →
    ∃ score, datum.toFactor = .ok score

theorem exists_scoresOf_iff : (∃ scores, scoresOf named = .ok scores) ↔ Weighable named := by
  simp only [scoresOf_eq_ok_iff]
  constructor
  · rintro ⟨scores, read⟩ dimension datum found
    have score_read := read dimension
    rw [scoreOf, found] at score_read
    exact ⟨_, mapError_eq_ok_iff.mp score_read⟩
  · intro weighable
    have each (dimension : Dimension) : ∃ score, scoreOf named dimension = .ok score := by
      rw [scoreOf]
      cases found : Datum.lookup dimension.name named with
      | none => exact ⟨_, rfl⟩
      | some datum =>
          obtain ⟨score, weighed⟩ := weighable dimension datum found
          exact ⟨score, mapError_eq_ok_iff.mpr weighed⟩
    choose scores read using each
    exact ⟨.ofFunction scores, by simpa using read⟩

/-- A missing score is undefined, so it is below no minimum. -/
theorem less_score_iff {dimension : Dimension} {score : Float}
    (read : scoreOf named dimension = .ok score) (minimum : Float) :
    less score minimum = true ↔ Below named dimension minimum := by
  have less_iff : less score minimum = true ↔ score < minimum := decide_eq_true_iff
  rw [less_iff, Below]
  rw [scoreOf] at read
  cases found : Datum.lookup dimension.name named with
  | none =>
      rw [found] at read
      cases read
      have never : ¬ Double.undefined < minimum := fun below =>
        absurd (Double.isNaN_of_lt below).1 (by decide +kernel)
      simp [never]
  | some datum =>
      rw [found, mapError_eq_ok_iff] at read
      simp [read]

theorem evaluateData_eq_ok_iff {result : Outcome Float} :
    evaluateData category named saturation override = .ok result ↔
      ∃ weights scores value, Weights.resolve category override = .ok weights ∧
        scoresOf named = .ok scores ∧ saturationOf category saturation = .ok value ∧
        outcome Double.brief category weights scores value = result := by
  simp only [evaluateData, bind_eq_ok_iff, mapError_eq_ok_iff, pure, Except.pure, Except.ok.injEq]
  constructor
  · rintro ⟨weights, resolved, scores, read, value, compared, rfl⟩
    exact ⟨weights, scores, value, resolved, read, compared, rfl⟩
  · rintro ⟨weights, scores, value, resolved, read, compared, rfl⟩
    exact ⟨weights, resolved, scores, read, value, compared, rfl⟩

/-! ## Cutting at a cap -/

theorem cutAt_cases (bound value : Float) :
    bound < value ∧ cutAt bound value = bound ∨ ¬ bound < value ∧ cutAt bound value = value := by
  have less_iff : less bound value = true ↔ bound < value := decide_eq_true_iff
  by_cases above : bound < value
  · exact .inl ⟨above, if_pos (less_iff.mpr above)⟩
  · exact .inr ⟨above, if_neg (mt less_iff.mp above)⟩

theorem cutAt_le_bound {bound value : Float} (bound_defined : bound.isNaN = false)
    (defined : value.isNaN = false) : cutAt bound value ≤ bound := by
  rcases cutAt_cases bound value with ⟨_, cut⟩ | ⟨not_above, kept⟩
  · rw [cut]
    exact Double.le_self bound_defined
  · rw [kept]
    exact Double.le_of_not_lt bound_defined defined not_above

theorem cutAt_le {bound value : Float} (defined : value.isNaN = false) :
    cutAt bound value ≤ value := by
  rcases cutAt_cases bound value with ⟨above, cut⟩ | ⟨_, kept⟩
  · rw [cut]
    exact Double.le_of_lt above
  · rw [kept]
    exact Double.le_self defined

theorem isNaN_cutAt (bound value : Float) : (cutAt bound value).isNaN = value.isNaN := by
  rcases cutAt_cases bound value with ⟨above, cut⟩ | ⟨_, kept⟩
  · obtain ⟨bound_defined, defined⟩ := Double.isNaN_of_lt above
    rw [cut, bound_defined, defined]
  · rw [kept]

/-- A cap applies if the category has one and the market is saturated. -/
theorem capAt_eq_some_iff {value cap : Float}
    (read : saturationOf category saturation = .ok value) :
    (Gates.ofCategory category).capAt value = some cap ↔
      (Gates.ofCategory category : Gates Float).saturationCap = some cap ∧
        Saturated saturation := by
  have reached : atMost Gates.saturationThreshold value = true ↔ (90 : Float) ≤ value :=
    decide_eq_true_iff
  have capAt_iff : (Gates.ofCategory category).capAt value = some cap ↔
      (Gates.ofCategory category : Gates Float).saturationCap = some cap ∧ 90 ≤ value := by
    by_cases full : 90 ≤ value
    · simp [Gates.capAt, reached.mpr full, full]
    · simp [Gates.capAt, mt reached.mp full, full]
  rw [capAt_iff]
  rw [saturationOf] at read
  cases side : saturation.toSide? with
  | some given =>
      rw [side] at read
      cases read
      simp [Saturated, side]
  | none =>
      -- Without a saturation only a category without a cap gives an outcome.
      rw [side] at read
      have uncapped : (Gates.ofCategory category : Gates Float).saturationCap = none := by
        cases crowded : Gates.isCrowded category with
        | true =>
            rw [crowded] at read
            contradiction
        | false => simp [saturationCap_eq, crowded]
      simp [uncapped]

theorem isSome_capAt_iff {value : Float} (read : saturationOf category saturation = .ok value) :
    ((Gates.ofCategory category).capAt value).isSome = true ↔
      (Gates.ofCategory category : Gates Float).saturationCap.isSome = true ∧
        Saturated saturation := by
  simp only [Option.isSome_iff_exists, capAt_eq_some_iff read, exists_and_right]

theorem isNaN_saturationCap {cap : Float}
    (given : (Gates.ofCategory category : Gates Float).saturationCap = some cap) :
    cap.isNaN = false := by
  rw [eq_of_saturationCap given]
  decide +kernel

/-! ## Explanations -/

/-- What an outcome says about the scores and the saturation that it was computed from. -/
structure Explains (category : Category) (named : List (String × Datum)) (saturation : Datum)
    (outcome : Outcome Float) : Prop where
  gates : outcome.gates = Gates.ofCategory category
  capped_iff : outcome.caps ≠ [] ↔
    outcome.gates.saturationCap.isSome = true ∧ Saturated saturation
  uncapped : outcome.caps = [] → outcome.afterCaps = outcome.beforeCaps
  /-- Under a cap the score is the smaller of what it was and the cap. -/
  capped : outcome.caps ≠ [] → ∃ cap, outcome.gates.saturationCap = some cap ∧
    (outcome.afterCaps = cap ∨ outcome.afterCaps = outcome.beforeCaps) ∧
    (outcome.beforeCaps.isNaN = false → outcome.afterCaps ≤ cap)
  le : outcome.beforeCaps.isNaN = false → outcome.afterCaps ≤ outcome.beforeCaps
  isNaN_eq : outcome.afterCaps.isNaN = outcome.beforeCaps.isNaN
  /-- Violations stand in a fixed order. -/
  ordered : (outcome.violations.map Prod.fst).Sublist ["demand", "economics", "problem"]
  violated_iff : ∀ dimension minimum, (dimension, minimum) ∈ outcome.gates.minimums →
    (dimension.name ∈ outcome.violations.map Prod.fst ↔ Below named dimension minimum)

theorem explains_outcome {scores : PerDimension Float} {value : Float}
    (scores_read : scoresOf named = .ok scores)
    (saturation_read : saturationOf category saturation = .ok value) (text : Float → String)
    (weights : PerDimension Float) :
    Explains category named saturation (outcome text category weights scores value) := by
  have gates : (outcome text category weights scores value).gates = Gates.ofCategory category := rfl
  have ordered := names_violations_sublist text category weights scores value
  have violated_iff (dimension : Dimension) (minimum : Float)
      (demanded : (dimension, minimum) ∈ (Gates.ofCategory category : Gates Float).minimums) :
      dimension.name ∈ (outcome text category weights scores value).violations.map Prod.fst ↔
        Below named dimension minimum := by
    rw [mem_names_violations text category weights scores value demanded]
    exact less_score_iff (scoresOf_eq_ok_iff.mp scores_read dimension) minimum
  have capped_iff := (caps_ne_nil_iff text weights scores).trans (isSome_capAt_iff saturation_read)
  cases applied : (Gates.ofCategory category).capAt value with
  | none =>
      obtain ⟨caps, after⟩ := caps_of_capAt_none text weights scores applied
      exact {
        gates, ordered, violated_iff, capped_iff
        uncapped := fun _ => after
        capped := fun capped => absurd caps capped
        le := by
          rw [after]
          exact Double.le_self
        isNaN_eq := congrArg Float.isNaN after }
  | some cap =>
      obtain ⟨caps, after⟩ := caps_of_capAt_some text weights scores applied
      have given := capAt_eq_some applied
      have either := (cutAt_cases cap (outcome text category weights scores value).beforeCaps).imp
        And.right And.right
      exact {
        gates, ordered, violated_iff, capped_iff
        uncapped := fun none => absurd none caps
        capped := fun _ => ⟨cap, given, after ▸ either,
          fun defined => after ▸ cutAt_le_bound (isNaN_saturationCap given) defined⟩
        le := fun defined => after ▸ cutAt_le defined
        isNaN_eq := after ▸ isNaN_cutAt cap _ }

theorem exists_saturationOf_iff : (∃ value, saturationOf category saturation = .ok value) ↔
    (Gates.isCrowded category = true → ∃ value, saturation.toSide? = some value) := by
  rw [saturationOf]
  cases side : saturation.toSide? with
  | some value => simp
  | none => cases crowded : Gates.isCrowded category <;> simp

theorem exists_evaluateData_iff :
    (∃ result, evaluateData category named saturation override = .ok result) ↔
      (∃ weights, Weights.resolve category override = .ok weights) ∧ Weighable named ∧
        (Gates.isCrowded category = true → ∃ value, saturation.toSide? = some value) := by
  rw [← exists_scoresOf_iff, ← exists_saturationOf_iff]
  constructor
  · rintro ⟨result, evaluated⟩
    obtain ⟨weights, scores, value, resolved, read, compared, _⟩ :=
      evaluateData_eq_ok_iff.mp evaluated
    exact ⟨⟨weights, resolved⟩, ⟨scores, read⟩, ⟨value, compared⟩⟩
  · rintro ⟨⟨weights, resolved⟩, ⟨scores, read⟩, ⟨value, compared⟩⟩
    exact ⟨_, evaluateData_eq_ok_iff.mpr ⟨weights, scores, value, resolved, read, compared, rfl⟩⟩

/-! ## What the outcome depends on -/

theorem scoresOf_congr {others : List (String × Datum)}
    (same : ∀ dimension : Dimension,
      Datum.lookup dimension.name others = Datum.lookup dimension.name named) :
    scoresOf others = scoresOf named := by
  simp only [scoresOf, scoreOf, same]

end Scoring

end Appraisal
