import Appraisal.Verdict
import Mathlib.Data.List.Basic

/-!
# The worst status wins

The score, the violations and the gates among the actions each call for a status.  They are looked
at one after another, and each can only make the status worse, so a verdict has the worst status that
is called for (`status_decide_worst`).  It does not matter in which order the actions come, how often,
and with which flags among them.
-/

namespace Appraisal

namespace Action

theorem any_isGate_iff {actions : List Action} :
    actions.any isGate = true ↔ ∃ target demand reason, gate target demand reason ∈ actions := by
  rw [List.any_eq_true]
  constructor
  · rintro ⟨action, member, passed⟩
    cases action with
    | flag => contradiction
    | gate target demand reason => exact ⟨target, demand, reason, member⟩
  · rintro ⟨target, demand, reason, member⟩
    exact ⟨_, member, rfl⟩

theorem any_isFailure_iff {actions : List Action} :
    actions.any isFailure = true ↔ ∃ target reason, gate target .fail reason ∈ actions := by
  rw [List.any_eq_true]
  constructor
  · rintro ⟨action, member, passed⟩
    cases action with
    | flag => contradiction
    | gate target demand reason =>
        cases demand with
        | review => contradiction
        | fail => exact ⟨target, reason, member⟩
  · rintro ⟨target, reason, member⟩
    exact ⟨_, member, rfl⟩

end Action

namespace Status

theorem eq_of_rank_eq {one other : Status} (same : one.rank = other.rank) : one = other := by
  cases one <;> cases other <;> trivial

theorem rank_worse (left right : Status) : (worse left right).rank = max left.rank right.rank := by
  cases left <;> cases right <;> rfl

theorem worse_cases (left right : Status) : worse left right = left ∨ worse left right = right := by
  rw [worse]
  split
  · exact .inr rfl
  · exact .inl rfl

theorem worse_noGo (status : Status) : worse status .noGo = .noGo := by
  cases status <;> rfl

theorem reviewed_eq_worse (status : Status) : status.reviewed = worse status .review := by
  cases status <;> rfl

/-- A score is a go exactly if it has reached the minimum of one; an undefined score has not. -/
theorem ofScore_eq_go_iff {score goMinimum reviewMinimum : Number} :
    ofScore score goMinimum reviewMinimum = .go ↔ goMinimum.atMost score = true := by
  rw [ofScore]
  split
  · rename_i undefined
    rw [Number.atMost, undefined]
    cases goMinimum.extent <;> simp [Extent.atMost, Extent.less, Extent.same]
  · split
    · simp_all
    · split <;> simp_all

/-! ## The worst of some statuses -/

/-- A status is one of some, and none of them is worse. -/
structure IsWorst (candidates : Status → Prop) (status : Status) : Prop where
  mem : candidates status
  rank_le : ∀ other, candidates other → other.rank ≤ status.rank

theorem IsWorst.unique {candidates : Status → Prop} {one other : Status}
    (one_worst : IsWorst candidates one) (other_worst : IsWorst candidates other) : one = other :=
  eq_of_rank_eq <| Nat.le_antisymm (other_worst.rank_le one one_worst.mem)
    (one_worst.rank_le other other_worst.mem)

theorem isWorst_single (status : Status) : IsWorst (· = status) status :=
  ⟨rfl, fun _ same => same ▸ Nat.le_refl _⟩

/-- A further status that may be called for makes the worst one worse, or leaves it as it is. -/
theorem IsWorst.worse_if {candidates : Status → Prop} {status : Status}
    (worst : IsWorst candidates status) (condition : Prop) [Decidable condition]
    (further : Status) :
    IsWorst (fun other => candidates other ∨ condition ∧ other = further)
      (if condition then worse status further else status) := by
  split
  · rename_i asked
    refine ⟨?_, ?_⟩
    · rcases worse_cases status further with kept | lowered
      · rw [kept]
        exact .inl worst.mem
      · rw [lowered]
        exact .inr ⟨asked, rfl⟩
    · rw [rank_worse]
      rintro other (before | ⟨_, rfl⟩)
      · exact Nat.le_trans (worst.rank_le other before) (Nat.le_max_left _ _)
      · exact Nat.le_max_right _ _
  · rename_i not_asked
    refine ⟨.inl worst.mem, ?_⟩
    rintro other (before | ⟨asked, _⟩)
    · exact worst.rank_le other before
    · exact absurd asked not_asked

end Status

namespace Verdict

/-- What the score of an outcome, its violations and the gates among some actions call for. -/
inductive CalledFor (thresholds : Thresholds) (outcome : Outcome Float) (actions : List Action) :
    Status → Prop
  | score : CalledFor thresholds outcome actions
      (.ofScore (.double outcome.afterCaps) thresholds.go thresholds.review)
  | violation (violated : outcome.violations ≠ []) : CalledFor thresholds outcome actions .review
  | gate {target : GateTarget} {demand : GateDemand} {reason : Option String}
      (member : .gate target demand reason ∈ actions) : CalledFor thresholds outcome actions .review
  | failure {target : GateTarget} {reason : Option String}
      (member : .gate target .fail reason ∈ actions) : CalledFor thresholds outcome actions .noGo

section

variable (thresholds : Thresholds) (outcome : Outcome Float) (actions : List Action)

theorem calledFor_iff (status : Status) :
    CalledFor thresholds outcome actions status ↔
      ((status = .ofScore (.double outcome.afterCaps) thresholds.go thresholds.review ∨
        outcome.violations ≠ [] ∧ status = .review) ∨
        actions.any Action.isGate = true ∧ status = .review) ∨
        actions.any Action.isFailure = true ∧ status = .noGo := by
  rw [Action.any_isGate_iff, Action.any_isFailure_iff]
  constructor
  · intro called
    cases called with
    | score => exact .inl (.inl (.inl rfl))
    | violation violated => exact .inl (.inl (.inr ⟨violated, rfl⟩))
    | gate member => exact .inl (.inr ⟨⟨_, _, _, member⟩, rfl⟩)
    | failure member => exact .inr ⟨⟨_, _, member⟩, rfl⟩
  · rintro (((rfl | ⟨violated, rfl⟩) | ⟨⟨_, _, _, member⟩, rfl⟩) | ⟨⟨_, _, member⟩, rfl⟩)
    · exact .score
    · exact .violation violated
    · exact .gate member
    · exact .failure member

theorem statusOfOutcome_eq :
    statusOfOutcome thresholds outcome =
      let scored := .ofScore (.double outcome.afterCaps) thresholds.go thresholds.review
      if outcome.violations ≠ [] then Status.worse scored .review else scored := by
  rw [statusOfOutcome, Status.reviewed_eq_worse]
  cases outcome.violations <;> rfl

theorem statusAfter_eq (status : Status) :
    statusAfter status actions =
      let reviewed :=
        if actions.any Action.isGate = true then Status.worse status .review else status
      if actions.any Action.isFailure = true then Status.worse reviewed .noGo else reviewed := by
  rw [statusAfter, Status.reviewed_eq_worse]
  dsimp only
  rw [Status.worse_noGo]

theorem isWorst_status_decide (rulesTotal : Int) (flags : List String) :
    Status.IsWorst (CalledFor thresholds outcome actions)
      (decide thresholds outcome actions rulesTotal flags).status := by
  have called_eq := funext fun status => propext (calledFor_iff thresholds outcome actions status)
  have status_eq : (decide thresholds outcome actions rulesTotal flags).status =
      statusAfter (statusOfOutcome thresholds outcome) actions := rfl
  rw [called_eq, status_eq, statusAfter_eq, statusOfOutcome_eq]
  exact (((Status.isWorst_single _).worse_if _ _).worse_if _ _).worse_if _ _

end

/-- The actions call for something only through the gates among them. -/
theorem calledFor_congr {thresholds : Thresholds} {outcome : Outcome Float}
    {actions others : List Action}
    (same : ∀ target demand reason,
      Action.gate target demand reason ∈ others ↔ .gate target demand reason ∈ actions) :
    CalledFor thresholds outcome others = CalledFor thresholds outcome actions := by
  funext status
  rw [calledFor_iff, calledFor_iff, Action.any_isGate_iff, Action.any_isGate_iff,
    Action.any_isFailure_iff, Action.any_isFailure_iff]
  simp only [same]

theorem eq_go_iff_of_isWorst {thresholds : Thresholds} {outcome : Outcome Float}
    {actions : List Action} {status : Status}
    (worst : Status.IsWorst (CalledFor thresholds outcome actions) status) :
    status = .go ↔ thresholds.go.atMost (.double outcome.afterCaps) = true ∧
      outcome.violations = [] ∧
      ∀ target demand reason, Action.gate target demand reason ∉ actions := by
  constructor
  · rintro rfl
    -- If a go is the worst, then nothing else is called for.
    have least {other : Status} (called : CalledFor thresholds outcome actions other) :
        other = .go :=
      Status.eq_of_rank_eq (Nat.le_antisymm (worst.rank_le other called) (Nat.zero_le _))
    refine ⟨Status.ofScore_eq_go_iff.mp (least .score), ?_, ?_⟩
    · by_contra violated
      cases least (.violation violated)
    · intro target demand reason member
      cases least (.gate member)
  · rintro ⟨reached, no_violation, no_gate⟩
    cases worst.mem with
    | score => exact Status.ofScore_eq_go_iff.mpr reached
    | violation violated => exact absurd no_violation violated
    | gate member => exact absurd member (no_gate _ _ _)
    | failure member => exact absurd member (no_gate _ _ _)

/--
The status of a verdict is the worst that is called for: by the score after the caps, by violations
and gates, which call for a review, and by gates that fail.  It is a go exactly if the score has
reached the minimum of a go and there are neither violations nor gates.  Actions with the same gates
give the same status, in whatever order and number they come and whatever flags are among them.
-/
theorem status_decide_worst (thresholds : Thresholds) (outcome : Outcome Float)
    (actions : List Action) (rulesTotal : Int) (flags : List String) :
    let status := (decide thresholds outcome actions rulesTotal flags).status
    Status.IsWorst (CalledFor thresholds outcome actions) status ∧
      (status = .go ↔ thresholds.go.atMost (.double outcome.afterCaps) = true ∧
        outcome.violations = [] ∧
        ∀ target demand reason, Action.gate target demand reason ∉ actions) ∧
      ∀ others otherTotal otherFlags,
        (∀ target demand reason, Action.gate target demand reason ∈ others ↔
          .gate target demand reason ∈ actions) →
        (decide thresholds outcome others otherTotal otherFlags).status = status := by
  intro status
  have worst : Status.IsWorst (CalledFor thresholds outcome actions) status :=
    isWorst_status_decide thresholds outcome actions rulesTotal flags
  refine ⟨worst, eq_go_iff_of_isWorst worst, ?_⟩
  intro others otherTotal otherFlags same
  have other_worst := isWorst_status_decide thresholds outcome others otherTotal otherFlags
  rw [calledFor_congr same] at other_worst
  exact other_worst.unique worst

end Verdict

end Appraisal
