import Appraisal.Proofs.Verdict.Merging
import Appraisal.Proofs.Verdict.Worst

/-!
# Verdicts under more actions

On one outcome, more actions never make a verdict better: its status stays or becomes worse, and
none of its flags and penalties is lost.  The score and the reasons do not depend on actions.
-/

namespace Appraisal

namespace Verdict

/-- More actions call for more. -/
theorem CalledFor.mono {thresholds : Thresholds} {outcome : Outcome Float} {few many : List Action}
    (among : few ⊆ many) {status : Status} (called : CalledFor thresholds outcome few status) :
    CalledFor thresholds outcome many status := by
  cases called with
  | score => exact .score
  | violation violated => exact .violation violated
  | gate member => exact .gate (among member)
  | failure member => exact .failure (among member)

/-- A verdict on the same outcome that is as good as another one, or worse. -/
structure Worsens (first second : Verdict) : Prop where
  outcome : second.outcome = first.outcome
  score : second.score = first.score
  reasons : second.reasons = first.reasons
  status : first.status.rank ≤ second.status.rank
  /-- No flag is lost. -/
  flags : first.flags ⊆ second.flags
  /-- No penalty is lost, and they stay in order. -/
  penalties : first.penalties.Sublist second.penalties

/-- Further actions, wherever they are inserted, make a verdict worse or leave it as it is. -/
theorem worsens_decide (thresholds : Thresholds) (outcome : Outcome Float) {few many : List Action}
    (inserted : few.Sublist many) (fewer more : Int) (flags : List String) :
    Worsens (decide thresholds outcome few fewer flags)
      (decide thresholds outcome many more flags) where
  outcome := rfl
  score := rfl
  reasons := rfl
  status :=
    (isWorst_status_decide thresholds outcome many more flags).rank_le _
      ((isWorst_status_decide thresholds outcome few fewer flags).mem.mono inserted.subset)
  flags := by
    intro flag member
    have codes : few.map Action.flagCode ⊆ many.map Action.flagCode :=
      List.map_subset _ inserted.subset
    rw [decide, Merged.mem_flags_ofActions] at member ⊢
    exact member.imp_right fun coded => codes coded
  penalties := inserted.filterMap _

end Verdict

end Appraisal
