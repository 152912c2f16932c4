import Appraisal.Number
import Mathlib.Data.Rat.Defs
import Mathlib.Algebra.Order.Ring.Rat
import Mathlib.Order.WithBot

/-!
# The order of the extended line

Places on the extended line are in the order of the rational numbers with one end on either side,
which is total and transitive whatever kind of number a place belongs to.  Only a missing place is
in no order.
-/

namespace Appraisal

namespace Extent

/-- The rational line with its two ends. -/
abbrev Line : Type := WithBot (WithTop Rat)

/-- Where a place stands on the line; a missing place stands nowhere and counts as the lower end. -/
def onLine : Extent → Line
  | .below | .undefined => ⊥
  | .finite value => ((value : WithTop Rat) : Line)
  | .above => (⊤ : WithTop Rat)

variable {left right : Extent}

theorem less_iff_onLine (left_placed : left ≠ .undefined) (right_placed : right ≠ .undefined) :
    left.less right = true ↔ left.onLine < right.onLine := by
  have finite_lt_above (value : Rat) : (finite value).onLine < above.onLine :=
    WithBot.coe_lt_coe.mpr (WithTop.coe_lt_top value)
  cases left <;> cases right <;> simp_all [less, onLine]

theorem same_iff : left.same right = true ↔ left = right ∧ left ≠ .undefined := by
  cases left <;> cases right <;> simp [same]

theorem same_trans {first second third : Extent} (left : first.same second = true)
    (right : second.same third = true) : first.same third = true := by
  rwa [(same_iff.mp left).1]

theorem onLine_inj (left_placed : left ≠ .undefined) (right_placed : right ≠ .undefined) :
    left.onLine = right.onLine ↔ left = right := by
  cases left <;> cases right <;> simp_all [onLine]

theorem atMost_iff_onLine (left_placed : left ≠ .undefined) (right_placed : right ≠ .undefined) :
    left.atMost right = true ↔ left.onLine ≤ right.onLine := by
  rw [atMost, Bool.or_eq_true, less_iff_onLine left_placed right_placed, same_iff,
    and_iff_left left_placed, ← onLine_inj left_placed right_placed, le_iff_lt_or_eq]

theorem atMost_finite {left right : Rat} :
    (finite left).atMost (.finite right) = true ↔ left ≤ right := by
  simp [atMost, less, same, le_iff_lt_or_eq]

theorem placed_of_less (ordered : left.less right = true) :
    left ≠ .undefined ∧ right ≠ .undefined := by
  cases left <;> cases right <;> simp_all [less]

theorem placed_of_atMost (ordered : left.atMost right = true) :
    left ≠ .undefined ∧ right ≠ .undefined := by
  cases left <;> cases right <;> simp_all [atMost, less, same]

theorem eq_above_of_atMost {place : Extent} (ordered : Extent.above.atMost place = true) :
    place = .above := by
  cases place <;> simp_all [atMost, less, same]

theorem eq_below_of_atMost {place : Extent} (ordered : place.atMost .below = true) :
    place = .below := by
  cases place <;> simp_all [atMost, less, same]

theorem exists_finite {place : Extent} (placed : place ≠ .undefined) (not_below : place ≠ .below)
    (not_above : place ≠ .above) : ∃ value, place = .finite value := by
  cases place with
  | finite value => exact ⟨value, rfl⟩
  | _ => contradiction

theorem atMost_above {place : Extent} (placed : place ≠ .undefined) :
    place.atMost .above = true := by
  cases place <;> first | rfl | contradiction

theorem less_trans {first second third : Extent} (left : first.less second = true)
    (right : second.less third = true) : first.less third = true := by
  obtain ⟨first_placed, second_placed⟩ := placed_of_less left
  have third_placed := (placed_of_less right).2
  rw [less_iff_onLine first_placed second_placed] at left
  rw [less_iff_onLine second_placed third_placed] at right
  rw [less_iff_onLine first_placed third_placed]
  exact left.trans right

theorem atMost_trans {first second third : Extent} (left : first.atMost second = true)
    (right : second.atMost third = true) : first.atMost third = true := by
  obtain ⟨first_placed, second_placed⟩ := placed_of_atMost left
  have third_placed := (placed_of_atMost right).2
  rw [atMost_iff_onLine first_placed second_placed] at left
  rw [atMost_iff_onLine second_placed third_placed] at right
  rw [atMost_iff_onLine first_placed third_placed]
  exact left.trans right

theorem atMost_antisymm (ordered : left.atMost right = true) (reversed : right.atMost left = true) :
    left = right := by
  obtain ⟨left_placed, right_placed⟩ := placed_of_atMost ordered
  rw [atMost_iff_onLine left_placed right_placed] at ordered
  rw [atMost_iff_onLine right_placed left_placed] at reversed
  exact (onLine_inj left_placed right_placed).mp (ordered.antisymm reversed)

end Extent

end Appraisal
