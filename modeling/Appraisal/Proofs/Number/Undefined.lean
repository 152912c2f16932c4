import Appraisal.Number
import Appraisal.Number.Arithmetic
import Appraisal.Proofs.Number.Signs

/-!
# Undefined doubles stay undefined

A sum or a product of which one part is undefined is undefined itself, and so is what rounding makes
of it.  An undefined double has no place on the extended line, so it is in no order with anything.
-/

namespace Appraisal

namespace Double

open Float.Model

theorem unpack_of_isNaN {value : Float} (undefined : value.isNaN = true) :
    value.toModel.unpack = .notANumber := by
  change value.toModel.unpack.isNaN = true at undefined
  generalize value.toModel.unpack = unpacked at undefined ⊢
  cases unpacked with
  | notANumber => rfl
  | _ => contradiction

/-- What is computed by an operation that passes undefined operands on is undefined if one is. -/
theorem isNaN_of_operand {operation : UnpackedFloat → UnpackedFloat → UnpackedFloat}
    (left_kept : ∀ right, operation .notANumber right = .notANumber)
    (right_kept : ∀ left, operation left .notANumber = .notANumber) {left right : Float}
    (undefined : left.isNaN = true ∨ right.isNaN = true) :
    (Float.ofModel (Float.Model.pack
      (operation left.toModel.unpack right.toModel.unpack))).isNaN = true := by
  rw [isNaN_packed]
  rcases undefined with undefined | undefined
  · rw [unpack_of_isNaN undefined, left_kept]
    rfl
  · rw [unpack_of_isNaN undefined, right_kept]
    rfl

/-- Not even a factor of zero gives an undefined product a value. -/
theorem isNaN_mul_of_isNaN {left right : Float}
    (undefined : left.isNaN = true ∨ right.isNaN = true) : (left * right).isNaN = true := by
  refine isNaN_of_operand (fun _ => rfl) (fun first => ?_) undefined
  cases first <;> rfl

theorem isNaN_add_of_isNaN {left right : Float}
    (undefined : left.isNaN = true ∨ right.isNaN = true) : (left + right).isNaN = true := by
  refine isNaN_of_operand (fun _ => rfl) (fun first => ?_) undefined
  cases first <;> rfl

end Double

theorem Number.extent_of_isNaN {value : Float} (undefined : value.isNaN = true) :
    (Number.double value).extent = .undefined := by
  rw [extent, Extent.ofFloat, Double.unpack_of_isNaN undefined]

namespace Arithmetic

theorem isNaN_foldl {values : List Float} {start : Float}
    (undefined : start.isNaN = true ∨ ∃ value ∈ values, value.isNaN = true) :
    (values.foldl (· + ·) start).isNaN = true := by
  induction values generalizing start with
  | nil =>
      rcases undefined with undefined | ⟨value, member, _⟩
      · exact undefined
      · contradiction
  | cons value values induction =>
      rw [List.exists_mem_cons_iff, ← or_assoc] at undefined
      exact induction (undefined.imp_left Double.isNaN_add_of_isNaN)

/-- One undefined summand, wherever it stands, makes a sum undefined. -/
theorem isNaN_sum {values : List Float} {value : Float} (member : value ∈ values)
    (undefined : value.isNaN = true) : (sum values).isNaN = true :=
  isNaN_foldl (.inr ⟨value, member, undefined⟩)

theorem not_isFinite_of_isNaN {value : Float} (undefined : value.isNaN = true) :
    ¬ isFinite value = true := by
  change ¬ value.toModel.unpack.isFinite = true
  rw [Double.unpack_of_isNaN undefined]
  exact Bool.false_ne_true

theorem isNaN_roundHalfUp {value : Float} (undefined : value.isNaN = true) :
    (roundHalfUp value).isNaN = true := by
  rw [roundHalfUp, if_neg (not_isFinite_of_isNaN undefined)]
  exact undefined

end Arithmetic

end Appraisal
