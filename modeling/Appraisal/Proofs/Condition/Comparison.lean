import Appraisal.Proofs.Condition.View
import Mathlib.Data.String.Basic

/-!
# The laws of comparison

Values without undefined numbers are compared by an equivalence and by orders that agree with it.
Two numbers stand on the extended line and two texts in the order of their characters, and there the
four relations and equality are those of a linear order; any other pair is in no order.  Truth
values are apart from numbers at the top, but lists and objects that differ only in them are equal.
-/

namespace Appraisal.Condition

/-- A value that conditions compare: the keys of every object are distinct, and every number has a
place on the line. -/
structure Comparand where
  datum : Datum
  formed : datum.WellFormed
  defined : datum.Defined

instance : CoeOut Comparand Datum := ⟨Comparand.datum⟩

/-- Two numbers or two texts. -/
inductive Rankable : Datum → Datum → Prop
  | numbers (left right : Number) : Rankable (.number left) (.number right)
  | texts (left right : String) : Rankable (.text left) (.text right)

/-! ## Equality -/

theorem equals_iff {left right : Datum} :
    equals false left right = true ↔ isTruth left = isTruth right ∧ left.alike right = true := by
  rw [equals]
  split
  · rename_i apart
    rw [bne_iff_ne] at apart
    simp [apart]
  · rename_i together
    rw [bne_iff_ne, not_not] at together
    rw [Bool.false_and, Bool.false_or, and_iff_right together]

/-- Values without undefined numbers are equal by an equivalence. -/
theorem equivalence_equals :
    Equivalence fun left right : Comparand => equals false left right = true where
  refl value := equals_iff.mpr ⟨rfl, Datum.alike_self value.formed value.defined⟩
  symm {left right} equal := by
    obtain ⟨kind, alike⟩ := equals_iff.mp equal
    exact equals_iff.mpr ⟨kind.symm, Datum.alike_symm left.formed right.formed alike⟩
  trans {first second third} left right := by
    obtain ⟨left_kind, left_alike⟩ := equals_iff.mp left
    obtain ⟨right_kind, right_alike⟩ := equals_iff.mp right
    exact equals_iff.mpr ⟨left_kind.trans right_kind,
      Datum.alike_trans first.formed left_alike right_alike⟩

/-- Where no number is undefined it makes no difference whether the operands are at one place. -/
theorem eval_equal {context : Datum} (formed : context.WellFormed) (defined : context.Defined)
    (left right : Expression) :
    (Expression.binary .equal left right).eval context =
      left.eval context >>= fun first => right.eval context >>= fun second =>
        .ok (.truth (equals false first second)) := by
  rw [eval_strict context left right rfl]
  cases same : samePlace context left right with
  | false => rfl
  | true =>
      cases left with
      | path segments =>
          cases right with
          | path others =>
              have value_eq := resolve_eq_of_samePlace same
              have self := Datum.alike_self (wellFormed_find formed segments)
                (defined_find defined segments)
              rw [find] at self
              rw [Expression.eval, Expression.eval, ← value_eq]
              cases found : resolve context segments with
              | error fault => rfl
              | ok value =>
                  rw [found] at self
                  exact congrArg (Except.ok ∘ Datum.truth) (equals_self (fun _ => self) true false)
          | _ => contradiction
      | _ => contradiction

/-! ## Numbers and texts on a line -/

/-- Two data are compared as two elements of a linear order are. -/
structure ComparedAs {Line : Type} [LinearOrder Line] (left right : Datum) (first second : Line) :
    Prop where
  less : compares .less left right = true ↔ first < second
  equal : equals false left right = true ↔ first = second
  greater : compares .greater left right = true ↔ second < first
  atMost : compares .atMost left right = true ↔ first ≤ second
  atLeast : compares .atLeast left right = true ↔ second ≤ first

theorem comparedAs_numbers {left right : Number} (left_placed : left.extent ≠ .undefined)
    (right_placed : right.extent ≠ .undefined) :
    ComparedAs (.number left) (.number right) left.extent.onLine right.extent.onLine where
  less := Extent.less_iff_onLine left_placed right_placed
  equal := by
    rw [Extent.onLine_inj left_placed right_placed]
    exact equals_iff.trans
      ((and_iff_right rfl).trans (Extent.same_iff.trans (and_iff_left left_placed)))
  greater := Extent.less_iff_onLine right_placed left_placed
  atMost := Extent.atMost_iff_onLine left_placed right_placed
  atLeast := Extent.atMost_iff_onLine right_placed left_placed

theorem comparedAs_texts (left right : String) :
    ComparedAs (.text left) (.text right) left right where
  less := decide_eq_true_iff
  equal := equals_iff.trans ((and_iff_right rfl).trans beq_iff_eq)
  greater := decide_eq_true_iff
  atMost := decide_eq_true_iff
  atLeast := decide_eq_true_iff

namespace ComparedAs

variable {Line : Type} [LinearOrder Line] {left right : Datum} {first second : Line}

theorem count_eq_one (line : ComparedAs left right first second) :
    [compares .less left right, equals false left right, compares .greater left right].count true
      = 1 := by
  have less := line.less
  have equal := line.equal
  have greater := line.greater
  rcases lt_trichotomy first second with before | rfl | after
  · simp_all [before.ne, before.le]
  · simp_all
  · simp_all [after.ne', after.le]

theorem atMost_eq (line : ComparedAs left right first second) :
    compares .atMost left right = (compares .less left right || equals false left right) := by
  rw [Bool.eq_iff_iff, Bool.or_eq_true, line.atMost, line.less, line.equal, le_iff_lt_or_eq]

theorem atLeast_eq (line : ComparedAs left right first second) :
    compares .atLeast left right = (compares .greater left right || equals false left right) := by
  rw [Bool.eq_iff_iff, Bool.or_eq_true, line.atLeast, line.greater, line.equal, le_iff_lt_or_eq,
    eq_comm]

end ComparedAs

/-- Two numbers, or two texts, stand on one line. -/
theorem exists_comparedAs {left right : Comparand} (rankable : Rankable left right) :
    ∃ (Line : Type) (_ : LinearOrder Line) (first second : Line),
      ComparedAs left right first second := by
  obtain ⟨left, left_formed, left_defined⟩ := left
  obtain ⟨right, right_formed, right_defined⟩ := right
  cases rankable with
  | numbers =>
      cases left_defined with
      | number left_placed =>
          cases right_defined with
          | number right_placed => exact ⟨_, _, _, _, comparedAs_numbers left_placed right_placed⟩
  | texts first second => exact ⟨_, _, _, _, comparedAs_texts first second⟩

/-! ## Order -/

theorem Rankable.symm {left right : Datum} (rankable : Rankable left right) :
    Rankable right left := by
  cases rankable with
  | numbers left right => exact .numbers right left
  | texts left right => exact .texts right left

theorem rankable_of_ordered {numbers : Number → Number → Bool} {texts : String → String → Bool}
    {left right : Datum} (related : ordered numbers texts left right = true) :
    Rankable left right := by
  cases left with
  | number left =>
      cases right with
      | number right => exact .numbers left right
      | _ => contradiction
  | text left =>
      cases right with
      | text right => exact .texts left right
      | _ => contradiction
  | _ => contradiction

/-- What is in some order consists of two numbers or two texts. -/
theorem rankable_of_compares {operator : BinaryOperator} {left right : Datum}
    (related : compares operator left right = true) : Rankable left right := by
  cases operator with
  | less | atMost | greater | atLeast => exact rankable_of_ordered related
  | _ => contradiction

theorem compares_less_trans {first second third : Datum}
    (left : compares .less first second = true) (right : compares .less second third = true) :
    compares .less first third = true := by
  have second_third := rankable_of_compares right
  cases rankable_of_compares left with
  | numbers =>
      cases second_third with
      | numbers => exact Extent.less_trans left right
  | texts =>
      cases second_third with
      | texts => exact decide_eq_true ((of_decide_eq_true left).trans (of_decide_eq_true right))

/-- Data that no order tells apart: numbers at one place, one text, or data that are in no order. -/
inductive SameRank : Datum → Datum → Prop
  | numbers {left right : Number} (place : left.extent = right.extent) :
      SameRank (.number left) (.number right)
  | texts (value : String) : SameRank (.text value) (.text value)
  | unranked {left right : Datum} (left_unranked : ∀ other, ¬ Rankable left other)
      (right_unranked : ∀ other, ¬ Rankable right other) : SameRank left right

theorem sameRank_of_equals {left right : Datum} (equal : equals false left right = true) :
    SameRank left right := by
  obtain ⟨kind, alike⟩ := equals_iff.mp equal
  cases left with
  | number first =>
      cases right with
      | number second => exact .numbers (Extent.same_iff.mp alike).1
      | _ => contradiction
  | text first =>
      cases right with
      | text second =>
          obtain rfl : first = second := beq_iff_eq.mp alike
          exact .texts first
      | _ => contradiction
  | _ =>
      cases right with
      | number => contradiction
      | text => contradiction
      | _ => exact .unranked nofun nofun

/-- Data of one rank may replace each other on the left of an operator. -/
theorem SameRank.compares_left {left right : Datum} (same : SameRank left right)
    (operator : BinaryOperator) (other : Datum) :
    compares operator left other = compares operator right other := by
  cases same with
  | numbers place =>
      cases operator <;> cases other <;>
        simp only [compares, ordered, Number.less, Number.atMost, place]
  | texts => rfl
  | unranked left_unranked right_unranked =>
      rw [Bool.eq_iff_iff]
      exact iff_of_false (fun related => left_unranked other (rankable_of_compares related))
        fun related => right_unranked other (rankable_of_compares related)

/-- Data of one rank may replace each other on the right of an operator. -/
theorem SameRank.compares_right {left right : Datum} (same : SameRank left right)
    (operator : BinaryOperator) (other : Datum) :
    compares operator other left = compares operator other right := by
  cases same with
  | numbers place =>
      cases operator <;> cases other <;>
        simp only [compares, ordered, Number.less, Number.atMost, place]
  | texts => rfl
  | unranked left_unranked right_unranked =>
      rw [Bool.eq_iff_iff]
      exact iff_of_false (fun related => left_unranked other (rankable_of_compares related).symm)
        fun related => right_unranked other (rankable_of_compares related).symm

/-- Values without undefined numbers are compared by one equivalence and the orders that belong to
it.  Of two numbers, or of two texts, the first is before the second, equal to it or after it, and
only one of these; the other two relations join the equivalence to a strict one.  No order holds of
any other pair, and equal values are in the same order with everything.  A condition that compares
two operands for equality in a context without undefined numbers decides this equivalence. -/
theorem compares_lawful :
    (Equivalence fun left right : Comparand => equals false left right = true) ∧
    (∀ left right : Comparand, Rankable left right →
      [compares .less left right, equals false left right, compares .greater left right].count true
        = 1 ∧
      compares .atMost left right = (compares .less left right || equals false left right) ∧
      compares .atLeast left right = (compares .greater left right || equals false left right)) ∧
    (∀ first second third : Comparand, compares .less first second = true →
      compares .less second third = true → compares .less first third = true) ∧
    (∀ left right : Comparand, equals false left right = true → ∀ operator (other : Comparand),
      compares operator left other = compares operator right other ∧
      compares operator other left = compares operator other right) ∧
    (∀ left right : Comparand, ¬ Rankable left right → ∀ operator,
      compares operator left right = false) ∧
    ∀ (context : Comparand) (left right : Expression),
      (Expression.binary .equal left right).eval context =
        left.eval context >>= fun first => right.eval context >>= fun second =>
          .ok (.truth (equals false first second)) := by
  refine ⟨equivalence_equals, fun left right rankable => ?_, fun _ _ _ => compares_less_trans,
    fun left right equal operator other => ?_, fun left right apart operator => ?_,
    fun context => eval_equal context.formed context.defined⟩
  · obtain ⟨_, _, _, _, line⟩ := exists_comparedAs rankable
    exact ⟨line.count_eq_one, line.atMost_eq, line.atLeast_eq⟩
  · have same := sameRank_of_equals equal
    exact ⟨same.compares_left operator other, same.compares_right operator other⟩
  · exact Bool.eq_false_iff.mpr fun related => apart (rankable_of_compares related)

/-- The least whole number that no double equals lies above the double it would be rounded to, and
lists are equal whether they hold a truth value or the number that it counts as. -/
theorem compares_lawful_of_two_pow :
    let double : Comparand :=
      ⟨.double (Float.ofNat (2 ^ 53)), .number _, .number (by decide +kernel)⟩
    let whole : Comparand := ⟨.whole (2 ^ 53), .number _, .whole _⟩
    let next : Comparand := ⟨.whole (2 ^ 53 + 1), .number _, .whole _⟩
    let counts : Comparand := ⟨.list [.whole 1, .whole 1],
      .list (List.forall_mem_cons.mpr ⟨.number _, List.forall_mem_singleton.mpr (.number _)⟩),
      .list (List.forall_mem_cons.mpr ⟨.whole _, List.forall_mem_singleton.mpr (.whole _)⟩)⟩
    let truths : Comparand := ⟨.list [.truth true, .whole 1],
      .list (List.forall_mem_cons.mpr ⟨.truth _, List.forall_mem_singleton.mpr (.number _)⟩),
      .list (List.forall_mem_cons.mpr ⟨.truth _, List.forall_mem_singleton.mpr (.whole _)⟩)⟩
    equals false double whole = true ∧ compares .less whole next = true ∧
      compares .less double next = true ∧ compares .atLeast next double = true ∧
      equals false counts truths = true ∧ equals false truths counts = true ∧
      ¬ Rankable counts double ∧ compares .atMost counts double = false := by
  intro double whole next counts truths
  obtain ⟨equivalence, rankable, _, replace, unrankable, _⟩ := compares_lawful
  have same : equals false double whole = true := by decide +kernel
  have before : compares .less whole next = true := by decide +kernel
  have double_before : compares .less double next = true :=
    (replace double whole same .less next).1.trans before
  have next_after : compares .greater next double = true := double_before
  have alike : equals false counts truths = true := by decide +kernel
  have apart : ¬ Rankable counts double := nofun
  refine ⟨same, before, double_before, ?_, alike, equivalence.symm alike, apart,
    unrankable counts double apart .atMost⟩
  rw [(rankable next double (.numbers _ _)).2.2, next_after, Bool.true_or]

end Appraisal.Condition
