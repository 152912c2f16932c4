import Appraisal.Condition.Evaluation
import Mathlib.Data.List.TakeWhile

/-!
# What conditions mean

The meaning of a condition is its value when every number has a truth value, whole numbers of any
size included.  Evaluation asks for some truth values on its way, from left to right and no more
than it needs; `Expression.asked` is the row of data it asks about.  It gives the meaning, unless
one of these data is a whole number too large for a double: then it fails, with that fault and no
other (`holds_eq_ok`, `holds_eq_error`).
-/

namespace Appraisal.Condition

/-- The truth value of a datum; of a number of any size, whether it differs from zero. -/
def truthOf : Datum → Bool
  | .null => false
  | .truth value => value
  | .number value =>
      match value.extent with
      | .undefined => false
      | .finite exact => exact ≠ 0
      | _ => true
  | .text value => value ≠ ""
  | .list _ | .object _ => true

/-- A whole number that no double is near. -/
def Oversized (datum : Datum) : Prop :=
  ∃ value : Int, datum = .whole value ∧ Double.wholeLimit ≤ value.natAbs

theorem oversized_whole_iff (value : Int) :
    Oversized (.whole value) ↔ Double.wholeLimit ≤ value.natAbs := by
  simp [Oversized]

theorem wholeLimit_pos : 0 < Double.wholeLimit := by
  decide +kernel

theorem truthy_eq_ok {datum : Datum} (small : ¬ Oversized datum) :
    truthy datum = .ok (truthOf datum) := by
  cases datum with
  | number value =>
      cases value with
      | whole value =>
          have bounded : value.natAbs < Double.wholeLimit := by
            rwa [oversized_whole_iff, Nat.not_le] at small
          by_cases zero : value = 0
          · simp [truthy, truthOf, Number.extent, zero]
          · have exact_ne : (value : Rat) ≠ 0 := by
              rwa [ne_eq, Rat.intCast_eq_zero_iff]
            simp [truthy, truthOf, Number.extent, zero, bounded, exact_ne]
      | double value =>
          rw [truthy, truthOf, Number.extent]
          cases Extent.ofFloat value <;> rfl
  | _ => rfl

theorem truthy_eq_error {datum : Datum} (large : Oversized datum) :
    truthy datum = .error .tooLarge := by
  obtain ⟨value, rfl, beyond⟩ := large
  have nonzero : value ≠ 0 := by
    rintro rfl
    exact absurd beyond (Nat.not_le.mpr wholeLimit_pos)
  rw [truthy, if_neg nonzero, if_neg (Nat.not_lt.mpr beyond)]

/-! ## Paths -/

/-- A segment of ASCII characters, few enough to be read as a number. -/
structure PlainSegment (segment : String) : Prop where
  ascii : ∀ character ∈ segment.toList, Text.isAscii character = true
  short : segment.toList.length ≤ Reading.longest

/-- A condition all of whose paths consist of plain segments. -/
def Expression.Plain (tree : Expression) : Prop :=
  ∀ path ∈ tree.paths, ∀ segment ∈ path, PlainSegment segment

/-- The value that a path leads to, null also where a segment is no index. -/
def find (context : Datum) (segments : List String) : Datum :=
  (resolve context segments).toOption.getD .null

/-- The digit signs of ASCII are its decimal digits. -/
theorem isDigitSign_ascii {character : Char} (ascii : Text.isAscii character = true) :
    Text.isDigitSign character = Text.isDecimalDigit character := by
  have beyond : Text.Ranges.holds Text.Ranges.digitSigns character.toNat = false := by
    have starts : ∀ range ∈ Text.Ranges.digitSigns, 128 ≤ range.1 := by decide
    have small : character.toNat < 128 := by
      simpa [Text.isAscii, UInt32.lt_iff_toNat_lt] using ascii
    rw [Text.Ranges.holds, List.any_eq_false]
    intro range member
    have start := starts range member
    simp only [Bool.and_eq_true, decide_eq_true_eq, not_and]
    omega
  rw [Text.isDigitSign, beyond, Bool.or_false]

/-- Plain segments are indices or not, without a fault. -/
theorem index?_plain {segment : String} (plain : PlainSegment segment) :
    ∃ index, index? segment = .ok index := by
  unfold index?
  dsimp only
  split
  · exact ⟨none, rfl⟩
  · rename_i signs
    rw [Bool.or_eq_true, not_or, Bool.not_eq_true', Bool.not_eq_false] at signs
    have digits : segment.toList.takeWhile Text.isDecimalDigit = segment.toList := by
      rw [List.takeWhile_eq_self_iff]
      intro character member
      rw [← isDigitSign_ascii (plain.ascii character member)]
      exact List.all_eq_true.mp signs.2 character member
    rw [digits, if_neg (Nat.not_lt.mpr plain.short), if_pos rfl]
    exact ⟨_, rfl⟩

/-- Paths of plain segments lead somewhere or to null. -/
theorem resolve_plain (context : Datum) {segments : List String}
    (plain : ∀ segment ∈ segments, PlainSegment segment) :
    resolve context segments = .ok (find context segments) := by
  have total : ∃ value, resolve context segments = .ok value := by
    induction segments generalizing context with
    | nil => exact ⟨context, by rw [resolve]⟩
    | cons segment others induction =>
        rw [List.forall_mem_cons] at plain
        obtain ⟨segment_plain, others_plain⟩ := plain
        cases context with
        | object fields =>
            rw [resolve]
            cases Datum.lookup segment fields with
            | none => exact ⟨.null, rfl⟩
            | some value => exact induction value others_plain
        | list items =>
            obtain ⟨index, index_eq⟩ := index?_plain segment_plain
            rw [resolve, index_eq]
            cases index with
            | none => exact ⟨.null, rfl⟩
            | some index =>
                cases item_eq : items[index]? with
                | none => exact ⟨.null, by simp [bind, Except.bind, item_eq, pure, Except.pure]⟩
                | some item =>
                    obtain ⟨value, found⟩ := induction item others_plain
                    exact ⟨value, by simpa [bind, Except.bind, item_eq] using found⟩
        | _ => exact ⟨.null, by rw [resolve] <;> simp⟩
  obtain ⟨value, found⟩ := total
  rw [find, found]
  rfl

/-! ## Values and what is asked about -/

/-- Whether two data are joined by a binary operator; `shared` as in `equals`. -/
def joins (shared : Bool) : BinaryOperator → Datum → Datum → Bool
  | .conjunction, left, right => truthOf left && truthOf right
  | .disjunction, left, right => truthOf left || truthOf right
  | .equal, left, right => equals shared left right
  | .unequal, left, right => !equals shared left right
  | operator, left, right => compares operator left right

namespace Expression

/-- The value of an expression, if every number has a truth value. -/
def meaning (context : Datum) : Expression → Datum
  | .literal constant => constant.value
  | .path segments => find context segments
  | .unary .negation operand => .truth !truthOf (operand.meaning context)
  | .unary .opposite operand =>
      match operand.meaning context with
      | .number value => .number value.neg
      | _ => .null
  | .binary operator left right =>
      .truth (joins (samePlace context left right) operator (left.meaning context)
        (right.meaning context))

/-- The data whose truth values evaluation asks for, in order. -/
def asked (context : Datum) : Expression → List Datum
  | .literal _ | .path _ => []
  | .unary .negation operand => operand.asked context ++ [operand.meaning context]
  | .unary .opposite operand => operand.asked context
  | .binary .conjunction left right =>
      left.asked context ++ left.meaning context ::
        if truthOf (left.meaning context) then right.asked context ++ [right.meaning context]
        else []
  | .binary .disjunction left right =>
      left.asked context ++ left.meaning context ::
        if truthOf (left.meaning context) then []
        else right.asked context ++ [right.meaning context]
  | .binary _ left right => left.asked context ++ right.asked context

/-- The data whose truth values a judgement asks for: those of evaluation, and the value. -/
def judged (context : Datum) (tree : Expression) : List Datum :=
  tree.asked context ++ [tree.meaning context]

theorem plain_unary_iff (operator : UnaryOperator) (operand : Expression) :
    (Expression.unary operator operand).Plain ↔ operand.Plain :=
  Iff.rfl

theorem plain_binary_iff (operator : BinaryOperator) (left right : Expression) :
    (Expression.binary operator left right).Plain ↔ left.Plain ∧ right.Plain :=
  List.forall_mem_append

end Expression

/-! ## Operators over judgements -/

/-- What evaluation makes of the truth value of an operand. -/
theorem map_holds (context : Datum) (tree : Expression) (result : Bool → Datum) :
    (tree.holds context).map result =
      tree.eval context >>= fun value => truthy value >>= fun truth => pure (result truth) := by
  rw [Expression.holds]
  cases tree.eval context with
  | error fault => rfl
  | ok value =>
      simp only [bind, Except.bind]
      cases truthy value <;> rfl

theorem eval_negation (context : Datum) (operand : Expression) :
    (Expression.unary .negation operand).eval context =
      (operand.holds context).map fun truth => .truth !truth := by
  rw [map_holds, Expression.eval]

/-- The truth value on the left that settles a junction without its right operand. -/
def settling? : BinaryOperator → Option Bool
  | .conjunction => some false
  | .disjunction => some true
  | _ => none

section Binary

variable {operator : BinaryOperator} {settling : Bool} (context : Datum) (left right : Expression)

theorem eval_junction (junction : settling? operator = some settling) :
    (Expression.binary operator left right).eval context =
      left.holds context >>= fun truth =>
        if truth = settling then .ok (.truth settling)
        else (right.holds context).map .truth := by
  have right_eq := map_holds context right .truth
  cases operator with
  | conjunction =>
      cases junction
      rw [Expression.eval, Expression.holds, right_eq, bind_assoc]
      refine bind_congr fun value => bind_congr fun truth => ?_
      cases truth <;> rfl
  | disjunction =>
      cases junction
      rw [Expression.eval, Expression.holds, right_eq, bind_assoc]
      refine bind_congr fun value => bind_congr fun truth => ?_
      cases truth <;> rfl
  | _ => cases junction

theorem asked_junction (junction : settling? operator = some settling) :
    (Expression.binary operator left right).asked context =
      left.judged context ++
        if truthOf (left.meaning context) = settling then [] else right.judged context := by
  cases operator with
  | conjunction =>
      cases junction
      rw [Expression.asked, Expression.judged, Expression.judged, List.append_assoc]
      cases truthOf (left.meaning context) <;> rfl
  | disjunction =>
      cases junction
      rw [Expression.asked, Expression.judged, Expression.judged, List.append_assoc]
      cases truthOf (left.meaning context) <;> rfl
  | _ => cases junction

theorem meaning_junction (junction : settling? operator = some settling) :
    (Expression.binary operator left right).meaning context =
      .truth (if truthOf (left.meaning context) = settling then settling
        else truthOf (right.meaning context)) := by
  rw [Expression.meaning]
  cases operator with
  | conjunction =>
      cases junction
      cases truthOf_left : truthOf (left.meaning context) <;> simp [joins, truthOf_left]
  | disjunction =>
      cases junction
      cases truthOf_left : truthOf (left.meaning context) <;> simp [joins, truthOf_left]
  | _ => cases junction

/-- An operator that is no junction evaluates both operands, the left one first. -/
theorem eval_strict (strict : settling? operator = none) :
    (Expression.binary operator left right).eval context =
      left.eval context >>= fun first => right.eval context >>= fun second =>
        .ok (.truth (joins (samePlace context left right) operator first second)) := by
  cases operator with
  | conjunction | disjunction => cases strict
  | _ => rfl

theorem asked_strict (strict : settling? operator = none) :
    (Expression.binary operator left right).asked context =
      left.asked context ++ right.asked context := by
  cases operator with
  | conjunction | disjunction => cases strict
  | _ => rfl

end Binary

/-! ## Evaluation -/

/-- The parts of a row that holds something oversized. -/
theorem exists_oversized_append_iff (first second : List Datum) :
    (∃ datum ∈ first ++ second, Oversized datum) ↔
      (∃ datum ∈ first, Oversized datum) ∨
        (∀ datum ∈ first, ¬ Oversized datum) ∧ ∃ datum ∈ second, Oversized datum := by
  by_cases early : ∃ datum ∈ first, Oversized datum
  · obtain ⟨datum, member, large⟩ := early
    constructor
    · intro _
      exact .inl ⟨datum, member, large⟩
    · intro _
      exact ⟨datum, List.mem_append_left second member, large⟩
  · simp only [not_exists, not_and] at early
    constructor
    · rintro ⟨datum, member, large⟩
      rcases List.mem_append.mp member with member | member
      · exact absurd large (early datum member)
      · exact .inr ⟨early, datum, member, large⟩
    · rintro (⟨datum, member, large⟩ | ⟨_, datum, member, large⟩)
      · exact absurd large (early datum member)
      · exact ⟨datum, List.mem_append_right first member, large⟩

section Judgement

variable {context : Datum} {tree : Expression}

/-- A judgement tells the truth of a small value. -/
theorem holds_of_eval_ok (evaluated : tree.eval context = .ok (tree.meaning context))
    (small : ¬ Oversized (tree.meaning context)) :
    tree.holds context = .ok (truthOf (tree.meaning context)) := by
  rw [Expression.holds, evaluated]
  exact truthy_eq_ok small

theorem holds_of_eval_error {fault : EvaluationFault} (failed : tree.eval context = .error fault) :
    tree.holds context = .error fault := by
  rw [Expression.holds, failed]
  rfl

/-- Evaluation that asks about nothing oversized gives the meaning. -/
theorem eval_eq_ok (plain : tree.Plain) (small : ∀ datum ∈ tree.asked context, ¬ Oversized datum) :
    tree.eval context = .ok (tree.meaning context) := by
  induction tree with
  | literal constant => rfl
  | path segments => exact resolve_plain context (plain segments List.mem_cons_self)
  | unary operator operand induction =>
      rw [Expression.plain_unary_iff] at plain
      cases operator with
      | negation =>
          rw [Expression.asked, List.forall_mem_append, List.forall_mem_singleton] at small
          obtain ⟨operand_small, value_small⟩ := small
          rw [eval_negation, holds_of_eval_ok (induction plain operand_small) value_small]
          rfl
      | opposite =>
          rw [Expression.asked] at small
          rw [Expression.eval, induction plain small, Expression.meaning]
          simp only [bind, Except.bind]
          cases operand.meaning context <;> rfl
  | binary operator left right left_induction right_induction =>
      rw [Expression.plain_binary_iff] at plain
      obtain ⟨left_plain, right_plain⟩ := plain
      cases junction : settling? operator with
      | none =>
          rw [asked_strict context left right junction, List.forall_mem_append] at small
          obtain ⟨left_small, right_small⟩ := small
          rw [eval_strict context left right junction, left_induction left_plain left_small,
            right_induction right_plain right_small]
          rfl
      | some settling =>
          rw [asked_junction context left right junction, List.forall_mem_append,
            Expression.judged, List.forall_mem_append, List.forall_mem_singleton] at small
          obtain ⟨⟨left_small, left_value_small⟩, right_small⟩ := small
          rw [eval_junction context left right junction, meaning_junction context left right junction,
            holds_of_eval_ok (left_induction left_plain left_small) left_value_small]
          simp only [bind, Except.bind]
          split
          · rfl
          · rename_i unsettled
            rw [if_neg unsettled, Expression.judged, List.forall_mem_append,
              List.forall_mem_singleton] at right_small
            rw [holds_of_eval_ok (right_induction right_plain right_small.1) right_small.2]
            rfl

/-- A judgement that asks about nothing oversized tells the truth of the meaning. -/
theorem holds_eq_ok (plain : tree.Plain) (small : ∀ datum ∈ tree.judged context, ¬ Oversized datum) :
    tree.holds context = .ok (truthOf (tree.meaning context)) := by
  rw [Expression.judged, List.forall_mem_append, List.forall_mem_singleton] at small
  obtain ⟨asked_small, value_small⟩ := small
  exact holds_of_eval_ok (eval_eq_ok plain asked_small) value_small

/-- If evaluation fails for what it asks about, so does a judgement. -/
theorem holds_of_large (plain : tree.Plain)
    (failing : (∃ datum ∈ tree.asked context, Oversized datum) →
      tree.eval context = .error .tooLarge)
    (large : ∃ datum ∈ tree.judged context, Oversized datum) :
    tree.holds context = .error .tooLarge := by
  rw [Expression.judged, exists_oversized_append_iff] at large
  rcases large with large | ⟨small, large⟩
  · exact holds_of_eval_error (failing large)
  · simp only [List.mem_singleton, exists_eq_left] at large
    rw [Expression.holds, eval_eq_ok plain small]
    exact truthy_eq_error large

/-- Evaluation that asks about something oversized fails for that. -/
theorem eval_eq_error (plain : tree.Plain) (large : ∃ datum ∈ tree.asked context, Oversized datum) :
    tree.eval context = .error .tooLarge := by
  induction tree with
  | literal constant => simp [Expression.asked] at large
  | path segments => simp [Expression.asked] at large
  | unary operator operand induction =>
      rw [Expression.plain_unary_iff] at plain
      cases operator with
      | negation =>
          have judged_large : ∃ datum ∈ operand.judged context, Oversized datum := large
          rw [eval_negation, holds_of_large plain (induction plain) judged_large]
          rfl
      | opposite =>
          rw [Expression.eval, induction plain large]
          rfl
  | binary operator left right left_induction right_induction =>
      rw [Expression.plain_binary_iff] at plain
      obtain ⟨left_plain, right_plain⟩ := plain
      cases junction : settling? operator with
      | none =>
          rw [asked_strict context left right junction, exists_oversized_append_iff] at large
          rw [eval_strict context left right junction]
          rcases large with large | ⟨small, large⟩
          · rw [left_induction left_plain large]
            rfl
          · rw [eval_eq_ok left_plain small, right_induction right_plain large]
            rfl
      | some settling =>
          rw [asked_junction context left right junction, exists_oversized_append_iff] at large
          rw [eval_junction context left right junction]
          rcases large with large | ⟨small, large⟩
          · rw [holds_of_large left_plain (left_induction left_plain) large]
            rfl
          · rw [holds_eq_ok left_plain small]
            simp only [bind, Except.bind]
            split at large
            · obtain ⟨datum, member, _⟩ := large
              contradiction
            · rename_i unsettled
              rw [if_neg unsettled, holds_of_large right_plain (right_induction right_plain) large]
              rfl

/-- A judgement that asks about something oversized fails for that. -/
theorem holds_eq_error (plain : tree.Plain)
    (large : ∃ datum ∈ tree.judged context, Oversized datum) :
    tree.holds context = .error .tooLarge :=
  holds_of_large plain (eval_eq_error plain) large

end Judgement

end Appraisal.Condition
