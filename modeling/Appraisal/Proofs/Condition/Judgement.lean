import Appraisal.Proofs.Condition.Composition
import Appraisal.Proofs.Condition.View

/-!
# When a condition has a truth value

A text that is no condition is refused for that, in every context.  The condition of any other text
has a truth value, unless the truth value of an oversized whole number is asked for on the way to
it; nothing else can go wrong (`evaluate_exact`).  All whole numbers that conditions come upon are
constants of theirs or stand in the context, or are the opposites of such numbers, so that there is
always a truth value if none of these is oversized.
-/

namespace Appraisal

/-- A datum stands in another one, at any depth; every datum stands in itself. -/
inductive Datum.Within (inner : Datum) : Datum → Prop
  | self : Within inner inner
  | item {items : List Datum} {item : Datum} (member : item ∈ items)
      (deeper : Within inner item) : Within inner (.list items)
  | field {fields : List (String × Datum)} {entry : String × Datum} (member : entry ∈ fields)
      (deeper : Within inner entry.2) : Within inner (.object fields)

namespace Condition

/-- The constants of a tree, from left to right. -/
def Expression.literals : Expression → List Literal
  | .literal value => [value]
  | .path _ => []
  | .unary _ operand => operand.literals
  | .binary _ left right => left.literals ++ right.literals

/-- No whole number of a tree or of its context is oversized. -/
structure Moderate (context : Datum) (tree : Expression) : Prop where
  constants : ∀ value, .whole value ∈ tree.literals → value < Double.wholeLimit
  data : ∀ datum : Datum, datum.Within context → ¬ Oversized datum

namespace Moderate

variable {context : Datum}

theorem operand {operator : UnaryOperator} {operand : Expression}
    (moderate : Moderate context (.unary operator operand)) : Moderate context operand :=
  ⟨moderate.constants, moderate.data⟩

theorem left {operator : BinaryOperator} {left right : Expression}
    (moderate : Moderate context (.binary operator left right)) : Moderate context left :=
  ⟨fun value member => moderate.constants value (List.mem_append_left _ member), moderate.data⟩

theorem right {operator : BinaryOperator} {left right : Expression}
    (moderate : Moderate context (.binary operator left right)) : Moderate context right :=
  ⟨fun value member => moderate.constants value (List.mem_append_right _ member), moderate.data⟩

end Moderate

theorem not_oversized_truth (value : Bool) : ¬ Oversized (.truth value) := by
  rintro ⟨number, ⟨⟩, _⟩

/-- The opposite of a number is as large as the number. -/
theorem oversized_neg_iff (value : Number) :
    Oversized (.number value.neg) ↔ Oversized (.number value) := by
  cases value with
  | whole value =>
      change Oversized (.whole (-value)) ↔ Oversized (.whole value)
      rw [oversized_whole_iff, oversized_whole_iff, Int.natAbs_neg]
  | double value =>
      constructor <;> rintro ⟨number, ⟨⟩, _⟩

section Values

variable {context : Datum}

/-- A path finds null or what stands in the context. -/
theorem not_oversized_find (small : ∀ datum : Datum, datum.Within context → ¬ Oversized datum)
    (path : List String) : ¬ Oversized (find context path) := by
  have all_small : ∀ datum : Datum, datum.Within (find context path) → ¬ Oversized datum := by
    refine find_induction (fun found => ∀ datum : Datum, datum.Within found → ¬ Oversized datum)
      ?_ ?_ ?_ small path
    · rintro datum ⟨⟩ ⟨number, ⟨⟩, _⟩
    · intro fields key value fields_small found datum within
      exact fields_small datum (.field (Datum.mem_of_lookup found) within)
    · intro items index value items_small found datum within
      exact items_small datum (.item (List.mem_of_getElem? found) within)
  exact all_small _ .self

theorem not_oversized_meaning {tree : Expression} (moderate : Moderate context tree) :
    ¬ Oversized (tree.meaning context) := by
  induction tree with
  | literal constant =>
      rw [Expression.meaning]
      rintro ⟨number, value_eq, beyond⟩
      cases constant with
      | whole value =>
          cases value_eq
          have below := moderate.constants value List.mem_cons_self
          rw [Int.natAbs_natCast] at beyond
          omega
      | _ => cases value_eq
  | path segments => exact not_oversized_find moderate.data segments
  | unary operator operand induction =>
      cases operator with
      | negation => exact not_oversized_truth _
      | opposite =>
          have operand_small := induction moderate.operand
          rw [Expression.meaning]
          cases value_eq : operand.meaning context with
          | number value =>
              rw [value_eq] at operand_small
              exact mt (oversized_neg_iff value).mp operand_small
          | _ => rintro ⟨number, ⟨⟩, _⟩
  | binary operator left right => exact not_oversized_truth _

/-- Nothing oversized is asked about if no number is oversized. -/
theorem not_oversized_of_mem_asked {tree : Expression} (moderate : Moderate context tree) :
    ∀ datum ∈ tree.asked context, ¬ Oversized datum := by
  induction tree with
  | literal constant => simp [Expression.asked]
  | path segments => simp [Expression.asked]
  | unary operator operand induction =>
      have operand_small := induction moderate.operand
      cases operator with
      | negation =>
          rw [Expression.asked, List.forall_mem_append, List.forall_mem_singleton]
          exact ⟨operand_small, not_oversized_meaning moderate.operand⟩
      | opposite => exact operand_small
  | binary operator left right left_induction right_induction =>
      have left_small := left_induction moderate.left
      have right_small := right_induction moderate.right
      cases junction : settling? operator with
      | none =>
          rw [asked_strict context left right junction, List.forall_mem_append]
          exact ⟨left_small, right_small⟩
      | some settling =>
          rw [asked_junction context left right junction, Expression.judged, Expression.judged]
          simp only [List.forall_mem_append, List.forall_mem_singleton]
          refine ⟨⟨left_small, not_oversized_meaning moderate.left⟩, ?_⟩
          split
          · simp
          · rw [List.forall_mem_append, List.forall_mem_singleton]
            exact ⟨right_small, not_oversized_meaning moderate.right⟩

theorem not_oversized_of_mem_judged {tree : Expression} (moderate : Moderate context tree) :
    ∀ datum ∈ tree.judged context, ¬ Oversized datum := by
  rw [Expression.judged, List.forall_mem_append, List.forall_mem_singleton]
  exact ⟨not_oversized_of_mem_asked moderate, not_oversized_meaning moderate⟩

end Values

/--
A text fails as a condition exactly if it is none, and for the same reason.  If it is one, judging
it fails for an oversized number exactly if it asks for the truth value of one, and else it gives a
truth value.  It does so in particular if no whole number of the condition or of the context is
oversized.
-/
theorem evaluate_exact (text : String) (context : Datum) :
    (∀ fault, evaluate text context = .error (.fault fault) ↔ parse text = .error fault) ∧
      ∀ tree, parse text = .ok tree →
        (∀ fault, evaluate text context = .error (.evaluation fault) ↔
          fault = .tooLarge ∧ ∃ datum ∈ tree.judged context, Oversized datum) ∧
        ((∀ datum ∈ tree.judged context, ¬ Oversized datum) →
          evaluate text context = .ok (truthOf (tree.meaning context))) ∧
        (Moderate context tree → ∃ truth, evaluate text context = .ok truth) := by
  constructor
  · intro fault
    cases parsed : parse text with
    | error other => simp [evaluate, parsed]
    | ok tree =>
        rw [evaluate_of_parse parsed]
        cases tree.holds context <;> simp [Except.mapError]
  · intro tree parsed
    have plain := parse_plain parsed
    have judged_eq := evaluate_of_parse parsed context
    have small_eq (small : ∀ datum ∈ tree.judged context, ¬ Oversized datum) :
        evaluate text context = .ok (truthOf (tree.meaning context)) := by
      rw [judged_eq, holds_eq_ok plain small]
      rfl
    refine ⟨?_, small_eq, fun moderate => ⟨_, small_eq (not_oversized_of_mem_judged moderate)⟩⟩
    intro fault
    by_cases large : ∃ datum ∈ tree.judged context, Oversized datum
    · rw [judged_eq, holds_eq_error plain large]
      simp [Except.mapError, large, eq_comm]
    · rw [small_eq (by simpa using large)]
      simp [large]

/--
Not a, and the opposite of n: without an oversized number this has a truth value, and with one it
has none if the number is asked about.
-/
theorem evaluate_exact_of_junction :
    let text := "!a && -n"
    let tree : Expression :=
      .binary .conjunction (.unary .negation (.path ["a"])) (.unary .opposite (.path ["n"]))
    let small : Datum := .object [("n", .whole 5)]
    let large : Datum := .object [("n", .whole (Int.pow 2 1024))]
    let settled : Datum := .object [("n", .whole (Int.pow 2 1024)), ("a", .truth true)]
    parse text = .ok tree ∧ Moderate small tree ∧ (∃ truth, evaluate text small = .ok truth) ∧
      evaluate text large = .error (.evaluation .tooLarge) ∧
      evaluate text settled = .ok false := by
  intro text tree small large settled
  have parsed : parse text = .ok tree := by
    decide +kernel
  have moderate : Moderate small tree := by
    constructor
    · intro value member
      simp [tree, Expression.literals] at member
    · intro datum within oversized
      change datum.Within (.object [("n", .whole 5)]) at within
      cases within with
      | self => obtain ⟨number, ⟨⟩, _⟩ := oversized
      | field member deeper =>
          obtain rfl := List.mem_singleton.mp member
          cases deeper
          rw [oversized_whole_iff] at oversized
          exact absurd oversized (by decide +kernel)
  have asked : ∃ datum ∈ tree.judged large, Oversized datum := by
    refine ⟨.whole (-Int.pow 2 1024), ?_, ?_⟩
    · have unsettled : ¬ truthOf (.truth true) = false := by decide
      rw [Expression.judged, asked_junction large _ _ rfl]
      apply List.mem_append_left
      apply List.mem_append_right
      change _ ∈ if truthOf (.truth true) = false then _ else _
      rw [if_neg unsettled]
      exact List.mem_cons_self
    · rw [oversized_whole_iff]
      decide +kernel
  have unasked : ∀ datum ∈ tree.judged settled, ¬ Oversized datum := by
    have judged_eq : tree.judged settled = [.truth true, .truth false, .truth false] := rfl
    simp [judged_eq, not_oversized_truth]
  refine ⟨parsed, moderate, ?_, ?_, ?_⟩
  · exact ((evaluate_exact text small).2 tree parsed).2.2 moderate
  · exact (((evaluate_exact text large).2 tree parsed).1 .tooLarge).mpr ⟨rfl, asked⟩
  · exact ((evaluate_exact text settled).2 tree parsed).2.1 unasked

end Condition

end Appraisal
