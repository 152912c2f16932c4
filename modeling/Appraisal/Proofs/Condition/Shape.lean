import Appraisal.Proofs.Condition.Composition
import Appraisal.Proofs.Number.Unsigned

/-!
# The shape of parsed trees

The two budgets are spent along the text, but they bound the tree.  Every unary operator of a branch
is one of the nestings that the leaf of the branch lies inside, and every binary operator of the tree
is one of the operators that were paid for; parentheses leave nothing in the tree.  So no branch is
longer than both budgets together allow, whatever the text (`height_le_of_parse`).

The leaves are what the text spells: a path of ASCII words, a quoted text without quotes, a number
without a sign.
-/

namespace Appraisal.Condition

/-! ## Branches -/

/-- The unary operators of a branch are among the nestings of its leaf. -/
theorem Derivation.unaryDepth_tree_le {phrase : Phrase} (derivation : Derivation phrase) :
    derivation.tree.unaryDepth ≤ derivation.nesting := by
  induction derivation with
  | number | text | constant | path => exact Nat.le_refl 0
  | unary operator operand induction => exact Nat.succ_le_succ induction
  | enclosed inner induction => exact Nat.le_succ_of_le induction
  | single only induction => exact induction
  | binary operator placed left right left_induction right_induction =>
      rw [tree, Expression.unaryDepth, nesting]
      omega

section Parsed

variable {text : String} {tree : Expression} (parsed : parse text = .ok tree)
include parsed

/-- No branch of a parsed tree has more unary operators than there may be nestings. -/
theorem unaryDepth_le_of_parse : tree.unaryDepth ≤ 64 := by
  obtain ⟨_, _, derivation, _, rfl, fits⟩ := exists_derivation_of_parse parsed
  exact Nat.le_trans derivation.unaryDepth_tree_le (derivation.fits_iff.mp fits).1

theorem height_le_of_parse : tree.height ≤ 193 :=
  calc
    tree.height ≤ tree.binaryCount + tree.unaryDepth + 1 := tree.height_le
    _ ≤ 128 + 64 + 1 :=
      Nat.succ_le_succ
        (Nat.add_le_add (binaryCount_le_of_parse parsed) (unaryDepth_le_of_parse parsed))

/-- The leaves of a parsed tree are named by lexemes that have their shapes and are ASCII. -/
theorem exists_shaped_of_parse {node : Expression} (member : node ∈ tree.nodes)
    (leaf : node.isLeaf = true) :
    ∃ lexeme : Lexeme, lexeme.Names node ∧ lexeme.Shaped ∧
      ∀ character ∈ lexeme.spelling, Text.isAscii character = true := by
  obtain ⟨lexeme, left, rest, names, suffix, selected⟩ := exists_names_of_parse parsed member leaf
  refine ⟨lexeme, names, (lexeme?_selected selected).1, ?_⟩
  intro character mentioned
  have spelled : character ∈ left := by
    rw [← lexeme?_spelling selected]
    exact List.mem_append_left rest mentioned
  exact (safe_of_parse parsed character (suffix.mem spelled)).2

end Parsed

/-! ## Paths -/

/-- A segment that is a word of ASCII letters, digits and underscores. -/
structure WordSegment (segment : String) : Prop where
  nonempty : segment ≠ ""
  undivided : '.' ∉ segment.toList
  word : ∀ character ∈ segment.toList,
    Text.isWord character = true ∧ Text.isAscii character = true

/-- A path of words, the first of which starts with a letter or an underscore. -/
structure WordPath (segments : List String) : Prop where
  nonempty : segments ≠ []
  words : ∀ segment ∈ segments, WordSegment segment
  starts : ∀ segment ∈ segments.head?, ∀ character ∈ segment.toList.head?,
    Text.isPathStart character = true

theorem isWord_of_isPathStart {character : Char} (start : Text.isPathStart character = true) :
    Text.isWord character = true := by
  have ascii := isAscii_of_isPathStart start
  rw [Text.isPathStart, Bool.or_eq_true] at start
  rw [Text.isWord, Text.isAlphanumeric, if_pos ascii, Char.isAlphanum, Bool.or_eq_true,
    Bool.or_eq_true]
  exact start.imp_left .inl

theorem isPathPart_of_shaped {name : List Char} (shaped : (Lexeme.word name).Shaped) :
    ∀ character ∈ name, isPathPart character = true := by
  cases name with
  | nil => contradiction
  | cons first others =>
      obtain ⟨start, parts⟩ := shaped
      rw [List.forall_mem_cons]
      exact ⟨by simp [isPathPart, isWord_of_isPathStart start], List.all_eq_true.mp parts⟩

theorem head?_intercalate (separator : List Char) {part : List Char} (part_ne : part ≠ [])
    (others : List (List Char)) :
    (separator.intercalate (part :: others)).head? = part.head? := by
  cases others with
  | nil => rw [List.intercalate_singleton]
  | cons second rest =>
      rw [List.intercalate_cons_cons, List.append_assoc, List.head?_append_of_ne_nil _ part_ne]

/-- A word without empty segments is spelled as a path of words. -/
theorem wordPath_of_shaped {segments : List (List Char)} (segments_ne : segments ≠ [])
    (proper : ∀ segment ∈ segments, segment ≠ [] ∧ '.' ∉ segment)
    (shaped : (Lexeme.word (['.'].intercalate segments)).Shaped)
    (ascii : ∀ character ∈ ['.'].intercalate segments, Text.isAscii character = true) :
    WordPath (segments.map String.ofList) where
  nonempty := by simpa using segments_ne
  words := by
    rw [List.forall_mem_map]
    intro segment member
    obtain ⟨segment_ne, undivided⟩ := proper segment member
    refine ⟨by simpa using segment_ne, by simpa using undivided, ?_⟩
    intro character mentioned
    rw [String.toList_ofList] at mentioned
    have spelled : character ∈ ['.'].intercalate segments :=
      (Text.infix_intercalate member).mem mentioned
    have part := isPathPart_of_shaped shaped character spelled
    have different : character ≠ '.' := by
      rintro rfl
      exact undivided mentioned
    exact ⟨by simpa [isPathPart, different] using part, ascii character spelled⟩
  starts := by
    cases segments with
    | nil => contradiction
    | cons segment others =>
        have segment_ne := (proper segment List.mem_cons_self).1
        have head_eq := head?_intercalate ['.'] segment_ne others
        rintro _ ⟨⟩ character first
        rw [String.toList_ofList, ← head_eq] at first
        cases name_eq : ['.'].intercalate (segment :: others) with
        | nil => simp [name_eq] at first
        | cons start rest =>
            rw [name_eq] at first shaped
            obtain rfl := Option.some.inj first
            exact shaped.1

/-! ## Constants -/

/-- A text among the constants of a tree is quoted in its row. -/
theorem Lexeme.Names.text_eq {lexeme : Lexeme} {node : Expression} (names : lexeme.Names node)
    {content : String} (node_eq : node = .literal (.text content)) :
    lexeme = .text content.toList := by
  cases names with
  | number whole fraction =>
      have constant_eq := Expression.literal.inj node_eq
      cases fraction <;> contradiction
  | text characters =>
      obtain rfl : String.ofList characters = content := by simpa using node_eq
      rw [String.toList_ofList]
  | constant listed =>
      obtain rfl := Expression.literal.inj node_eq
      simp [constants] at listed
  | path => contradiction

/-- Constants are written without a sign. -/
theorem Literal.zero_atMost {constant : Literal} {number : Number}
    (value_eq : constant.value = .number number) : (0 : Number).atMost number = true := by
  cases constant with
  | whole value =>
      obtain rfl := Datum.number.inj value_eq
      exact (Number.whole_atMost_whole 0 value).trans (by simp)
  | decimal digits places =>
      obtain rfl := Datum.number.inj value_eq
      exact Number.zero_atMost_ofScientific digits true places
  | _ => contradiction

/--
A parsed tree is bounded, and its leaves are well-formed.  It has at most 128 binary operators, no
branch has more than 64 unary operators or more than 193 nodes, and evaluation, in any context, comes
to its end with no more calls than that nested in each other.  A path has a segment, all segments are
ASCII words without points, and the first of them starts with a letter or an underscore; a text is
ASCII without quotes; a number is not below zero.
-/
theorem parse_bounded {text : String} {tree : Expression} (parsed : parse text = .ok tree) :
    tree.nodes.countP Expression.isBinary ≤ 128 ∧
    (∀ branch ∈ tree.branches, branch.countP Expression.isUnary ≤ 64 ∧ branch.length ≤ 193) ∧
    (∀ context, tree.evalWithin context 193 = .ended (tree.eval context)) ∧
    (∀ segments, .path segments ∈ tree.nodes → WordPath segments) ∧
    (∀ content, .literal (.text content) ∈ tree.nodes →
      ∀ character ∈ content.toList, character ≠ '\'' ∧ Text.isAscii character = true) ∧
    (∀ constant number, .literal constant ∈ tree.nodes → constant.value = .number number →
      (0 : Number).atMost number = true) := by
  have low := height_le_of_parse parsed
  refine ⟨?_, ?_, ?_, ?_, ?_, ?_⟩
  · rw [tree.countP_isBinary_nodes]
    exact binaryCount_le_of_parse parsed
  · intro branch member
    exact ⟨Nat.le_trans (Expression.countP_isUnary_le member) (unaryDepth_le_of_parse parsed),
      Nat.le_trans (Expression.length_le_height member) low⟩
  · intro context
    exact Expression.evalWithin_of_height_le context low
  · intro segments member
    obtain ⟨lexeme, names, shaped, ascii⟩ := exists_shaped_of_parse parsed member rfl
    cases names with
    | path segments_ne proper => exact wordPath_of_shaped segments_ne proper shaped ascii
  · intro content member character mentioned
    obtain ⟨lexeme, names, shaped, ascii⟩ := exists_shaped_of_parse parsed member rfl
    obtain rfl := names.text_eq rfl
    refine ⟨?_, ascii character ?_⟩
    · rintro rfl
      exact shaped mentioned
    · simp [Lexeme.spelling, mentioned]
  · intro constant number _ value_eq
    exact Literal.zero_atMost value_eq

/--
Both budgets can be used up on one branch: a path behind 64 negations, compared 127 times and then
tested for equality.  Its evaluation needs all the calls that may be nested.
-/
theorem parse_bounded_of_full_budgets :
    let characters := List.replicate 64 '!' ++ "a.b_1".toList ++
      (List.replicate 127 "<0.5".toList).flatten ++ "=='x y'".toList
    let negated : Expression := Nat.repeat (.unary .negation) 64 (.path ["a", "b_1"])
    let compared : Expression :=
      Nat.repeat (Expression.binary .less · (.literal (.decimal 5 1))) 127 negated
    let tree : Expression := .binary .equal compared (.literal (.text "x y"))
    parse (String.ofList characters) = .ok tree ∧ tree.nodes.countP Expression.isBinary = 128 ∧
      (∃ branch ∈ tree.branches, branch.countP Expression.isUnary = 64 ∧ branch.length = 193) ∧
      (∀ branch ∈ tree.branches, branch.countP Expression.isUnary ≤ 64 ∧ branch.length ≤ 193) ∧
      (tree.evalWithin .null 192).run.isNone = true ∧
      tree.evalWithin .null 193 = .ended (tree.eval .null) ∧ WordPath ["a", "b_1"] := by
  intro characters negated compared tree
  have parsed : parse (String.ofList characters) = .ok tree := by
    rw [parse, String.toList_ofList]
    decide +kernel
  have longest :
      ∃ branch ∈ tree.branches, branch.countP Expression.isUnary = 64 ∧ branch.length = 193 := by
    decide +kernel
  have named : .path ["a", "b_1"] ∈ tree.nodes := by decide +kernel
  obtain ⟨_, short, evaluated, words, _⟩ := parse_bounded parsed
  exact ⟨parsed, by decide +kernel, longest, short, by decide +kernel, evaluated .null,
    words _ named⟩

end Appraisal.Condition
