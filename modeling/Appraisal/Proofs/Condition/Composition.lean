import Appraisal.Proofs.Condition.Splitting

/-!
# Composed conditions

Two conditions in parentheses with an operator between them, and the negation of a condition in
parentheses.  A closing parenthesis belongs to no other lexeme, so the tokens of the parts are those
of the whole (`reads_append`); and a derivation in parentheses is an operand, which any operator may
join (`exists_joined`).  The limits add up: a parenthesis and a unary operator cost one nesting
each, a binary operator one operator.
-/

namespace Appraisal.Condition

/-- Two conditions in parentheses, with an operator between them. -/
def joinedText (operator : BinaryOperator) (first second : String) : String :=
  "(" ++ first ++ ") " ++ String.ofList operator.spelling ++ " (" ++ second ++ ")"

/-- The negation of a condition in parentheses. -/
def negatedText (text : String) : String :=
  "!(" ++ text ++ ")"

/-- A text is derived with no more parentheses and unary operators around any token than a limit. -/
def NestsWithin (limit : Nat) (text : String) : Prop :=
  ∃ row, tokens text.toList = .ok row ∧
    ∃ derivation : Derivation .condition,
      row.map Token.lexeme = derivation.lexemes ∧ ∀ entry ∈ derivation.yield, entry.2 ≤ limit

/-! ## The tokens of a whole -/

/-- A text is read as a row of lexemes, whatever stands before it. -/
def Reads (text : List Char) (lexemes : List Lexeme) : Prop :=
  ∀ position, ∃ row, tokensFrom text position = .ok row ∧ row.map Token.lexeme = lexemes

namespace Reads

theorem nil : Reads [] [] := by
  intro position
  exact ⟨[], by rw [tokensFrom], rfl⟩

theorem blank {character : Char} (white : Text.isBlank character = true) {rest : List Char}
    {lexemes : List Lexeme} (reads : Reads rest lexemes) : Reads (character :: rest) lexemes := by
  intro position
  rw [tokensFrom_blank white]
  exact reads (position + 1)

theorem lexeme (lexeme : Lexeme) (shaped : lexeme.Shaped) {rest : List Char}
    (ends : lexeme.EndsBefore rest) {lexemes : List Lexeme} (reads : Reads rest lexemes) :
    Reads (lexeme.spelling ++ rest) (lexeme :: lexemes) := by
  intro position
  obtain ⟨first, others, spelling_eq, visible⟩ := shaped.spelling_eq
  have found := lexeme?_of_selected shaped ends
  rw [spelling_eq, List.cons_append] at found ⊢
  obtain ⟨row, row_eq, rfl⟩ := reads (position + lexeme.spelling.length)
  refine ⟨⟨lexeme, position⟩ :: row, ?_, rfl⟩
  rw [tokensFrom_lexeme (by simp [visible]) found, row_eq]
  rfl

end Reads

/-- A closing parenthesis ends what comes before it. -/
theorem stopsAt_append_closing {property : Char → Bool} (other : property ')' = false)
    {after : List Char} (stops : StopsAt property after) (rest : List Char) :
    StopsAt property (after ++ ')' :: rest) := by
  cases after with
  | nil =>
      rintro _ ⟨⟩
      exact other
  | cons next others =>
      rintro _ ⟨⟩
      exact stops next rfl

theorem Lexeme.EndsBefore.append_closing {lexeme : Lexeme} {after : List Char}
    (ends : lexeme.EndsBefore after) (rest : List Char) :
    lexeme.EndsBefore (after ++ ')' :: rest) := by
  cases lexeme with
  | number whole fraction =>
      cases fraction with
      | none =>
          refine ⟨stopsAt_append_closing (by decide) ends.1 rest, ?_⟩
          intro next others same
          cases after with
          | nil => simp at same
          | cons head tail =>
              obtain ⟨rfl, tail_eq⟩ := List.cons.inj same
              cases tail with
              | nil =>
                  obtain ⟨rfl, _⟩ := List.cons.inj tail_eq
                  decide
              | cons second others =>
                  obtain ⟨rfl, _⟩ := List.cons.inj tail_eq
                  exact ends.2 second others rfl
      | some fraction => exact stopsAt_append_closing (by decide) ends rest
  | word name => exact stopsAt_append_closing (by decide) ends rest
  | binary operator =>
      cases operator with
      | less | greater => exact stopsAt_append_closing (by decide) ends rest
      | _ => trivial
  | unary operator =>
      cases operator with
      | negation => exact stopsAt_append_closing (by decide) ends rest
      | opposite => trivial
  | _ => trivial

/-- A text keeps its lexemes in front of a closing parenthesis. -/
theorem reads_append {text : List Char} {position : Nat} {row : List Token}
    (found : tokensFrom text position = .ok row) {rest : List Char} {lexemes : List Lexeme}
    (reads : Reads (')' :: rest) lexemes) :
    Reads (text ++ ')' :: rest) (row.map Token.lexeme ++ lexemes) := by
  induction text, position using tokensFrom.induct generalizing row with
  | case1 position =>
      rw [tokensFrom] at found
      cases found
      exact reads
  | case2 position first others white induction =>
      rw [tokensFrom_blank white] at found
      exact (induction found).blank white
  | case3 position first others visible missing =>
      rw [tokensFrom_none visible missing] at found
      contradiction
  | case4 position first others visible lexeme after first_found induction =>
      obtain ⟨text_eq, shaped, ends⟩ := (lexeme?_eq_some_iff _ _ _).mp first_found
      rw [tokensFrom_lexeme visible first_found] at found
      cases further : tokensFrom after (position + lexeme.spelling.length) with
      | error fault =>
          rw [further] at found
          contradiction
      | ok others_row =>
          rw [further] at found
          cases found
          rw [text_eq, List.append_assoc]
          exact (induction further).lexeme lexeme shaped (ends.append_closing rest)

/-- A text in parentheses is read as its lexemes in parentheses. -/
theorem reads_enclosed {text : String} {row : List Token} (found : tokens text.toList = .ok row)
    {rest : List Char} {lexemes : List Lexeme} (reads : Reads rest lexemes) :
    Reads ('(' :: (text.toList ++ ')' :: rest))
      (.opening :: (row.map Token.lexeme ++ .closing :: lexemes)) :=
  (reads_append found (reads.lexeme .closing trivial trivial)).lexeme .opening trivial trivial

theorem toList_joinedText (operator : BinaryOperator) (first second : String) :
    (joinedText operator first second).toList =
      '(' :: (first.toList ++ ')' :: ' ' ::
        (operator.spelling ++ ' ' :: '(' :: (second.toList ++ [')']))) := by
  simp [joinedText]

theorem toList_negatedText (text : String) :
    (negatedText text).toList = '!' :: '(' :: (text.toList ++ [')']) := by
  simp [negatedText]

/-- A blank ends every operator. -/
theorem endsBefore_blank (operator : BinaryOperator) (rest : List Char) :
    (Lexeme.binary operator).EndsBefore (' ' :: rest) := by
  cases operator with
  | less | greater =>
      rintro _ ⟨⟩
      decide
  | _ => trivial

theorem reads_joinedText (operator : BinaryOperator) {first second : String}
    {first_row second_row : List Token} (first_found : tokens first.toList = .ok first_row)
    (second_found : tokens second.toList = .ok second_row) :
    Reads (joinedText operator first second).toList
      (.opening :: (first_row.map Token.lexeme ++ .closing :: .binary operator :: .opening ::
        (second_row.map Token.lexeme ++ [.closing]))) := by
  have white : Text.isBlank ' ' = true := by decide
  have second_reads := (reads_enclosed second_found .nil).blank white
  have joint := second_reads.lexeme (.binary operator) trivial (endsBefore_blank operator _)
  rw [toList_joinedText]
  exact reads_enclosed first_found (joint.blank white)

theorem reads_negatedText {text : String} {row : List Token}
    (found : tokens text.toList = .ok row) :
    Reads (negatedText text).toList
      (.unary .negation :: .opening :: (row.map Token.lexeme ++ [.closing])) := by
  have ends : (Lexeme.unary .negation).EndsBefore ('(' :: (text.toList ++ [')'])) := by
    rintro _ ⟨⟩
    decide
  rw [toList_negatedText]
  exact (reads_enclosed found .nil).lexeme (.unary .negation) trivial ends

/-! ## The derivation of a whole -/

namespace Derivation

/-- Derivations, maybe of different phrases, that put the same lexemes together in the same way. -/
structure Matches {one other : Phrase} (first : Derivation one) (second : Derivation other) :
    Prop where
  yield : first.yield = second.yield
  tree : first.tree = second.tree
  operators : first.operators = second.operators
  nesting : first.nesting = second.nesting

/-- An operand is a phrase of every level. -/
theorem exists_phrase (operand : Derivation .operand) (phrase : Phrase) :
    ∃ derivation : Derivation phrase, derivation.Matches operand := by
  match phrase with
  | .operand => exact ⟨operand, rfl, rfl, rfl, rfl⟩
  | .joined .comparison => exact ⟨.single operand, rfl, rfl, rfl, rfl⟩
  | .joined .equality => exact ⟨.single (.single operand), rfl, rfl, rfl, rfl⟩
  | .joined .conjunction => exact ⟨.single (.single (.single operand)), rfl, rfl, rfl, rfl⟩
  | .joined .disjunction => exact ⟨.single (.single (.single (.single operand))), rfl, rfl, rfl, rfl⟩

/-- A phrase of any level is a condition. -/
theorem exists_condition {phrase : Phrase} (part : Derivation phrase) :
    ∃ derivation : Derivation .condition, derivation.Matches part := by
  match phrase with
  | .operand => exact exists_phrase part .condition
  | .joined .comparison => exact ⟨.single (.single (.single part)), rfl, rfl, rfl, rfl⟩
  | .joined .equality => exact ⟨.single (.single part), rfl, rfl, rfl, rfl⟩
  | .joined .conjunction => exact ⟨.single part, rfl, rfl, rfl, rfl⟩
  | .joined .disjunction => exact ⟨part, rfl, rfl, rfl, rfl⟩

/-- A tree has as many binary operators as its derivation used. -/
theorem binaryCount_tree {phrase : Phrase} (derivation : Derivation phrase) :
    derivation.tree.binaryCount = derivation.operators := by
  induction derivation with
  | number | text | constant | path => rfl
  | unary operator operand induction => exact induction
  | enclosed inner induction => exact induction
  | single only induction => exact induction
  | binary operator placed left right left_induction right_induction =>
      rw [tree, Expression.binaryCount, left_induction, right_induction, operators]

/-- Two conditions in parentheses are derived as the operands of any binary operator. -/
theorem exists_joined (operator : BinaryOperator) (left right : Derivation .condition) :
    ∃ derivation : Derivation .condition,
      derivation.lexemes = .opening :: (left.lexemes ++ .closing :: .binary operator :: .opening ::
        (right.lexemes ++ [.closing])) ∧
      derivation.tree = .binary operator left.tree right.tree ∧
      derivation.operators = left.operators + right.operators + 1 ∧
      derivation.nesting = max left.nesting right.nesting + 1 := by
  obtain ⟨first, first_matches⟩ := exists_phrase (enclosed left) (.joined operator.level)
  obtain ⟨second, second_matches⟩ := exists_phrase (enclosed right) operator.level.part
  obtain ⟨whole, whole_matches⟩ := exists_condition (binary operator rfl first second)
  have yield_eq : whole.yield =
      (enclosed left).yield ++ (.binary operator, 0) :: (enclosed right).yield := by
    rw [whole_matches.yield, ← first_matches.yield, ← second_matches.yield]
    rfl
  refine ⟨whole, ?_, ?_, ?_, ?_⟩
  · rw [lexemes, yield_eq, List.map_append, List.map_cons, ← lexemes, ← lexemes]
    simp
  · rw [whole_matches.tree, tree, first_matches.tree, second_matches.tree]
    rfl
  · rw [whole_matches.operators, operators, first_matches.operators, second_matches.operators]
    rfl
  · rw [whole_matches.nesting, nesting, first_matches.nesting, second_matches.nesting, nesting,
      nesting, Nat.add_max_add_right]

/-- The negation of a condition in parentheses is derived. -/
theorem exists_negated (inner : Derivation .condition) :
    ∃ derivation : Derivation .condition,
      derivation.lexemes = .unary .negation :: .opening :: (inner.lexemes ++ [.closing]) ∧
      derivation.tree = .unary .negation inner.tree ∧
      derivation.operators = inner.operators ∧ derivation.nesting = inner.nesting + 2 := by
  obtain ⟨whole, whole_matches⟩ := exists_condition (unary .negation (enclosed inner))
  refine ⟨whole, ?_, whole_matches.tree, whole_matches.operators, whole_matches.nesting⟩
  rw [lexemes, whole_matches.yield, ← lexemes]
  simp

end Derivation

/-! ## Parsing a whole -/

/-- A text that is read as derived lexemes within the limits is parsed. -/
theorem parse_of_reads {text : String} (safe : checkSafety text.toList = .ok ())
    {derivation : Derivation .condition} (fits : derivation.Fits)
    (reads : Reads text.toList derivation.lexemes) : parse text = .ok derivation.tree := by
  obtain ⟨row, row_eq, row_reads⟩ := reads 0
  exact (parse_eq_ok_iff text derivation.tree).mpr
    ⟨safe, row, row_eq, parseTokens_of_fits fits row_reads⟩

/-- A parsed text within some nestings is derived within them, with its tree. -/
theorem NestsWithin.derived {limit : Nat} {text : String} {tree : Expression}
    (shallow : NestsWithin limit text) (parsed : parse text = .ok tree) :
    ∃ row, tokens text.toList = .ok row ∧ ∃ derivation : Derivation .condition,
      row.map Token.lexeme = derivation.lexemes ∧ derivation.tree = tree ∧
        derivation.operators = tree.binaryCount ∧ derivation.nesting ≤ limit := by
  obtain ⟨row, row_eq, derivation, read, shallow⟩ := shallow
  obtain ⟨other_row, other_row_eq, other, other_read, rfl, _⟩ := exists_derivation_of_parse parsed
  obtain rfl : row = other_row := Except.ok.inj (row_eq.symm.trans other_row_eq)
  have tree_eq : derivation.tree = other.tree := Derivation.tree_unique (read.symm.trans other_read)
  refine ⟨row, row_eq, derivation, read, tree_eq, ?_,
    (derivation.forall_yield_le_iff limit).mp shallow⟩
  rw [← tree_eq, derivation.binaryCount_tree]

/-- A parsed text has no more binary operators than there may be. -/
theorem binaryCount_le_of_parse {text : String} {tree : Expression}
    (parsed : parse text = .ok tree) : tree.binaryCount ≤ 128 := by
  obtain ⟨_, _, derivation, _, rfl, fits⟩ := exists_derivation_of_parse parsed
  rw [derivation.binaryCount_tree]
  exact fits.operators

/-- A parsed text has no character that the first scan refuses. -/
theorem safe_of_parse {text : String} {tree : Expression} (parsed : parse text = .ok tree) :
    ∀ character ∈ text.toList, isAllowed character = true ∧ Text.isAscii character = true :=
  ((checkSafety_eq_ok_iff _).mp ((parse_eq_ok_iff text tree).mp parsed).1).2

theorem parse_joinedText {operator : BinaryOperator} {first second : String}
    {left right : Expression} (first_parsed : parse first = .ok left)
    (second_parsed : parse second = .ok right)
    (short : (joinedText operator first second).length ≤ maxLength)
    (few : left.binaryCount + right.binaryCount + 1 ≤ 128) (first_shallow : NestsWithin 63 first)
    (second_shallow : NestsWithin 63 second) :
    parse (joinedText operator first second) = .ok (.binary operator left right) := by
  obtain ⟨first_row, first_found, first_derivation, first_read, rfl, first_operators,
    first_shallow⟩ := first_shallow.derived first_parsed
  obtain ⟨second_row, second_found, second_derivation, second_read, rfl, second_operators,
    second_shallow⟩ := second_shallow.derived second_parsed
  obtain ⟨derivation, lexemes_eq, tree_eq, operators_eq, nesting_eq⟩ :=
    Derivation.exists_joined operator first_derivation second_derivation
  have fits : derivation.Fits := by
    rw [Derivation.fits_iff, maxNesting, maxOperators]
    omega
  have reads := reads_joinedText operator first_found second_found
  rw [first_read, second_read, ← lexemes_eq] at reads
  have safe : checkSafety (joinedText operator first second).toList = .ok () := by
    have plain :
        (operator.spelling.all fun sign => isAllowed sign && Text.isAscii sign) = true := by
      cases operator <;> decide
    have signs : ∀ sign ∈ operator.spelling, isAllowed sign = true ∧ Text.isAscii sign = true := by
      simpa using plain
    rw [checkSafety_eq_ok_iff, String.length_toList, toList_joinedText]
    simp only [List.forall_mem_cons, List.forall_mem_append]
    exact ⟨short, by decide, safe_of_parse first_parsed, by decide, by decide, signs, by decide,
      by decide, safe_of_parse second_parsed, by decide, nofun⟩
  rw [← tree_eq]
  exact parse_of_reads safe fits reads

theorem parse_negatedText {text : String} {tree : Expression} (parsed : parse text = .ok tree)
    (short : (negatedText text).length ≤ maxLength) (shallow : NestsWithin 62 text) :
    parse (negatedText text) = .ok (.unary .negation tree) := by
  obtain ⟨row, found, inner, read, rfl, inner_operators, shallow⟩ := shallow.derived parsed
  obtain ⟨derivation, lexemes_eq, tree_eq, operators_eq, nesting_eq⟩ := inner.exists_negated
  have few := binaryCount_le_of_parse parsed
  have fits : derivation.Fits := by
    rw [Derivation.fits_iff, maxNesting, maxOperators]
    omega
  have reads := reads_negatedText found
  rw [read, ← lexemes_eq] at reads
  have safe : checkSafety (negatedText text).toList = .ok () := by
    rw [checkSafety_eq_ok_iff, String.length_toList, toList_negatedText]
    simp only [List.forall_mem_cons, List.forall_mem_append]
    exact ⟨short, by decide, by decide, safe_of_parse parsed, by decide, nofun⟩
  rw [← tree_eq]
  exact parse_of_reads safe fits reads

/-! ## The truth of a whole -/

theorem evaluate_of_parse {text : String} {tree : Expression} (parsed : parse text = .ok tree)
    (context : Datum) : evaluate text context = (tree.holds context).mapError .evaluation := by
  rw [evaluate, parsed]

/-- A junction holds as its left operand tells, or else as its right one does. -/
theorem holds_junction {operator : BinaryOperator} {settling : Bool}
    (junction : settling? operator = some settling) (context : Datum) (left right : Expression) :
    (Expression.binary operator left right).holds context =
      left.holds context >>= fun truth =>
        if truth = settling then .ok settling else right.holds context := by
  rw [Expression.holds, eval_junction context left right junction, bind_assoc]
  refine bind_congr fun truth => ?_
  split
  · rfl
  · cases right.holds context <;> rfl

theorem holds_negation (context : Datum) (operand : Expression) :
    (Expression.unary .negation operand).holds context = (operand.holds context).map (!·) := by
  rw [Expression.holds, eval_negation]
  cases operand.holds context <;> rfl

/--
Conditions compose as texts.  Two conditions in parentheses with a binary operator between them are
the condition of that operator over theirs, if the whole is not too long, has no more binary
operators than there may be, and leaves a nesting for the parentheses; the negation of a condition
in parentheses, which needs two nestings, is its negation.  So in every context a conjunction, a
disjunction and a negation are judged as the judgements of the parts say, from left to right: the
right part of a conjunction or disjunction counts, and can fail, only where the left one leaves the
matter open.
-/
theorem parse_composed {first second : String} {left right : Expression}
    (first_parsed : parse first = .ok left) (second_parsed : parse second = .ok right) :
    (NestsWithin 63 first → NestsWithin 63 second →
      left.binaryCount + right.binaryCount + 1 ≤ 128 →
      ∀ operator, (joinedText operator first second).length ≤ 2000 →
        parse (joinedText operator first second) = .ok (.binary operator left right) ∧
        ∀ context,
          (operator = .conjunction → evaluate (joinedText operator first second) context = do
            if ← evaluate first context then evaluate second context else pure false) ∧
          (operator = .disjunction → evaluate (joinedText operator first second) context = do
            if ← evaluate first context then pure true else evaluate second context)) ∧
    (NestsWithin 62 first → (negatedText first).length ≤ 2000 →
      parse (negatedText first) = .ok (.unary .negation left) ∧
      ∀ context, evaluate (negatedText first) context = do
        pure (!(← evaluate first context))) := by
  constructor
  · intro first_shallow second_shallow few operator short
    have parsed :=
      parse_joinedText first_parsed second_parsed short few first_shallow second_shallow
    refine ⟨parsed, ?_⟩
    intro context
    rw [evaluate_of_parse parsed, evaluate_of_parse first_parsed, evaluate_of_parse second_parsed]
    constructor
    · rintro rfl
      rw [holds_junction rfl]
      rcases left.holds context with fault | (_ | _)
      · rfl
      · rfl
      · rfl
    · rintro rfl
      rw [holds_junction rfl]
      rcases left.holds context with fault | (_ | _)
      · rfl
      · rfl
      · rfl
  · intro shallow short
    have parsed := parse_negatedText first_parsed short shallow
    refine ⟨parsed, ?_⟩
    intro context
    rw [evaluate_of_parse parsed, evaluate_of_parse first_parsed, holds_negation]
    cases left.holds context <;> rfl

/-- "Not a" and "b" are joined, and the whole holds where only "b" is true. -/
theorem parse_composed_of_negation_and_path :
    parse "!a" = .ok (.unary .negation (.path ["a"])) ∧ parse "b" = .ok (.path ["b"]) ∧
      NestsWithin 63 "!a" ∧ NestsWithin 63 "b" ∧
      (joinedText .conjunction "!a" "b").length ≤ 2000 ∧
      parse (joinedText .conjunction "!a" "b") =
        .ok (.binary .conjunction (.unary .negation (.path ["a"])) (.path ["b"])) ∧
      evaluate (joinedText .conjunction "!a" "b") (.object [("b", .truth true)]) = .ok true := by
  have first_parsed : parse "!a" = .ok (.unary .negation (.path ["a"])) := by
    decide +kernel
  have second_parsed : parse "b" = .ok (.path ["b"]) := by decide +kernel
  let path (name : Char) (free : ∀ value, ([name], value) ∉ constants)
      (proper : name ≠ '.') : Derivation .operand :=
    .path [[name]] (by simp) (by simpa using proper.symm) free
  have first_shallow : NestsWithin 63 "!a" := by
    refine ⟨[⟨.unary .negation, 0⟩, ⟨.word ['a'], 1⟩], by cbv, ?_⟩
    let negated := Derivation.unary .negation (path 'a' (by simp [constants]) (by decide))
    refine ⟨.single (.single (.single (.single negated))), rfl, ?_⟩
    simp [negated, path, Derivation.yield, Derivation.deeper]
  have second_shallow : NestsWithin 63 "b" := by
    refine ⟨[⟨.word ['b'], 0⟩], by cbv, ?_⟩
    let only := path 'b' (by simp [constants]) (by decide)
    refine ⟨.single (.single (.single (.single only))), rfl, ?_⟩
    simp [only, path, Derivation.yield]
  have short : (joinedText .conjunction "!a" "b").length ≤ 2000 := by decide
  obtain ⟨parsed, judged⟩ := (parse_composed first_parsed second_parsed).1 first_shallow
    second_shallow (by decide) .conjunction short
  refine ⟨first_parsed, second_parsed, first_shallow, second_shallow, short, parsed, ?_⟩
  rw [(judged (.object [("b", .truth true)])).1 rfl, evaluate, first_parsed, evaluate,
    second_parsed]
  rfl

end Appraisal.Condition
