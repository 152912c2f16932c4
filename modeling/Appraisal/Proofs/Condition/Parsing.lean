import Appraisal.Condition.Parser
import Appraisal.Proofs.Condition.Derivation
import Appraisal.Proofs.Fallible
import Mathlib.Data.List.Induction

/-!
# Reading is deriving

The readers of conditions against the grammar.  What a reader accepts has a derivation that fits the
nestings and operators it was allowed (`operand_sound`); and a row of lexemes with a derivation is
read exactly when the derivation fits, with its tree as the result (`reader_of_fits`,
`reader_of_not_fits`).  So the tree of a row is unique, and the limits are the only reason to refuse
a row that the grammar derives.
-/

namespace Appraisal

namespace Condition

/-- The lexemes that are still unread. -/
def Cursor.lexemes (cursor : Cursor) : List Lexeme :=
  cursor.tokens.map Token.lexeme

theorem Level.operator?_eq_some_iff (level : Level) (tokens rest : List Token)
    (operator : BinaryOperator) :
    level.operator? tokens = some (operator, rest) ↔
      operator.level = level ∧ ∃ position, tokens = ⟨.binary operator, position⟩ :: rest := by
  unfold Level.operator?
  split
  · rename_i found position others
    constructor
    · intro same
      split at same
      · rename_i placed
        obtain ⟨rfl, rfl⟩ := Prod.mk.inj (Option.some.inj same)
        exact ⟨placed, position, rfl⟩
      · contradiction
    · rintro ⟨placed, other, same⟩
      obtain ⟨same_token, rfl⟩ := List.cons.inj same
      obtain ⟨rfl⟩ := Lexeme.binary.inj (congrArg Token.lexeme same_token)
      rw [if_pos placed]
  · rename_i no_operator
    constructor
    · intro impossible
      contradiction
    · rintro ⟨_, position, rfl⟩
      exact absurd rfl (no_operator operator position rest)

/-- The constants of the grammar are the keywords. -/
theorem keyword?_eq_some_iff (name : List Char) (value : Literal) :
    keyword? name = some value ↔ (name, value) ∈ constants := by
  unfold keyword? constants
  split
  · subst name
    simp [eq_comm]
  · split
    · subst name
      simp [eq_comm]
    · split
      · subst name
        simp [eq_comm]
      · simp_all

/-! ## Numbers -/

theorem placeValue_append (first second : List Char) :
    placeValue (first ++ second) = placeValue first * 10 ^ second.length + placeValue second := by
  induction first with
  | nil => simp [placeValue]
  | cons digit digits induction =>
      rw [List.cons_append, placeValue, placeValue, induction, List.length_append, Nat.pow_add,
        Nat.add_mul, Nat.mul_assoc, Nat.add_assoc]

/-- Reading digits from the left gives each the power of ten of its place. -/
theorem natural_eq_placeValue (digits : List Char) : Reading.natural digits = placeValue digits := by
  induction digits using List.reverseRecOn with
  | nil => rfl
  | append_singleton digits digit induction =>
      rw [Reading.natural, List.foldl_append, ← Reading.natural, induction, placeValue_append]
      simp [placeValue, Nat.mul_comm]

theorem numberLiteral_eq (whole : List Char) (fraction : Option (List Char)) :
    numberLiteral whole fraction = numeral whole fraction := by
  cases fraction with
  | none => rw [numberLiteral, numeral, natural_eq_placeValue]
  | some fraction => rw [numberLiteral, numeral, natural_eq_placeValue, placeValue_append]

/-! ## What is read is derived -/

namespace Derivation

variable {phrase : Phrase}

/-- A derivation of what was read between two cursors, paid for in operators. -/
structure Leads (derivation : Derivation phrase) (before after : Cursor) : Prop where
  lexemes : before.lexemes = derivation.lexemes ++ after.lexemes
  operators : derivation.operators + after.operators = before.operators

end Derivation

/-- A reader that reads only what derives a phrase within some nestings. -/
def Reader.Sound (reader : Reader) (phrase : Phrase) (nesting : Nat) : Prop :=
  ∀ ⦃before : Cursor⦄ ⦃tree : Expression⦄ ⦃after : Cursor⦄, reader before = .ok (tree, after) →
    ∃ derivation : Derivation phrase,
      derivation.tree = tree ∧ derivation.nesting ≤ nesting ∧ derivation.Leads before after

/-- The turns of a chain go on with the derivation of what stands on the left. -/
theorem chainFrom_sound {level : Level} {operand : Reader} {nesting : Nat}
    (sound : operand.Sound level.part nesting) {turns : Nat} {start before after : Cursor}
    (left : Derivation (.joined level)) {tree : Expression} (shallow : left.nesting ≤ nesting)
    (leads : left.Leads start before)
    (found : chainFrom level operand turns left.tree before = .ok (tree, after)) :
    ∃ derivation : Derivation (.joined level),
      derivation.tree = tree ∧ derivation.nesting ≤ nesting ∧ derivation.Leads start after := by
  induction turns generalizing left before with
  | zero =>
      unfold chainFrom at found
      split at found
      · obtain ⟨rfl, rfl⟩ := Prod.mk.inj (Except.ok.inj found)
        exact ⟨left, rfl, shallow, leads⟩
      · contradiction
  | succ turns induction =>
      unfold chainFrom at found
      split at found
      · obtain ⟨rfl, rfl⟩ := Prod.mk.inj (Except.ok.inj found)
        exact ⟨left, rfl, shallow, leads⟩
      · contradiction
      · rename_i operator rest allowance operator_found allowance_eq
        obtain ⟨placed, position, tokens_eq⟩ :=
          (level.operator?_eq_some_iff _ _ _).mp operator_found
        obtain ⟨⟨right_tree, middle⟩, operand_read, found⟩ := bind_eq_ok_iff.mp found
        obtain ⟨right, rfl, right_shallow, right_leads⟩ := sound operand_read
        refine induction (.binary operator placed left right) ?_ ?_ found
        · exact Nat.max_le.mpr ⟨shallow, right_shallow⟩
        · constructor
          · have rest_lexemes := right_leads.lexemes
            simp only [Cursor.lexemes] at rest_lexemes
            rw [leads.lexemes]
            simp [Cursor.lexemes, tokens_eq, rest_lexemes]
          · have left_operators := leads.operators
            have right_operators := right_leads.operators
            simp only [Derivation.operators] at right_operators ⊢
            omega

theorem chain_sound {level : Level} {operand : Reader} {nesting : Nat}
    (sound : operand.Sound level.part nesting) :
    (chain level operand).Sound (.joined level) nesting := by
  intro before tree after found
  unfold chain at found
  obtain ⟨⟨first_tree, middle⟩, operand_read, found⟩ := bind_eq_ok_iff.mp found
  obtain ⟨first, rfl, shallow, leads⟩ := sound operand_read
  exact chainFrom_sound sound (.single first) shallow ⟨leads.lexemes, leads.operators⟩ found

theorem expression_sound {operand : Reader} {nesting : Nat}
    (sound : operand.Sound .operand nesting) : (expression operand).Sound .condition nesting :=
  chain_sound (chain_sound (chain_sound (chain_sound sound)))

theorem wordLeaf_sound {name : List Char} {tree : Expression} (found : wordLeaf name = .ok tree) :
    ∃ derivation : Derivation .operand,
      derivation.tree = tree ∧ derivation.lexemes = [.word name] ∧ derivation.nesting = 0 ∧
        derivation.operators = 0 := by
  unfold wordLeaf at found
  split at found
  · rename_i value keyword_found
    obtain rfl := Except.ok.inj found
    exact ⟨.constant name value ((keyword?_eq_some_iff name value).mp keyword_found),
      rfl, rfl, rfl, rfl⟩
  · rename_i no_keyword
    split at found
    · contradiction
    · rename_i no_empty
      obtain rfl := Except.ok.inj found
      have joined : ['.'].intercalate (segments name) = name := Text.intercalate_parts '.' name
      have proper : ∀ segment ∈ segments name, segment ≠ [] ∧ '.' ∉ segment := by
        intro segment member
        refine ⟨?_, Text.not_mem_of_mem_parts member⟩
        rintro rfl
        exact no_empty (List.any_eq_true.mpr ⟨[], member, rfl⟩)
      have free : ∀ value, (['.'].intercalate (segments name), value) ∉ constants := by
        intro value listed
        rw [joined, ← keyword?_eq_some_iff, no_keyword] at listed
        contradiction
      have segments_ne : segments name ≠ [] := Text.parts_ne_nil '.' name
      refine ⟨.path (segments name) segments_ne proper free, rfl, ?_, rfl, rfl⟩
      rw [Derivation.lexemes_path, joined]

/-- An operand is sound if the reader of deeper operands is, which one nesting less is left for. -/
theorem operandWith_sound {deeper : Option Reader} {nesting : Nat}
    (sound : ∀ reader ∈ deeper, ∃ smaller, nesting = smaller + 1 ∧ reader.Sound .operand smaller) :
    (operandWith deeper).Sound .operand nesting := by
  rintro ⟨tokens, operators⟩ tree after found
  unfold operandWith at found
  split at found
  · contradiction
  · rename_i token rest tokens_eq
    dsimp only at tokens_eq
    subst tokens_eq
    split at found
    · rename_i whole fraction lexeme_eq
      obtain ⟨rfl, rfl⟩ := Prod.mk.inj (Except.ok.inj found)
      rw [numberLiteral_eq]
      exact ⟨.number whole fraction, rfl, Nat.zero_le _,
        by simp [Cursor.lexemes, lexeme_eq], Nat.zero_add _⟩
    · rename_i content lexeme_eq
      obtain ⟨rfl, rfl⟩ := Prod.mk.inj (Except.ok.inj found)
      exact ⟨.text content, rfl, Nat.zero_le _,
        by simp [Cursor.lexemes, lexeme_eq], Nat.zero_add _⟩
    · rename_i name lexeme_eq
      cases leaf : wordLeaf name with
      | error fault => simp [leaf, Except.map] at found
      | ok word =>
          simp only [leaf, Except.map] at found
          obtain ⟨rfl, rfl⟩ := Prod.mk.inj (Except.ok.inj found)
          obtain ⟨derivation, rfl, lexemes_eq, nesting_eq, operators_eq⟩ := wordLeaf_sound leaf
          refine ⟨derivation, rfl, by omega, ?_, ?_⟩
          · rw [lexemes_eq]
            simp [Cursor.lexemes, lexeme_eq]
          · rw [operators_eq]
            exact Nat.zero_add _
    · rename_i operator lexeme_eq
      split at found
      · contradiction
      · rename_i reader
        obtain ⟨smaller, rfl, reader_sound⟩ := sound reader rfl
        obtain ⟨⟨operand_tree, middle⟩, operand_read, found⟩ := bind_eq_ok_iff.mp found
        obtain ⟨rfl, rfl⟩ := Prod.mk.inj (Except.ok.inj found)
        obtain ⟨operand, rfl, shallow, leads⟩ := reader_sound operand_read
        refine ⟨.unary operator operand, rfl, Nat.succ_le_succ shallow, ?_, leads.operators⟩
        have rest_lexemes := leads.lexemes
        simp only [Cursor.lexemes] at rest_lexemes
        simp [Cursor.lexemes, lexeme_eq, rest_lexemes]
    · rename_i lexeme_eq
      split at found
      · contradiction
      · rename_i reader
        obtain ⟨smaller, rfl, reader_sound⟩ := sound reader rfl
        obtain ⟨⟨inner_tree, middle⟩, inner_read, found⟩ := bind_eq_ok_iff.mp found
        dsimp only at found
        split at found
        · rename_i position others middle_tokens
          obtain ⟨rfl, rfl⟩ := Prod.mk.inj (Except.ok.inj found)
          obtain ⟨inner, rfl, shallow, leads⟩ := expression_sound reader_sound inner_read
          refine ⟨.enclosed inner, rfl, Nat.succ_le_succ shallow, ?_, leads.operators⟩
          have rest_lexemes := leads.lexemes
          simp only [Cursor.lexemes, middle_tokens] at rest_lexemes
          simp [Cursor.lexemes, lexeme_eq, rest_lexemes]
        · contradiction
    · contradiction
    · contradiction

/-- What an operand's reader accepts has a derivation within the nestings it may use. -/
theorem operand_sound (nesting : Nat) : (operand nesting).Sound .operand nesting := by
  induction nesting with
  | zero =>
      apply operandWith_sound
      rintro reader ⟨⟩
  | succ nesting induction =>
      apply operandWith_sound
      rintro reader ⟨⟩
      exact ⟨nesting, rfl, induction⟩

/-! ## What is derived is read -/

/-- How tightly a level binds. -/
def Level.rank : Level → Nat
  | .disjunction => 0
  | .conjunction => 1
  | .equality => 2
  | .comparison => 3

namespace Phrase

/-- The reader of a phrase over a reader of operands. -/
def reader (operand : Reader) : Phrase → Reader
  | .operand => operand
  | .joined .comparison => chain .comparison operand
  | .joined .equality => chain .equality (chain .comparison operand)
  | .joined .conjunction => chain .conjunction (chain .equality (chain .comparison operand))
  | .joined .disjunction => expression operand

theorem reader_joined (operand : Reader) (level : Level) :
    (Phrase.joined level).reader operand = chain level (level.part.reader operand) := by
  cases level <;> rfl

/-- No operator that binds tighter than those of the phrase comes next. -/
def StopsBefore : Phrase → List Token → Prop
  | .operand, _ => True
  | .joined level, rest =>
      ∀ tighter : Level, level.rank < tighter.rank → tighter.operator? rest = none

theorem stopsBefore_part {level : Level} {rest : List Token}
    (stops : (Phrase.joined level).StopsBefore rest) : level.part.StopsBefore rest := by
  cases level with
  | comparison => trivial
  | _ =>
      intro tighter further
      exact stops tighter (Nat.lt_trans (Nat.lt_succ_self _) further)

/-- An operator of a level ends the phrases of tighter levels. -/
theorem stopsBefore_operator {operator : BinaryOperator} {level : Level}
    (placed : operator.level = level) (position : Nat) (rest : List Token) :
    (Phrase.joined level).StopsBefore (⟨.binary operator, position⟩ :: rest) := by
  intro tighter further
  have different : operator.level ≠ tighter := by
    rintro rfl
    exact absurd further (by rw [placed]; exact Nat.lt_irrefl _)
  exact if_neg different

/-- Whatever stands before it, a phrase ends where no operator comes next. -/
theorem stopsBefore_of_forall {phrase : Phrase} {rest : List Token}
    (none : ∀ level : Level, level.operator? rest = none) : phrase.StopsBefore rest := by
  cases phrase with
  | operand => trivial
  | joined level => exact fun tighter _ => none tighter

/-- How reading goes on behind a derivation of a phrase. -/
def goOn (nesting : Nat) : Phrase → Expression → Reader
  | .operand, tree, cursor => .ok (tree, cursor)
  | .joined level, tree, cursor =>
      chainFrom level (level.part.reader (Condition.operand nesting)) cursor.operators tree cursor

end Phrase

theorem chainFrom_stop {level : Level} {operand : Reader} {turns : Nat} {left : Expression}
    {cursor : Cursor} (stops : level.operator? cursor.tokens = none) :
    chainFrom level operand turns left cursor = .ok (left, cursor) := by
  cases turns with
  | zero => rw [chainFrom, stops]
  | succ turns => rw [chainFrom, stops]

/-- A phrase that cannot go on leaves what stands before it as it is. -/
theorem goOn_part {level : Level} {rest : List Token}
    (stops : (Phrase.joined level).StopsBefore rest) (nesting : Nat) (tree : Expression)
    (operators : Nat) :
    level.part.goOn nesting tree ⟨rest, operators⟩ = .ok (tree, ⟨rest, operators⟩) := by
  cases level with
  | comparison => rfl
  | _ => exact chainFrom_stop (stops _ (Nat.lt_succ_self _))

theorem reader_sound (nesting : Nat) (phrase : Phrase) :
    (phrase.reader (operand nesting)).Sound phrase nesting := by
  have sound := operand_sound nesting
  match phrase with
  | .operand => exact sound
  | .joined .comparison => exact chain_sound sound
  | .joined .equality => exact chain_sound (chain_sound sound)
  | .joined .conjunction => exact chain_sound (chain_sound (chain_sound sound))
  | .joined .disjunction => exact expression_sound sound

/-- Without operators left, a chain stops or is refused, whatever turns it has. -/
theorem chainFrom_spent {level : Level} {operand : Reader} {left : Expression} {cursor : Cursor}
    (spent : cursor.operators = 0) (turns : Nat) :
    chainFrom level operand turns left cursor =
      if level.operator? cursor.tokens = none then .ok (left, cursor)
      else .error .tooManyOperators := by
  cases turns with
  | zero =>
      rw [chainFrom]
      cases level.operator? cursor.tokens <;> rfl
  | succ turns =>
      rw [chainFrom, spent]
      cases level.operator? cursor.tokens <;> rfl

/-- The bound on the turns of a chain never stops it: every turn spends an operator. -/
theorem chainFrom_turns {level : Level} {operand : Reader} {phrase : Phrase} {nesting : Nat}
    (sound : operand.Sound phrase nesting) {turns others : Nat} {left : Expression}
    {cursor : Cursor} (enough : cursor.operators ≤ turns) (others_enough : cursor.operators ≤ others) :
    chainFrom level operand turns left cursor = chainFrom level operand others left cursor := by
  induction turns generalizing others left cursor with
  | zero =>
      have spent : cursor.operators = 0 := Nat.le_zero.mp enough
      rw [chainFrom_spent spent, chainFrom_spent spent]
  | succ turns induction =>
      cases others with
      | zero =>
          have spent : cursor.operators = 0 := Nat.le_zero.mp others_enough
          rw [chainFrom_spent spent, chainFrom_spent spent]
      | succ others =>
          rw [chainFrom, chainFrom]
          cases level.operator? cursor.tokens with
          | none => rfl
          | some found =>
              cases allowance_eq : cursor.operators with
              | zero => rfl
              | succ allowance =>
                  dsimp only
                  cases operand_read : operand ⟨found.2, allowance⟩ with
                  | error fault => rfl
                  | ok outcome =>
                      obtain ⟨_, _, _, leads⟩ := sound operand_read
                      have cost := leads.operators
                      simp only at cost
                      exact induction (by omega) (by omega)

/-- One turn of a chain whose turns are bounded by the allowance. -/
theorem chainFrom_operator {operator : BinaryOperator} {level : Level}
    (placed : operator.level = level) {operand : Reader} {phrase : Phrase} {nesting : Nat}
    (sound : operand.Sound phrase nesting) (position : Nat) (rest : List Token) (allowance : Nat)
    (left : Expression) :
    chainFrom level operand (allowance + 1) left
        ⟨⟨.binary operator, position⟩ :: rest, allowance + 1⟩ =
      operand ⟨rest, allowance⟩ >>= fun (right, cursor) =>
        chainFrom level operand cursor.operators (.binary operator left right) cursor := by
  have next : level.operator? (⟨.binary operator, position⟩ :: rest) = some (operator, rest) :=
    if_pos placed
  rw [chainFrom]
  simp only [next]
  cases operand_read : operand ⟨rest, allowance⟩ with
  | error fault => rfl
  | ok outcome =>
      obtain ⟨_, _, _, leads⟩ := sound operand_read
      have cost := leads.operators
      simp only at cost
      exact chainFrom_turns sound (by omega) (Nat.le_refl _)

theorem wordLeaf_constant {name : List Char} {value : Literal}
    (listed : (name, value) ∈ constants) : wordLeaf name = .ok (.literal value) := by
  rw [wordLeaf, (keyword?_eq_some_iff name value).mpr listed]

theorem wordLeaf_path {parts : List (List Char)} (parts_ne : parts ≠ [])
    (proper : ∀ part ∈ parts, part ≠ [] ∧ '.' ∉ part)
    (free : ∀ value, (['.'].intercalate parts, value) ∉ constants) :
    wordLeaf (['.'].intercalate parts) = .ok (.path (parts.map String.ofList)) := by
  have no_keyword : keyword? (['.'].intercalate parts) = none := by
    rw [Option.eq_none_iff_forall_not_mem]
    intro value found
    exact free value ((keyword?_eq_some_iff _ _).mp found)
  have found : segments (['.'].intercalate parts) = parts :=
    Text.parts_intercalate parts_ne fun part member => (proper part member).2
  have no_empty : parts.any List.isEmpty = false := by
    rw [List.any_eq_false]
    intro part member
    simp [(proper part member).1]
  rw [wordLeaf, no_keyword, found]
  simp [no_empty]

/-- The token of a single lexeme. -/
theorem tokens_eq_singleton {tokens : List Token} {lexeme : Lexeme}
    (read : tokens.map Token.lexeme = [lexeme]) : ∃ position, tokens = [⟨lexeme, position⟩] := by
  obtain ⟨⟨found, position⟩, rfl, rfl⟩ := List.map_eq_singleton_iff.mp read
  exact ⟨position, rfl⟩

/-- The token of the first lexeme, and those of the others. -/
theorem tokens_eq_cons {tokens : List Token} {lexeme : Lexeme} {others : List Lexeme}
    (read : tokens.map Token.lexeme = lexeme :: others) :
    ∃ position rest, tokens = ⟨lexeme, position⟩ :: rest ∧ rest.map Token.lexeme = others := by
  obtain ⟨⟨found, position⟩, rest, rfl, rfl, rest_eq⟩ := List.map_eq_cons_iff.mp read
  exact ⟨position, rest, rfl, rest_eq⟩

/-- The tokens of an opening parenthesis, of what it encloses and of its partner. -/
theorem tokens_eq_enclosed {tokens : List Token} {inner : List Lexeme}
    (read : tokens.map Token.lexeme = .opening :: inner ++ [.closing]) :
    ∃ opening closing inside,
      tokens = ⟨.opening, opening⟩ :: (inside ++ [⟨.closing, closing⟩]) ∧
        inside.map Token.lexeme = inner := by
  rw [List.cons_append] at read
  obtain ⟨opening, others, rfl, others_read⟩ := tokens_eq_cons read
  obtain ⟨inside, last, rfl, inside_read, last_read⟩ := List.map_eq_append_iff.mp others_read
  obtain ⟨closing, rfl⟩ := tokens_eq_singleton last_read
  exact ⟨opening, closing, inside, rfl, inside_read⟩

/-- The tokens of a left side, of an operator and of a right side. -/
theorem tokens_eq_joined {tokens : List Token} {left right : List Lexeme}
    {operator : BinaryOperator}
    (read : tokens.map Token.lexeme = left ++ .binary operator :: right) :
    ∃ before position after,
      tokens = before ++ ⟨.binary operator, position⟩ :: after ∧
        before.map Token.lexeme = left ∧ after.map Token.lexeme = right := by
  obtain ⟨before, others, rfl, before_read, others_read⟩ := List.map_eq_append_iff.mp read
  obtain ⟨position, after, rfl, after_read⟩ := tokens_eq_cons others_read
  exact ⟨before, position, after, rfl, before_read, after_read⟩

section Operand

variable (nesting position : Nat) (rest : List Token) (operators : Nat)

theorem operand_number (whole : List Char) (fraction : Option (List Char)) :
    operand nesting ⟨⟨.number whole fraction, position⟩ :: rest, operators⟩ =
      .ok (.literal (numeral whole fraction), ⟨rest, operators⟩) := by
  rw [← numberLiteral_eq]
  cases nesting <;> rfl

theorem operand_text (content : List Char) :
    operand nesting ⟨⟨.text content, position⟩ :: rest, operators⟩ =
      .ok (.literal (.text (String.ofList content)), ⟨rest, operators⟩) := by
  cases nesting <;> rfl

theorem operand_word (name : List Char) :
    operand nesting ⟨⟨.word name, position⟩ :: rest, operators⟩ =
      (wordLeaf name).map (·, ⟨rest, operators⟩) := by
  cases nesting <;> rfl

theorem operand_unary (operator : UnaryOperator) :
    operand (nesting + 1) ⟨⟨.unary operator, position⟩ :: rest, operators⟩ =
      operand nesting ⟨rest, operators⟩ >>= fun (inner, cursor) =>
        pure (.unary operator inner, cursor) :=
  rfl

theorem operand_opening :
    operand (nesting + 1) ⟨⟨.opening, position⟩ :: rest, operators⟩ =
      expression (operand nesting) ⟨rest, operators⟩ >>= fun (inner, cursor) =>
        match cursor.tokens with
        | ⟨.closing, _⟩ :: rest => pure (inner, ⟨rest, cursor.operators⟩)
        | _ => throw (.unclosed position) :=
  rfl

end Operand

/-- A derivation that fits the nestings and operators is read, and reading goes on behind it. -/
theorem reader_of_fits {phrase : Phrase} (derivation : Derivation phrase) {nesting : Nat}
    (shallow : derivation.nesting ≤ nesting) {tokens : List Token}
    (read : tokens.map Token.lexeme = derivation.lexemes) (rest : List Token)
    (stops : phrase.StopsBefore rest) (operators : Nat) :
    phrase.reader (operand nesting) ⟨tokens ++ rest, derivation.operators + operators⟩ =
      phrase.goOn nesting derivation.tree ⟨rest, operators⟩ := by
  induction derivation generalizing nesting tokens rest operators with
  | number whole fraction =>
      obtain ⟨position, rfl⟩ := tokens_eq_singleton read
      rw [Derivation.operators, Nat.zero_add]
      exact operand_number nesting position rest operators whole fraction
  | text content =>
      obtain ⟨position, rfl⟩ := tokens_eq_singleton read
      rw [Derivation.operators, Nat.zero_add]
      exact operand_text nesting position rest operators content
  | constant name value listed =>
      obtain ⟨position, rfl⟩ := tokens_eq_singleton read
      have leaf := operand_word nesting position rest operators name
      rw [wordLeaf_constant listed] at leaf
      rw [Derivation.operators, Nat.zero_add]
      exact leaf
  | path parts parts_ne proper free =>
      obtain ⟨position, rfl⟩ := tokens_eq_singleton read
      have leaf := operand_word nesting position rest operators (['.'].intercalate parts)
      rw [wordLeaf_path parts_ne proper free] at leaf
      rw [Derivation.operators, Nat.zero_add]
      exact leaf
  | unary operator inner induction =>
      rw [Derivation.lexemes_unary] at read
      obtain ⟨position, others, rfl, others_read⟩ := tokens_eq_cons read
      cases nesting with
      | zero => exact absurd shallow (Nat.not_succ_le_zero _)
      | succ nesting =>
          have inner_read := induction (Nat.le_of_succ_le_succ shallow) others_read rest trivial
            operators
          rw [Phrase.reader] at inner_read
          rw [Phrase.reader, Derivation.operators, List.cons_append, operand_unary, inner_read]
          rfl
  | enclosed inner induction =>
      rw [Derivation.lexemes_enclosed] at read
      obtain ⟨opening, closing, inside, rfl, inside_read⟩ := tokens_eq_enclosed read
      cases nesting with
      | zero => exact absurd shallow (Nat.not_succ_le_zero _)
      | succ nesting =>
          have stops_closing (level : Level) :
              level.operator? (⟨.closing, closing⟩ :: rest) = none := rfl
          have inner_read := induction (Nat.le_of_succ_le_succ shallow) inside_read
            (⟨.closing, closing⟩ :: rest) (Phrase.stopsBefore_of_forall stops_closing) operators
          rw [Phrase.goOn, chainFrom_stop (stops_closing _), Phrase.reader] at inner_read
          rw [Phrase.reader, Derivation.operators, List.cons_append, List.append_assoc,
            List.singleton_append, operand_opening, inner_read]
          rfl
  | @single level only induction =>
      have only_read := induction shallow read rest (Phrase.stopsBefore_part stops) operators
      rw [goOn_part stops] at only_read
      rw [Phrase.reader_joined, chain, Derivation.operators, only_read]
      rfl
  | @binary level operator placed left right left_induction right_induction =>
      rw [Derivation.lexemes_binary] at read
      obtain ⟨left_tokens, position, right_tokens, rfl, left_read, right_read⟩ :=
        tokens_eq_joined read
      obtain ⟨left_shallow, right_shallow⟩ := Nat.max_le.mp shallow
      have left_done := left_induction left_shallow left_read
        (⟨.binary operator, position⟩ :: (right_tokens ++ rest))
        (Phrase.stopsBefore_operator placed position _) (right.operators + operators + 1)
      have right_done := right_induction right_shallow right_read rest
        (Phrase.stopsBefore_part stops) operators
      rw [goOn_part stops] at right_done
      have cost : (Derivation.binary operator placed left right).operators + operators =
          left.operators + (right.operators + operators + 1) := by
        simp only [Derivation.operators]
        omega
      rw [cost, List.append_assoc, List.cons_append, left_done, Phrase.goOn,
        chainFrom_operator placed (reader_sound nesting level.part), right_done]
      rfl

/-- A derivation that needs more nestings or operators than there are is refused for that. -/
theorem reader_of_not_fits {phrase : Phrase} (derivation : Derivation phrase)
    {nesting operators : Nat}
    (beyond : nesting < derivation.nesting ∨ operators < derivation.operators)
    {tokens : List Token} (read : tokens.map Token.lexeme = derivation.lexemes)
    (rest : List Token) (stops : phrase.StopsBefore rest) :
    ∃ fault, fault.isUnsafe = true ∧
      phrase.reader (operand nesting) ⟨tokens ++ rest, operators⟩ = .error fault := by
  induction derivation generalizing nesting operators tokens rest with
  | number | text | constant | path => simp [Derivation.nesting, Derivation.operators] at beyond
  | unary operator inner induction =>
      rw [Derivation.lexemes_unary] at read
      obtain ⟨position, others, rfl, others_read⟩ := tokens_eq_cons read
      cases nesting with
      | zero => exact ⟨.tooDeep, rfl, rfl⟩
      | succ nesting =>
          have inner_beyond : nesting < inner.nesting ∨ operators < inner.operators :=
            beyond.imp_left Nat.lt_of_succ_lt_succ
          obtain ⟨fault, is_unsafe, refused⟩ :=
            induction inner_beyond others_read rest trivial
          refine ⟨fault, is_unsafe, ?_⟩
          rw [Phrase.reader] at refused
          rw [Phrase.reader, List.cons_append, operand_unary, refused]
          rfl
  | enclosed inner induction =>
      rw [Derivation.lexemes_enclosed] at read
      obtain ⟨opening, closing, inside, rfl, inside_read⟩ := tokens_eq_enclosed read
      cases nesting with
      | zero => exact ⟨.tooDeep, rfl, rfl⟩
      | succ nesting =>
          have inner_beyond : nesting < inner.nesting ∨ operators < inner.operators :=
            beyond.imp_left Nat.lt_of_succ_lt_succ
          obtain ⟨fault, is_unsafe, refused⟩ := induction inner_beyond inside_read
            (⟨.closing, closing⟩ :: rest) (Phrase.stopsBefore_of_forall fun _ => rfl)
          refine ⟨fault, is_unsafe, ?_⟩
          rw [Phrase.reader] at refused
          rw [Phrase.reader, List.cons_append, List.append_assoc, List.singleton_append,
            operand_opening, refused]
          rfl
  | @single level only induction =>
      obtain ⟨fault, is_unsafe, refused⟩ :=
        induction beyond read rest (Phrase.stopsBefore_part stops)
      refine ⟨fault, is_unsafe, ?_⟩
      rw [Phrase.reader_joined, chain, refused]
      rfl
  | @binary level operator placed left right left_induction right_induction =>
      rw [Derivation.lexemes_binary] at read
      obtain ⟨left_tokens, position, right_tokens, rfl, left_read, right_read⟩ :=
        tokens_eq_joined read
      have left_stops := Phrase.stopsBefore_operator placed position (right_tokens ++ rest)
      rw [List.append_assoc, List.cons_append]
      by_cases left_beyond : nesting < left.nesting ∨ operators < left.operators
      · exact left_induction left_beyond left_read _ left_stops
      · rw [not_or, Nat.not_lt, Nat.not_lt] at left_beyond
        obtain ⟨left_shallow, left_paid⟩ := left_beyond
        obtain ⟨remaining, rfl⟩ := Nat.exists_eq_add_of_le left_paid
        rw [reader_of_fits left left_shallow left_read _ left_stops, Phrase.goOn]
        cases remaining with
        | zero =>
            refine ⟨.tooManyOperators, rfl, ?_⟩
            rw [chainFrom]
            simp [Level.operator?, placed]
        | succ remaining =>
            have right_beyond : nesting < right.nesting ∨ remaining < right.operators := by
              simp only [Derivation.nesting, Derivation.operators] at beyond
              omega
            obtain ⟨fault, is_unsafe, refused⟩ := right_induction right_beyond right_read
              rest (Phrase.stopsBefore_part stops)
            refine ⟨fault, is_unsafe, ?_⟩
            rw [chainFrom_operator placed (reader_sound nesting level.part), refused]
            rfl

/-! ## Rows of tokens -/

/-- A derivation of a whole row within the limits of conditions. -/
structure Derivation.Fits {phrase : Phrase} (derivation : Derivation phrase) : Prop where
  operators : derivation.operators ≤ 128
  nesting : ∀ entry ∈ derivation.yield, entry.2 ≤ 64

theorem Derivation.fits_iff {phrase : Phrase} (derivation : Derivation phrase) :
    derivation.Fits ↔ derivation.nesting ≤ maxNesting ∧ derivation.operators ≤ maxOperators := by
  constructor
  · rintro ⟨paid, shallow⟩
    exact ⟨(derivation.forall_yield_le_iff 64).mp shallow, paid⟩
  · rintro ⟨shallow, paid⟩
    exact ⟨paid, (derivation.forall_yield_le_iff 64).mpr shallow⟩

theorem Derivation.tokens_ne_nil {derivation : Derivation .condition} {tokens : List Token}
    (read : tokens.map Token.lexeme = derivation.lexemes) : tokens ≠ [] := by
  rintro rfl
  exact derivation.yield_ne_nil (List.map_eq_nil_iff.mp read.symm)

theorem parseTokens_of_ne_nil {tokens : List Token} (tokens_ne : tokens ≠ []) :
    parseTokens tokens =
      expression (operand maxNesting) ⟨tokens, maxOperators⟩ >>= fun (tree, rest) =>
        match rest.tokens with
        | [] => pure tree
        | token :: _ => throw (.unexpected token.lexeme.spelling token.position) := by
  cases tokens with
  | nil => contradiction
  | cons first others => rfl

theorem parseTokens_sound {tokens : List Token} {tree : Expression}
    (accepted : parseTokens tokens = .ok tree) :
    ∃ derivation : Derivation .condition,
      tokens.map Token.lexeme = derivation.lexemes ∧ derivation.tree = tree ∧
        derivation.Fits := by
  have tokens_ne : tokens ≠ [] := by
    rintro rfl
    contradiction
  rw [parseTokens_of_ne_nil tokens_ne] at accepted
  obtain ⟨⟨found, rest⟩, read, accepted⟩ := bind_eq_ok_iff.mp accepted
  obtain ⟨derivation, rfl, shallow, leads⟩ := reader_sound maxNesting .condition read
  dsimp only at accepted
  split at accepted
  · rename_i rest_eq
    obtain rfl := Except.ok.inj accepted
    refine ⟨derivation, ?_, rfl, derivation.fits_iff.mpr ⟨shallow, ?_⟩⟩
    · simpa [Cursor.lexemes, rest_eq] using leads.lexemes
    · exact Nat.le.intro leads.operators
  · contradiction

theorem parseTokens_of_fits {derivation : Derivation .condition} (fits : derivation.Fits)
    {tokens : List Token} (read : tokens.map Token.lexeme = derivation.lexemes) :
    parseTokens tokens = .ok derivation.tree := by
  obtain ⟨shallow, paid⟩ := derivation.fits_iff.mp fits
  obtain ⟨remaining, allowance_eq⟩ := Nat.exists_eq_add_of_le paid
  have done := reader_of_fits derivation shallow read []
    (Phrase.stopsBefore_of_forall fun _ => rfl) remaining
  rw [List.append_nil, ← allowance_eq, Phrase.goOn, chainFrom_stop rfl] at done
  rw [parseTokens_of_ne_nil (Derivation.tokens_ne_nil read), ← Phrase.reader, done]
  rfl

theorem parseTokens_of_not_fits {derivation : Derivation .condition}
    (beyond : ¬ derivation.Fits) {tokens : List Token}
    (read : tokens.map Token.lexeme = derivation.lexemes) :
    ∃ fault, fault.isUnsafe = true ∧ parseTokens tokens = .error fault := by
  have too_much : maxNesting < derivation.nesting ∨ maxOperators < derivation.operators := by
    rw [derivation.fits_iff, Classical.not_and_iff_not_or_not, Nat.not_le, Nat.not_le] at beyond
    exact beyond
  obtain ⟨fault, is_unsafe, refused⟩ := reader_of_not_fits derivation too_much read []
    (Phrase.stopsBefore_of_forall fun _ => rfl)
  refine ⟨fault, is_unsafe, ?_⟩
  rw [List.append_nil] at refused
  rw [parseTokens_of_ne_nil (Derivation.tokens_ne_nil read), ← Phrase.reader, refused]
  rfl

/-- A row of lexemes has one tree at most, whatever limits there are. -/
theorem Derivation.tree_unique {first second : Derivation .condition}
    (same : first.lexemes = second.lexemes) : first.tree = second.tree := by
  let tokens : List Token := first.lexemes.map fun lexeme => ⟨lexeme, 0⟩
  have tokens_lexemes : tokens.map Token.lexeme = first.lexemes := by
    simp [tokens, Function.comp_def]
  let nesting := max first.nesting second.nesting
  have first_done := reader_of_fits first (Nat.le_max_left _ second.nesting) tokens_lexemes
    [] (Phrase.stopsBefore_of_forall fun _ => rfl) second.operators
  have second_done := reader_of_fits second (Nat.le_max_right first.nesting _)
    (tokens_lexemes.trans same) [] (Phrase.stopsBefore_of_forall fun _ => rfl)
    first.operators
  rw [Phrase.goOn, chainFrom_stop rfl] at first_done second_done
  rw [Nat.add_comm, first_done] at second_done
  exact (Prod.mk.inj (Except.ok.inj second_done)).1

/-- A minus between two operands joins nothing. -/
example : parseTokens [⟨.word ['a'], 0⟩, ⟨.unary .opposite, 2⟩, ⟨.word ['b'], 4⟩] =
    .error (.unexpected ['-'] 2) := by rfl

end Condition

end Appraisal
