import Appraisal.Proofs.Condition.Selection

/-!
# Splitting a text into tokens

The tokens of a text stand where the rules select them, one behind the other, and what they leave
over is white space.  A text is split in this way up to its end, or up to the first visible
character at which no lexeme begins (`exists_splits`); and reading follows any such splitting
(`tokensFrom_of_splits`).  So both outcomes of reading are known exactly.
-/

namespace Appraisal.Condition

/-- The position behind a token. -/
def Token.stop (token : Token) : Nat :=
  token.position + token.lexeme.spelling.length

/-- A row of tokens that splits a stretch of a text. -/
structure Splits (text : List Char) (start stop : Nat) (row : List Token) : Prop where
  bounded : start ≤ stop
  /-- Each token is what the rules select in the text where it stands. -/
  selected : ∀ token ∈ row, token.lexeme.Selected (text.drop token.position)
  /-- Each token begins where the ones before it have ended, or later. -/
  apart : row.Pairwise fun first second => first.stop ≤ second.position
  inside : ∀ token ∈ row, start ≤ token.position ∧ token.stop ≤ stop
  /-- Outside the tokens there is only white space. -/
  blank : ∀ index, start ≤ index → index < stop →
    (∀ token ∈ row, index < token.position ∨ token.stop ≤ index) →
      ∀ character ∈ text[index]?, Text.isBlank character = true

/-- A visible character at which no lexeme begins. -/
structure Stuck (text : List Char) (position : Nat) (character : Char) : Prop where
  here : text[position]? = some character
  visible : Text.isBlank character = false
  hopeless : ∀ lexeme : Lexeme, lexeme.Shaped → ¬ lexeme.spelling <+: text.drop position

namespace Splits

variable {text : List Char} {start stop : Nat} {token : Token} {row : List Token}

theorem nil (text : List Char) (start : Nat) : Splits text start start [] where
  bounded := Nat.le_refl start
  selected := by simp
  apart := .nil
  inside := by simp
  blank := by
    intro index after before
    omega

/-- White space may stand before what is split. -/
theorem of_blank {character : Char} (here : text[start]? = some character)
    (white : Text.isBlank character = true) (splits : Splits text (start + 1) stop row) :
    Splits text start stop row where
  bounded := Nat.le_of_succ_le splits.bounded
  selected := splits.selected
  apart := splits.apart
  inside := by
    intro token member
    have inside := splits.inside token member
    omega
  blank := by
    intro index after before outside other found
    by_cases first : index = start
    · subst first
      rw [here] at found
      cases found
      exact white
    · exact splits.blank index (by omega) before outside other found

/-- A selected lexeme may stand before what is split. -/
theorem cons {lexeme : Lexeme} (selected : lexeme.Selected (text.drop start))
    (splits : Splits text (start + lexeme.spelling.length) stop row) :
    Splits text start stop (⟨lexeme, start⟩ :: row) where
  bounded := Nat.le_of_add_right_le splits.bounded
  selected := List.forall_mem_cons.mpr ⟨selected, splits.selected⟩
  apart := List.pairwise_cons.mpr ⟨fun token member => (splits.inside token member).1, splits.apart⟩
  inside := by
    rw [List.forall_mem_cons]
    refine ⟨⟨Nat.le_refl start, splits.bounded⟩, ?_⟩
    intro token member
    have inside := splits.inside token member
    omega
  blank := by
    intro index after before outside
    rw [List.forall_mem_cons] at outside
    obtain ⟨outside_first, outside_others⟩ := outside
    simp only [Token.stop] at outside_first
    exact splits.blank index (by omega) before outside_others

/-- What is left of a splitting behind its first token. -/
theorem tail (splits : Splits text start stop (token :: row)) :
    Splits text token.stop stop row where
  bounded := (splits.inside token List.mem_cons_self).2
  selected := (List.forall_mem_cons.mp splits.selected).2
  apart := splits.apart.of_cons
  inside := by
    intro other member
    exact ⟨List.rel_of_pairwise_cons splits.apart member,
      (splits.inside other (List.mem_cons_of_mem token member)).2⟩
  blank := by
    intro index after before outside
    have begins := (splits.inside token List.mem_cons_self).1
    refine splits.blank index ?_ before (List.forall_mem_cons.mpr ⟨.inr after, outside⟩)
    simp only [Token.stop] at after
    omega

/-- Before its first token a splitting has only white space. -/
theorem blank_before (splits : Splits text start stop (token :: row)) {index : Nat}
    (after : start ≤ index) (before : index < token.position) :
    ∀ character ∈ text[index]?, Text.isBlank character = true := by
  have ends := (splits.inside token List.mem_cons_self).2
  have end_eq : token.stop = token.position + token.lexeme.spelling.length := rfl
  refine splits.blank index after (by omega) (List.forall_mem_cons.mpr ⟨.inl before, ?_⟩)
  intro other member
  have later := List.rel_of_pairwise_cons splits.apart member
  exact .inl (by omega)

/-- The positions of the tokens increase. -/
theorem increasing (splits : Splits text start stop row) :
    (row.map Token.position).Pairwise (· < ·) := by
  rw [List.pairwise_map]
  refine splits.apart.imp_of_mem ?_
  intro first second first_member _ follows
  obtain ⟨shaped, _⟩ := splits.selected first first_member
  obtain ⟨character, others, spelled, _⟩ := shaped.spelling_eq
  rw [Token.stop, spelled, List.length_cons] at follows
  omega

end Splits

/-- White space is passed over. -/
theorem tokensFrom_skip {text : List Char} {start stop : Nat} (bounded : start ≤ stop)
    (blank : ∀ index, start ≤ index → index < stop →
      ∀ character ∈ text[index]?, Text.isBlank character = true) :
    tokensFrom (text.drop start) start = tokensFrom (text.drop stop) stop := by
  obtain ⟨count, rfl⟩ := Nat.exists_eq_add_of_le bounded
  induction count generalizing start with
  | zero => rfl
  | succ count induction =>
      have rest_eq : tokensFrom (text.drop (start + 1)) (start + 1) =
          tokensFrom (text.drop (start + 1 + count)) (start + 1 + count) :=
        induction (by omega) fun index after before => blank index (by omega) (by omega)
      rw [show start + (count + 1) = start + 1 + count by omega, ← rest_eq]
      cases text_eq : text.drop start with
      | nil =>
          have ended : text.drop (start + 1) = [] := by
            rw [← List.drop_drop, text_eq, List.drop_nil]
          rw [ended, tokensFrom, tokensFrom]
      | cons character others =>
          have here : text[start]? = some character := by
            rw [← List.head?_drop, text_eq, List.head?_cons]
          have next : text.drop (start + 1) = others := by
            rw [← List.drop_drop, text_eq, List.drop_one, List.tail_cons]
          rw [next, tokensFrom_blank (blank start (Nat.le_refl start) (by omega) character here)]

/-- Reading follows a splitting of the text. -/
theorem tokensFrom_of_splits {text : List Char} {start stop : Nat} {row : List Token}
    (splits : Splits text start stop row) :
    tokensFrom (text.drop start) start =
      (tokensFrom (text.drop stop) stop).map (row ++ ·) := by
  induction row generalizing start with
  | nil =>
      rw [tokensFrom_skip splits.bounded fun index after before =>
        splits.blank index after before (by simp)]
      cases tokensFrom (text.drop stop) stop <;> rfl
  | cons token row induction =>
      obtain ⟨shaped, rest, spelled, ends⟩ := splits.selected token List.mem_cons_self
      have behind : text.drop token.stop = rest := by
        rw [Token.stop, ← List.drop_drop, spelled, List.drop_left]
      obtain ⟨first, others, spelling_eq, visible⟩ := shaped.spelling_eq
      have found := lexeme?_of_selected shaped ends
      rw [spelling_eq, List.cons_append] at found
      rw [tokensFrom_skip (splits.inside token List.mem_cons_self).1
          fun index after before => splits.blank_before after before,
        spelled, spelling_eq, List.cons_append, tokensFrom_lexeme (by simp [visible]) found]
      have further := induction splits.tail
      rw [behind, Token.stop] at further
      rw [further]
      cases tokensFrom (text.drop stop) stop <;> rfl

/-- Every text is split up to its end or up to a character at which no lexeme begins. -/
theorem exists_splits (text : List Char) {start : Nat} (inside : start ≤ text.length) :
    ∃ stop row, Splits text start stop row ∧
      (stop = text.length ∨ ∃ character, Stuck text stop character) := by
  -- The induction is on what is left of the text: a blank takes one character of it, a lexeme at
  -- least one.
  induction left : text.length - start using Nat.strong_induction_on generalizing start with
  | _ left induction =>
      subst left
      cases text_eq : text.drop start with
      | nil =>
          have ended := List.drop_eq_nil_iff.mp text_eq
          exact ⟨start, [], .nil text start, .inl (Nat.le_antisymm inside ended)⟩
      | cons character others =>
          have here : text[start]? = some character := by
            rw [← List.head?_drop, text_eq, List.head?_cons]
          have before : start < text.length := (List.getElem?_eq_some_iff.mp here).1
          cases white : Text.isBlank character with
          | true =>
              obtain ⟨stop, row, splits, ended⟩ :=
                induction (text.length - (start + 1)) (by omega) (by omega) rfl
              exact ⟨stop, row, splits.of_blank here white, ended⟩
          | false =>
              cases found : lexeme? (text.drop start) with
              | none =>
                  have stuck : Stuck text start character :=
                    ⟨here, white, (lexeme?_eq_none_iff _).mp found⟩
                  exact ⟨start, [], .nil text start, .inr ⟨character, stuck⟩⟩
              | some selection =>
                  obtain ⟨lexeme, rest⟩ := selection
                  obtain ⟨spelled, shaped, ends⟩ := (lexeme?_eq_some_iff _ _ _).mp found
                  obtain ⟨_, _, spelling_eq, _⟩ := shaped.spelling_eq
                  have total : text.length - start = lexeme.spelling.length + rest.length := by
                    rw [← List.length_drop, spelled, List.length_append]
                  have advanced : 0 < lexeme.spelling.length := by
                    rw [spelling_eq]
                    exact Nat.succ_pos _
                  obtain ⟨stop, row, splits, ended⟩ :=
                    induction (text.length - (start + lexeme.spelling.length)) (by omega)
                      (by omega) rfl
                  exact ⟨stop, _, splits.cons ⟨shaped, rest, spelled, ends⟩, ended⟩

/-- A text that is split up to its end is read as the tokens of the splitting. -/
theorem tokens_of_splits {text : List Char} {row : List Token}
    (splits : Splits text 0 text.length row) : tokens text = .ok row := by
  have read := tokensFrom_of_splits splits
  rw [List.drop_zero, List.drop_length, tokensFrom] at read
  rw [tokens, read]
  exact congrArg Except.ok (List.append_nil row)

/-- A text that is split up to a character at which no lexeme begins is refused for that. -/
theorem tokens_of_stuck {text : List Char} {stop : Nat} {row : List Token} {character : Char}
    (splits : Splits text 0 stop row) (stuck : Stuck text stop character) :
    tokens text = .error (.unexpected [character] stop) := by
  obtain ⟨others, text_eq⟩ := List.head?_eq_some_iff.mp
    ((List.head?_drop).trans stuck.here)
  have missing : lexeme? (character :: others) = none := by
    rw [← text_eq]
    exact (lexeme?_eq_none_iff _).mpr stuck.hopeless
  have read := tokensFrom_of_splits splits
  rw [List.drop_zero, text_eq, tokensFrom_none (by simp [stuck.visible]) missing] at read
  exact read

/--
A text is read as a row of tokens exactly if the row splits it: every token is what the rules select
where it stands, and what the tokens leave over is white space.  Otherwise the text is refused, with
the first visible character at which no lexeme begins behind the tokens before it.  The positions of
the tokens increase, each token is spelled as the text at its position, and in a text that the first
scan lets pass it is spelled in ASCII.
-/
theorem tokens_exact (text : List Char) :
    (∀ row, tokens text = .ok row ↔ Splits text 0 text.length row) ∧
    (∀ fault, tokens text = .error fault ↔
      ∃ row stop character, Splits text 0 stop row ∧ Stuck text stop character ∧
        fault = .unexpected [character] stop) ∧
    (∀ row, tokens text = .ok row →
      (row.map Token.position).Pairwise (· < ·) ∧
        ∀ token ∈ row,
          (text.drop token.position).take token.lexeme.spelling.length = token.lexeme.spelling ∧
            (checkSafety text = .ok () →
              ∀ character ∈ token.lexeme.spelling, Text.isAscii character = true)) := by
  obtain ⟨stop, row, splits, ended⟩ := exists_splits text (Nat.zero_le text.length)
  have read_iff (other : List Token) :
      tokens text = .ok other ↔ Splits text 0 text.length other := by
    refine ⟨?_, tokens_of_splits⟩
    intro read
    rcases ended with rfl | ⟨character, stuck⟩
    · rw [tokens_of_splits splits] at read
      cases read
      exact splits
    · rw [tokens_of_stuck splits stuck] at read
      contradiction
  refine ⟨read_iff, ?_, ?_⟩
  · intro fault
    constructor
    · intro refused
      rcases ended with rfl | ⟨character, stuck⟩
      · rw [tokens_of_splits splits] at refused
        contradiction
      · rw [tokens_of_stuck splits stuck] at refused
        exact ⟨row, stop, character, splits, stuck, (Except.error.inj refused).symm⟩
    · rintro ⟨other, position, character, other_splits, stuck, rfl⟩
      exact tokens_of_stuck other_splits stuck
  · intro other read
    have other_splits := (read_iff other).mp read
    refine ⟨other_splits.increasing, ?_⟩
    intro token member
    refine ⟨(other_splits.selected token member).take_eq, ?_⟩
    intro safe character mentioned
    have spelled := spelling_infix_of_mem_tokensFrom read member
    exact (((checkSafety_eq_ok_iff text).mp safe).2 character (spelled.mem mentioned)).2

/-- A point without a digit behind it is no part of a number, and begins nothing. -/
example : tokens ['1', '.', '5', ' ', '2', '.'] = .error (.unexpected ['.'] 5) := by
  cbv

end Appraisal.Condition
