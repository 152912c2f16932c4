import Appraisal.Proofs.Condition.Branches
import Appraisal.Proofs.Condition.Meaning
import Appraisal.Proofs.Condition.Parsing

/-!
# What a tree keeps of its text

A lexeme is spelled as the text it was taken from, so all that is spelled in the tokens of a text
comes from one stretch of it, and every leaf of a tree is named by a lexeme of the row it was read
from.  The first scan lets short texts of ASCII characters pass, and for that the paths of a parsed
text are plain.
-/

namespace Appraisal.Condition

theorem firstWhere?_eq_none_iff (property : Char → Bool) (text : List Char) (position : Nat) :
    firstWhere? property text position = none ↔
      ∀ character ∈ text, property character = false := by
  induction text generalizing position with
  | nil => simp [firstWhere?]
  | cons character rest induction =>
      rw [firstWhere?, List.forall_mem_cons]
      split
      · rename_i holds
        simp [holds]
      · rename_i fails
        rw [induction, Bool.eq_false_iff.mpr fails]
        simp

/-- The first scan lets exactly the short texts of allowed ASCII characters pass. -/
theorem checkSafety_eq_ok_iff (text : List Char) :
    checkSafety text = .ok () ↔
      text.length ≤ maxLength ∧
        ∀ character ∈ text, isAllowed character = true ∧ Text.isAscii character = true := by
  rw [checkSafety]
  split
  · rename_i long
    constructor
    · intro passed
      contradiction
    · rintro ⟨short, _⟩
      exact absurd short (Nat.not_le.mpr long)
  · rename_i short
    have scanned :
        (firstWhere? (fun character => !isAllowed character) text 0).or
            (firstWhere? (fun character => !Text.isAscii character) text 0) = none ↔
          ∀ character ∈ text, isAllowed character = true ∧ Text.isAscii character = true := by
      rw [Option.or_eq_none_iff, firstWhere?_eq_none_iff, firstWhere?_eq_none_iff]
      simp only [Bool.not_eq_false', ← forall_and]
    rw [← scanned, and_iff_right (Nat.not_lt.mp short)]
    split
    · rename_i found
      simp [found]
    · rename_i found
      simp [found]

/-! ## Spellings -/

theorem numberFrom_spelling (first : Char) (rest : List Char) :
    (numberFrom first rest).1.spelling ++ (numberFrom first rest).2 = first :: rest := by
  have whole := List.takeWhile_append_dropWhile (p := Text.isDecimalDigit) (l := rest)
  unfold numberFrom
  split
  next after after_eq =>
    rw [after_eq] at whole
    have fraction := List.takeWhile_append_dropWhile (p := Text.isDecimalDigit) (l := after)
    dsimp only
    split
    · rw [Lexeme.spelling, List.cons_append, whole]
    · rw [Lexeme.spelling, List.cons_append, List.cons_append, List.append_assoc,
        List.cons_append, fraction, whole]
  next =>
    rw [Lexeme.spelling, List.cons_append, whole]

theorem sign?_spelling {text : List Char} {lexeme : Lexeme} {rest : List Char}
    (found : sign? text = some (lexeme, rest)) : lexeme.spelling ++ rest = text := by
  unfold sign? at found
  split at found <;> cases found <;> rfl

/-- A lexeme and what follows it make up the text. -/
theorem lexeme?_spelling {text : List Char} {lexeme : Lexeme} {rest : List Char}
    (found : lexeme? text = some (lexeme, rest)) : lexeme.spelling ++ rest = text := by
  cases text with
  | nil => simp [lexeme?] at found
  | cons first others =>
      rw [lexeme?] at found
      split at found
      · have spelled := numberFrom_spelling first others
        rwa [Option.some.inj found] at spelled
      · split at found
        · rename_i quote
          have quoted := List.takeWhile_append_dropWhile (p := (· ≠ '\'')) (l := others)
          split at found
          · contradiction
          next closing after after_eq =>
            have closing_eq : closing = '\'' := by
              have stopped := List.head?_dropWhile_not (· ≠ '\'') others
              rw [after_eq] at stopped
              simpa using stopped
            obtain ⟨rfl, rfl⟩ := Prod.mk.inj (Option.some.inj found)
            rw [after_eq, closing_eq] at quoted
            rw [Lexeme.spelling, quote]
            simpa using quoted
        · split at found
          · obtain ⟨rfl, rfl⟩ := Prod.mk.inj (Option.some.inj found)
            rw [Lexeme.spelling, List.cons_append, List.takeWhile_append_dropWhile]
          · exact sign?_spelling found

theorem tokensFrom_blank {first : Char} (blank : Text.isBlank first = true) (rest : List Char)
    (position : Nat) : tokensFrom (first :: rest) position = tokensFrom rest (position + 1) := by
  rw [tokensFrom, if_pos blank]

/-- A lexeme at the start of a text is its first token. -/
theorem tokensFrom_lexeme {first : Char} {rest : List Char} (visible : ¬ Text.isBlank first = true)
    {lexeme : Lexeme} {after : List Char}
    (found : lexeme? (first :: rest) = some (lexeme, after)) (position : Nat) :
    tokensFrom (first :: rest) position =
      (tokensFrom after (position + lexeme.spelling.length)).map (⟨lexeme, position⟩ :: ·) := by
  rw [tokensFrom, if_neg visible]
  split
  · rename_i missing
    rw [missing] at found
    contradiction
  · rename_i other other_after other_found
    obtain ⟨rfl, rfl⟩ := Prod.mk.inj (Option.some.inj (found.symm.trans other_found))
    rfl

theorem tokensFrom_none {first : Char} {rest : List Char} (visible : ¬ Text.isBlank first = true)
    (missing : lexeme? (first :: rest) = none) (position : Nat) :
    tokensFrom (first :: rest) position = .error (.unexpected [first] position) := by
  rw [tokensFrom, if_neg visible]
  split
  · rfl
  · rename_i other other_after found
    rw [missing] at found
    contradiction

/-- Every token is the first lexeme of what is left of the text at some place. -/
theorem exists_lexeme?_of_mem_tokensFrom {text : List Char} {position : Nat} {row : List Token}
    (found : tokensFrom text position = .ok row) {token : Token} (member : token ∈ row) :
    ∃ left rest, left <:+ text ∧ lexeme? left = some (token.lexeme, rest) := by
  induction text, position using tokensFrom.induct generalizing row with
  | case1 position =>
      rw [tokensFrom] at found
      cases found
      contradiction
  | case2 position first rest blank induction =>
      rw [tokensFrom_blank blank] at found
      obtain ⟨left, further, suffix, selected⟩ := induction found member
      exact ⟨left, further, suffix.trans (List.suffix_cons first rest), selected⟩
  | case3 position first rest visible missing =>
      rw [tokensFrom_none visible missing] at found
      contradiction
  | case4 position first rest visible lexeme after first_found induction =>
      rw [tokensFrom_lexeme visible first_found] at found
      cases further : tokensFrom after (position + lexeme.spelling.length) with
      | error fault =>
          rw [further] at found
          contradiction
      | ok others =>
          rw [further] at found
          cases found
          rcases List.mem_cons.mp member with rfl | member
          · exact ⟨first :: rest, after, List.suffix_rfl, first_found⟩
          · obtain ⟨left, behind, suffix, selected⟩ := induction further member
            have after_suffix : after <:+ first :: rest :=
              ⟨lexeme.spelling, lexeme?_spelling first_found⟩
            exact ⟨left, behind, suffix.trans after_suffix, selected⟩

/-- Every token is spelled somewhere in the text. -/
theorem spelling_infix_of_mem_tokensFrom {text : List Char} {position : Nat} {row : List Token}
    (found : tokensFrom text position = .ok row) {token : Token} (member : token ∈ row) :
    token.lexeme.spelling <:+: text := by
  obtain ⟨left, rest, suffix, selected⟩ := exists_lexeme?_of_mem_tokensFrom found member
  have spelled : token.lexeme.spelling <+: left := ⟨rest, lexeme?_spelling selected⟩
  exact spelled.isInfix.trans suffix.isInfix

/-! ## Leaves -/

/-- A lexeme names a leaf of a tree. -/
inductive Lexeme.Names : Lexeme → Expression → Prop
  | number (whole : List Char) (fraction : Option (List Char)) :
      Names (.number whole fraction) (.literal (numeral whole fraction))
  | text (content : List Char) : Names (.text content) (.literal (.text (String.ofList content)))
  | constant {name : List Char} {value : Literal} (listed : (name, value) ∈ constants) :
      Names (.word name) (.literal value)
  | path {segments : List (List Char)} (segments_ne : segments ≠ [])
      (proper : ∀ segment ∈ segments, segment ≠ [] ∧ '.' ∉ segment) :
      Names (.word (['.'].intercalate segments)) (.path (segments.map String.ofList))

/-- Every leaf of a derived tree is named in the row. -/
theorem Derivation.exists_names {phrase : Phrase} (derivation : Derivation phrase)
    {node : Expression} (member : node ∈ derivation.tree.nodes) (leaf : node.isLeaf = true) :
    ∃ lexeme ∈ derivation.lexemes, lexeme.Names node := by
  induction derivation with
  | number whole fraction =>
      obtain rfl := List.mem_singleton.mp member
      exact ⟨_, List.mem_cons_self, .number whole fraction⟩
  | text content =>
      obtain rfl := List.mem_singleton.mp member
      exact ⟨_, List.mem_cons_self, .text content⟩
  | constant name value listed =>
      obtain rfl := List.mem_singleton.mp member
      exact ⟨_, List.mem_cons_self, .constant listed⟩
  | path segments segments_ne proper free =>
      obtain rfl := List.mem_singleton.mp member
      exact ⟨_, List.mem_cons_self, .path segments_ne proper⟩
  | unary operator operand induction =>
      rcases List.mem_cons.mp member with rfl | member
      · contradiction
      · obtain ⟨lexeme, found, names⟩ := induction member
        exact ⟨lexeme, by simp [found], names⟩
  | enclosed inner induction =>
      obtain ⟨lexeme, found, names⟩ := induction member
      exact ⟨lexeme, by simp [found], names⟩
  | single only induction => exact induction member
  | binary operator placed left right left_induction right_induction =>
      rcases List.mem_cons.mp member with rfl | member
      · contradiction
      · rcases List.mem_append.mp member with member | member
        · obtain ⟨lexeme, found, names⟩ := left_induction member
          exact ⟨lexeme, by simp [found], names⟩
        · obtain ⟨lexeme, found, names⟩ := right_induction member
          exact ⟨lexeme, by simp [found], names⟩

theorem parse_eq_ok_iff (text : String) (tree : Expression) :
    parse text = .ok tree ↔
      checkSafety text.toList = .ok () ∧
        ∃ row, tokens text.toList = .ok row ∧ parseTokens row = .ok tree := by
  rw [parse, bind_eq_ok_iff]
  constructor
  · rintro ⟨⟨⟩, safe, read⟩
    exact ⟨safe, bind_eq_ok_iff.mp read⟩
  · rintro ⟨safe, read⟩
    exact ⟨(), safe, bind_eq_ok_iff.mpr read⟩

/-- A parsed text is a row of derived lexemes within the limits. -/
theorem exists_derivation_of_parse {text : String} {tree : Expression}
    (parsed : parse text = .ok tree) :
    ∃ row, tokens text.toList = .ok row ∧ ∃ derivation : Derivation .condition,
      row.map Token.lexeme = derivation.lexemes ∧ derivation.tree = tree ∧ derivation.Fits := by
  obtain ⟨_, row, row_eq, accepted⟩ := (parse_eq_ok_iff text tree).mp parsed
  exact ⟨row, row_eq, parseTokens_sound accepted⟩

/-- A text of a single lexeme is parsed as the row of its one token. -/
theorem parse_of_lexeme {text : String} {first : Char} {rest : List Char} {lexeme : Lexeme}
    (spelled : text.toList = first :: rest) (safe : checkSafety text.toList = .ok ())
    (visible : ¬ Text.isBlank first = true) (found : lexeme? (first :: rest) = some (lexeme, [])) :
    parse text = parseTokens [⟨lexeme, 0⟩] := by
  have row : tokens text.toList = .ok [⟨lexeme, 0⟩] := by
    rw [spelled, tokens, tokensFrom_lexeme visible found, tokensFrom]
    rfl
  rw [parse, safe, row]
  rfl

/-- Every leaf of a parsed text is named by a lexeme that was selected in the text. -/
theorem exists_names_of_parse {text : String} {tree : Expression} (parsed : parse text = .ok tree)
    {node : Expression} (member : node ∈ tree.nodes) (leaf : node.isLeaf = true) :
    ∃ (lexeme : Lexeme) (left rest : List Char), lexeme.Names node ∧ left <:+ text.toList ∧
      lexeme? left = some (lexeme, rest) := by
  obtain ⟨row, row_eq, derivation, read, rfl, _⟩ := exists_derivation_of_parse parsed
  obtain ⟨lexeme, found, names⟩ := derivation.exists_names member leaf
  rw [← read] at found
  obtain ⟨token, token_member, rfl⟩ := List.mem_map.mp found
  obtain ⟨left, rest, suffix, selected⟩ := exists_lexeme?_of_mem_tokensFrom row_eq token_member
  exact ⟨token.lexeme, left, rest, names, suffix, selected⟩

/-- The paths of a parsed text are plain. -/
theorem parse_plain {text : String} {tree : Expression} (parsed : parse text = .ok tree) :
    tree.Plain := by
  obtain ⟨safe, _⟩ := (parse_eq_ok_iff text tree).mp parsed
  obtain ⟨short, allowed⟩ := (checkSafety_eq_ok_iff text.toList).mp safe
  intro path member segment segment_member
  obtain ⟨lexeme, left, rest, names, suffix, selected⟩ :=
    exists_names_of_parse parsed (Expression.mem_nodes_of_mem_paths member) rfl
  cases names with
  | path segments_ne proper =>
      obtain ⟨part, part_member, rfl⟩ := List.mem_map.mp segment_member
      have name_prefix : ['.'].intercalate _ <+: left := ⟨rest, lexeme?_spelling selected⟩
      have spelled := ((Text.infix_intercalate part_member).trans name_prefix.isInfix).trans
        suffix.isInfix
      rw [← String.toList_ofList (l := part)] at spelled
      refine ⟨fun character mentioned => (allowed character (spelled.mem mentioned)).2, ?_⟩
      calc
        (String.ofList part).toList.length ≤ text.toList.length := spelled.length_le
        _ ≤ maxLength := short
        _ ≤ Reading.longest := by decide

end Appraisal.Condition
