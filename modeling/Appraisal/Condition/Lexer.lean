import Appraisal.Condition.Fault
import Appraisal.Condition.Token

/-!
# Lexing conditions

A text is first scanned for characters that no condition may hold, and then split into tokens from
the left.  Each token takes as many characters as its kind allows.
-/

namespace Appraisal.Condition

/-- The characters that the first scan lets pass; those beyond ASCII are left to the second. -/
def isAllowed (character : Char) : Bool :=
  Text.isWord character || Text.isBlank character || "().!<>=&|'.:-".toList.contains character

/-- The first character with a property, and its position. -/
def firstWhere? (property : Char → Bool) : List Char → (position : Nat) → Option (Char × Nat)
  | [], _ => none
  | character :: rest, position =>
      if property character then some (character, position)
      else firstWhere? property rest (position + 1)

/--
Refuse a text that is too long or holds a disallowed character.  A character beyond ASCII is
reported only if no ASCII rule is broken anywhere in the text and it is a letter, digit or blank.
-/
def checkSafety (text : List Char) : Except Fault Unit :=
  if maxLength < text.length then .error .tooLong
  else
    match (firstWhere? (fun character => !isAllowed character) text 0).or
        (firstWhere? (fun character => !Text.isAscii character) text 0) with
    | some (character, position) => .error (.disallowed character position)
    | none => .ok ()

/-- The operator or parenthesis at the start of a text; a longer sign wins over a shorter one. -/
def sign? : List Char → Option (Lexeme × List Char)
  | '|' :: '|' :: rest => some (.binary .disjunction, rest)
  | '&' :: '&' :: rest => some (.binary .conjunction, rest)
  | '=' :: '=' :: rest => some (.binary .equal, rest)
  | '!' :: '=' :: rest => some (.binary .unequal, rest)
  | '<' :: '=' :: rest => some (.binary .atMost, rest)
  | '>' :: '=' :: rest => some (.binary .atLeast, rest)
  | '<' :: rest => some (.binary .less, rest)
  | '>' :: rest => some (.binary .greater, rest)
  | '!' :: rest => some (.unary .negation, rest)
  | '-' :: rest => some (.unary .opposite, rest)
  | '(' :: rest => some (.opening, rest)
  | ')' :: rest => some (.closing, rest)
  | _ => none

/-- A number whose first digit is given: all digits that follow, and a fraction if it has a digit. -/
def numberFrom (first : Char) (rest : List Char) : Lexeme × List Char :=
  let whole := first :: rest.takeWhile Text.isDecimalDigit
  match rest.dropWhile Text.isDecimalDigit with
  | '.' :: after =>
      let fraction := after.takeWhile Text.isDecimalDigit
      if fraction.isEmpty then (.number whole none, '.' :: after)
      else (.number whole (some fraction), after.dropWhile Text.isDecimalDigit)
  | after => (.number whole none, after)

/-- The lexeme at the start of a text, and what follows it. -/
def lexeme? : List Char → Option (Lexeme × List Char)
  | [] => none
  | first :: rest =>
      if Text.isDecimalDigit first then some (numberFrom first rest)
      else if first = '\'' then
        match rest.dropWhile (· ≠ '\'') with
        | [] => none
        | _ :: after => some (.text (rest.takeWhile (· ≠ '\'')), after)
      else if Text.isPathStart first then
        some (.word (first :: rest.takeWhile isPathPart), rest.dropWhile isPathPart)
      else sign? (first :: rest)

theorem length_dropWhile_le (property : Char → Bool) (text : List Char) :
    (text.dropWhile property).length ≤ text.length := by
  induction text with
  | nil => simp
  | cons first rest induction =>
      simp only [List.dropWhile_cons]
      split
      · exact Nat.le_succ_of_le induction
      · exact Nat.le_refl _

theorem numberFrom_shorter (first : Char) (rest : List Char) :
    (numberFrom first rest).2.length ≤ rest.length := by
  have drop := length_dropWhile_le Text.isDecimalDigit rest
  unfold numberFrom
  split
  next after after_eq =>
    rw [after_eq] at drop
    have further := length_dropWhile_le Text.isDecimalDigit after
    simp only [List.length_cons] at drop
    dsimp only
    split
    · simpa using drop
    · dsimp only
      omega
  next => exact drop

theorem sign?_shorter {text : List Char} {lexeme : Lexeme} {rest : List Char}
    (found : sign? text = some (lexeme, rest)) : rest.length < text.length := by
  unfold sign? at found
  split at found <;> cases found <;> simp only [List.length_cons] <;> omega

/-- A lexeme takes at least one character. -/
theorem lexeme?_shorter {text : List Char} {lexeme : Lexeme} {rest : List Char}
    (found : lexeme? text = some (lexeme, rest)) : rest.length < text.length := by
  cases text with
  | nil => simp [lexeme?] at found
  | cons first others =>
      simp only [lexeme?] at found
      split at found
      · have shorter := numberFrom_shorter first others
        rw [Option.some.inj found] at shorter
        exact Nat.lt_succ_of_le shorter
      · split at found
        · have drop := length_dropWhile_le (· ≠ '\'') others
          split at found
          · contradiction
          next after after_eq =>
            rw [after_eq] at drop
            simp only [Option.some.injEq, Prod.mk.injEq] at found
            obtain ⟨_, rfl⟩ := found
            simp only [List.length_cons] at drop ⊢
            omega
        · split at found
          · have drop := length_dropWhile_le isPathPart others
            simp only [Option.some.injEq, Prod.mk.injEq] at found
            obtain ⟨_, rfl⟩ := found
            exact Nat.lt_succ_of_le drop
          · exact sign?_shorter found

/-- Split a text into tokens, blanks dropped; `position` counts the characters before the text. -/
def tokensFrom (text : List Char) (position : Nat) : Except Fault (List Token) :=
  match text with
  | [] => .ok []
  | first :: rest =>
      if Text.isBlank first then tokensFrom rest (position + 1)
      else
        match _found : lexeme? (first :: rest) with
        | none => .error (.unexpected [first] position)
        | some (lexeme, after) =>
            (tokensFrom after (position + lexeme.spelling.length)).map (⟨lexeme, position⟩ :: ·)
termination_by text.length
decreasing_by
  · simp
  · exact lexeme?_shorter (by assumption)

/-- The tokens of a text. -/
def tokens (text : List Char) : Except Fault (List Token) :=
  tokensFrom text 0

end Appraisal.Condition
