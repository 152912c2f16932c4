import Appraisal.Proofs.Condition.Lexing

/-!
# Which lexeme is selected

The rules by which lexemes are told from each other, without a reader.  A lexeme has one of a few
shapes, and it ends only where its shape cannot go on: a number where no digit follows, nor a point
with a digit, a word where no letter, digit or point follows, a sign where no longer sign begins.
The reader of single lexemes selects by exactly these rules, and gives up exactly where no shape
begins (`lexeme?_eq_some_iff`, `lexeme?_eq_none_iff`).
-/

namespace Appraisal.Condition

/-! ## Characters at which lexemes begin -/

/-- Beyond ASCII no decimal digit is white space. -/
theorem not_blank_of_decimal {point : Nat}
    (decimal : Text.Ranges.holds Text.Ranges.decimal point = true) :
    Text.Ranges.holds Text.Ranges.blank point = false := by
  have disjoint : ∀ digits ∈ Text.Ranges.decimal, ∀ blanks ∈ Text.Ranges.blank,
      digits.2 < blanks.1 ∨ blanks.2 < digits.1 := by decide
  rw [Text.Ranges.holds, List.any_eq_true] at decimal
  obtain ⟨digits, digits_member, inside⟩ := decimal
  rw [Text.Ranges.holds, List.any_eq_false]
  intro blanks blanks_member
  have apart := disjoint digits digits_member blanks blanks_member
  simp only [Bool.and_eq_true, decide_eq_true_eq, not_and] at inside ⊢
  omega

theorem isBlank_of_isDecimalDigit {character : Char}
    (digit : Text.isDecimalDigit character = true) : Text.isBlank character = false := by
  rw [Text.isDecimalDigit] at digit
  rw [Text.isBlank]
  split at digit
  · rename_i ascii
    rw [if_pos ascii]
    simp [Char.isDigit, UInt32.le_iff_toNat_le] at digit
    simp
    omega
  · rename_i beyond
    rw [if_neg beyond]
    exact not_blank_of_decimal digit

/-- Paths start in the part of ASCII that holds the letters. -/
theorem bounds_of_isPathStart {character : Char} (start : Text.isPathStart character = true) :
    65 ≤ character.toNat ∧ character.toNat ≤ 122 := by
  rw [Text.isPathStart] at start
  delta Char.isAlpha Char.isUpper Char.isLower at start
  simp [UInt32.le_iff_toNat_le] at start
  rcases start with (upper | lower) | rfl
  · omega
  · omega
  · decide

theorem isAscii_of_isPathStart {character : Char} (start : Text.isPathStart character = true) :
    Text.isAscii character = true := by
  have bounds := bounds_of_isPathStart start
  simp [Text.isAscii, UInt32.lt_iff_toNat_lt]
  omega

theorem isBlank_of_isPathStart {character : Char} (start : Text.isPathStart character = true) :
    Text.isBlank character = false := by
  have bounds := bounds_of_isPathStart start
  rw [Text.isBlank, if_pos (isAscii_of_isPathStart start)]
  simp
  omega

theorem isDecimalDigit_of_isPathStart {character : Char}
    (start : Text.isPathStart character = true) : Text.isDecimalDigit character = false := by
  have bounds := bounds_of_isPathStart start
  rw [Text.isDecimalDigit, if_pos (isAscii_of_isPathStart start)]
  simp [Char.isDigit, UInt32.le_iff_toNat_le]
  omega

/-! ## The rules -/

/-- No character with a property comes next. -/
def StopsAt (property : Char → Bool) (rest : List Char) : Prop :=
  ∀ character ∈ rest.head?, property character = false

/-- What follows a lexeme does not belong to it. -/
def Lexeme.EndsBefore : Lexeme → List Char → Prop
  | .number _ none, rest =>
      StopsAt Text.isDecimalDigit rest ∧
        ∀ next others, rest = '.' :: next :: others → Text.isDecimalDigit next = false
  | .number _ (some _), rest => StopsAt Text.isDecimalDigit rest
  | .word _, rest => StopsAt isPathPart rest
  | .binary .less, rest | .binary .greater, rest | .unary .negation, rest => StopsAt (· == '=') rest
  | _, _ => True

/-- A lexeme is the one that the rules select at the start of a text. -/
def Lexeme.Selected (lexeme : Lexeme) (text : List Char) : Prop :=
  lexeme.Shaped ∧ ∃ rest, text = lexeme.spelling ++ rest ∧ lexeme.EndsBefore rest

section Runs

variable {property : Char → Bool} {inside rest : List Char}

theorem stopsAt_dropWhile (property : Char → Bool) (text : List Char) :
    StopsAt property (text.dropWhile property) := by
  intro character first
  have stopped := List.head?_dropWhile_not property text
  rw [Option.mem_def.mp first] at stopped
  simpa using stopped

theorem takeWhile_of_stopsAt (all : inside.all property = true) (stops : StopsAt property rest) :
    (inside ++ rest).takeWhile property = inside := by
  rw [List.takeWhile_append_of_pos (List.all_eq_true.mp all)]
  cases rest with
  | nil => simp
  | cons next others => simp [stops next rfl]

theorem dropWhile_of_stopsAt (all : inside.all property = true) (stops : StopsAt property rest) :
    (inside ++ rest).dropWhile property = rest := by
  rw [List.dropWhile_append_of_pos (List.all_eq_true.mp all)]
  cases rest with
  | nil => rfl
  | cons next others => simp [stops next rfl]

end Runs

/-! ## What is read is selected -/

theorem numberFrom_selected {first : Char} (digit : Text.isDecimalDigit first = true)
    (rest : List Char) :
    (numberFrom first rest).1.Shaped ∧
      (numberFrom first rest).1.EndsBefore (numberFrom first rest).2 := by
  have whole_digits :
      (first :: rest.takeWhile Text.isDecimalDigit).all Text.isDecimalDigit = true := by
    simp [digit]
  have whole_ends := stopsAt_dropWhile Text.isDecimalDigit rest
  unfold numberFrom
  split
  next after after_eq =>
    rw [after_eq] at whole_ends
    dsimp only
    split
    · rename_i no_fraction
      refine ⟨⟨by simp, whole_digits, by simp⟩, whole_ends, ?_⟩
      rintro next others same
      obtain rfl := (List.cons.inj same).2
      simpa using no_fraction
    · rename_i fraction
      refine ⟨⟨by simp, whole_digits, ?_⟩, stopsAt_dropWhile Text.isDecimalDigit after⟩
      rintro digits ⟨⟩
      exact ⟨by simpa using fraction, by simp⟩
  next no_point =>
    refine ⟨⟨by simp, whole_digits, by simp⟩, whole_ends, ?_⟩
    intro next others same
    exact absurd same (no_point (next :: others))

/-- A sign that is not followed by an equals sign. -/
theorem stopsAt_equals {rest : List Char} (other : ∀ others, rest ≠ '=' :: others) :
    StopsAt (· == '=') rest := by
  rintro next first
  obtain ⟨others, rfl⟩ := List.head?_eq_some_iff.mp first
  have different : next ≠ '=' := by
    rintro rfl
    exact other others rfl
  simpa using different

theorem sign?_selected {text : List Char} {lexeme : Lexeme} {rest : List Char}
    (found : sign? text = some (lexeme, rest)) : lexeme.Shaped ∧ lexeme.EndsBefore rest := by
  unfold sign? at found
  split at found <;> cases found
  -- The short signs are found only where the longer ones were not.
  case h_7 longer | h_8 longer | h_9 longer =>
    exact ⟨trivial, stopsAt_equals fun others same => longer others same⟩
  all_goals exact ⟨trivial, trivial⟩

theorem lexeme?_selected {text : List Char} {lexeme : Lexeme} {rest : List Char}
    (found : lexeme? text = some (lexeme, rest)) : lexeme.Shaped ∧ lexeme.EndsBefore rest := by
  cases text with
  | nil => simp [lexeme?] at found
  | cons first others =>
      rw [lexeme?] at found
      split at found
      · rename_i digit
        have selected := numberFrom_selected digit others
        rwa [Option.some.inj found] at selected
      · split at found
        · split at found
          · contradiction
          · obtain ⟨rfl, rfl⟩ := Prod.mk.inj (Option.some.inj found)
            refine ⟨?_, trivial⟩
            intro quote
            simpa using List.mem_takeWhile_imp quote
        · split at found
          · rename_i start
            obtain ⟨rfl, rfl⟩ := Prod.mk.inj (Option.some.inj found)
            exact ⟨⟨start, by simp⟩, stopsAt_dropWhile isPathPart others⟩
          · exact sign?_selected found

/-! ## What is selected is read -/

theorem numberFrom_of_selected {first : Char} {digits : List Char} {fraction : Option (List Char)}
    {rest : List Char} (shaped : (Lexeme.number (first :: digits) fraction).Shaped)
    (ends : (Lexeme.number (first :: digits) fraction).EndsBefore rest)
    {text : List Char}
    (spelled : first :: text = (Lexeme.number (first :: digits) fraction).spelling ++ rest) :
    numberFrom first text = (.number (first :: digits) fraction, rest) := by
  obtain ⟨_, all_digits, fraction_shaped⟩ := shaped
  rw [List.all_cons, Bool.and_eq_true] at all_digits
  cases fraction with
  | none =>
      obtain ⟨stops, no_fraction⟩ := ends
      obtain rfl : text = digits ++ rest := (List.cons.inj spelled).2
      rw [numberFrom, takeWhile_of_stopsAt all_digits.2 stops,
        dropWhile_of_stopsAt all_digits.2 stops]
      split
      · rename_i after
        have nothing : after.takeWhile Text.isDecimalDigit = [] := by
          cases after with
          | nil => rfl
          | cons next others => simp [no_fraction next others rfl]
        simp [nothing]
      · rfl
  | some fraction =>
      obtain ⟨fraction_ne, fraction_digits⟩ := fraction_shaped fraction rfl
      have point_stops : StopsAt Text.isDecimalDigit ('.' :: (fraction ++ rest)) := by
        rintro _ ⟨⟩
        decide
      obtain rfl : text = digits ++ '.' :: (fraction ++ rest) := by
        simpa [Lexeme.spelling] using spelled
      rw [numberFrom, takeWhile_of_stopsAt all_digits.2 point_stops,
        dropWhile_of_stopsAt all_digits.2 point_stops]
      simp only [takeWhile_of_stopsAt fraction_digits ends,
        dropWhile_of_stopsAt fraction_digits ends]
      simp [fraction_ne]

theorem lexeme?_quote {content : List Char} (plain : '\'' ∉ content) (rest : List Char) :
    lexeme? ('\'' :: (content ++ '\'' :: rest)) = some (.text content, rest) := by
  have inside : content.all (· ≠ '\'') = true := by
    rw [List.all_eq_true]
    intro character member
    have different : character ≠ '\'' := by
      rintro rfl
      exact plain member
    simpa using different
  have stops : StopsAt (· ≠ '\'') ('\'' :: rest) := by
    rintro _ ⟨⟩
    decide
  rw [lexeme?, if_neg (by decide), if_pos rfl, dropWhile_of_stopsAt inside stops,
    takeWhile_of_stopsAt inside stops]

theorem lexeme?_word {first : Char} (start : Text.isPathStart first = true) (rest : List Char) :
    lexeme? (first :: rest) =
      some (.word (first :: rest.takeWhile isPathPart), rest.dropWhile isPathPart) := by
  have no_digit := isDecimalDigit_of_isPathStart start
  have no_quote : first ≠ '\'' := by
    rintro rfl
    exact absurd start (by decide)
  rw [lexeme?, no_digit, if_neg (by decide), if_neg no_quote, if_pos start]

/-- Neither a digit nor a quote nor what a path starts with. -/
def IsMark (character : Char) : Prop :=
  Text.isDecimalDigit character = false ∧ character ≠ '\'' ∧ Text.isPathStart character = false

instance (character : Char) : Decidable (IsMark character) :=
  inferInstanceAs (Decidable (_ ∧ _ ∧ _))

theorem lexeme?_of_isMark {first : Char} (mark : IsMark first) (rest : List Char) :
    lexeme? (first :: rest) = sign? (first :: rest) := by
  obtain ⟨no_digit, no_quote, no_start⟩ := mark
  rw [lexeme?, no_digit, no_start]
  simp [no_quote]

theorem sign?_binary {operator : BinaryOperator} {rest : List Char}
    (ends : (Lexeme.binary operator).EndsBefore rest) :
    sign? (operator.spelling ++ rest) = some (.binary operator, rest) := by
  cases operator with
  | less | greater =>
      cases rest with
      | nil => rfl
      | cons next others =>
          have different := ends next rfl
          simp only [beq_eq_false_iff_ne] at different
          simp [BinaryOperator.spelling, sign?, different]
  | _ => rfl

theorem sign?_unary {operator : UnaryOperator} {rest : List Char}
    (ends : (Lexeme.unary operator).EndsBefore rest) :
    sign? (operator.spelling ++ rest) = some (.unary operator, rest) := by
  cases operator with
  | negation =>
      cases rest with
      | nil => rfl
      | cons next others =>
          have different := ends next rfl
          simp only [beq_eq_false_iff_ne] at different
          simp [UnaryOperator.spelling, sign?, different]
  | opposite => rfl

theorem lexeme?_binary (operator : BinaryOperator) (rest : List Char) :
    lexeme? (operator.spelling ++ rest) = sign? (operator.spelling ++ rest) := by
  cases operator <;> exact lexeme?_of_isMark (by decide) _

theorem lexeme?_unary (operator : UnaryOperator) (rest : List Char) :
    lexeme? (operator.spelling ++ rest) = sign? (operator.spelling ++ rest) := by
  cases operator <;> exact lexeme?_of_isMark (by decide) _

theorem lexeme?_of_selected {lexeme : Lexeme} {rest : List Char} (shaped : lexeme.Shaped)
    (ends : lexeme.EndsBefore rest) : lexeme? (lexeme.spelling ++ rest) = some (lexeme, rest) := by
  cases lexeme with
  | number whole fraction =>
      cases whole with
      | nil => exact absurd rfl shaped.1
      | cons first digits =>
          have digit : Text.isDecimalDigit first = true :=
            List.all_eq_true.mp shaped.2.1 first List.mem_cons_self
          obtain ⟨text, spelled⟩ : ∃ text,
              first :: text = (Lexeme.number (first :: digits) fraction).spelling ++ rest := by
            cases fraction <;> exact ⟨_, rfl⟩
          rw [← spelled, lexeme?, if_pos digit, numberFrom_of_selected shaped ends spelled]
  | text content =>
      simpa [Lexeme.spelling] using lexeme?_quote shaped rest
  | word name =>
      cases name with
      | nil => exact absurd shaped id
      | cons first others =>
          obtain ⟨start, parts⟩ := shaped
          rw [Lexeme.spelling, List.cons_append, lexeme?_word start,
            takeWhile_of_stopsAt parts ends, dropWhile_of_stopsAt parts ends]
  | binary operator => exact (lexeme?_binary operator rest).trans (sign?_binary ends)
  | unary operator => exact (lexeme?_unary operator rest).trans (sign?_unary ends)
  | opening => exact lexeme?_of_isMark (by decide) rest
  | closing => exact lexeme?_of_isMark (by decide) rest

/-- The reader of lexemes selects by the rules. -/
theorem lexeme?_eq_some_iff (text : List Char) (lexeme : Lexeme) (rest : List Char) :
    lexeme? text = some (lexeme, rest) ↔
      text = lexeme.spelling ++ rest ∧ lexeme.Shaped ∧ lexeme.EndsBefore rest := by
  constructor
  · intro found
    exact ⟨(lexeme?_spelling found).symm, lexeme?_selected found⟩
  · rintro ⟨rfl, shaped, ends⟩
    exact lexeme?_of_selected shaped ends

/-- A sign is read wherever one begins, be it this one or a longer one. -/
theorem sign?_ne_none_binary (operator : BinaryOperator) (rest : List Char) :
    sign? (operator.spelling ++ rest) ≠ none := by
  cases operator with
  | less | greater =>
      rw [BinaryOperator.spelling, List.singleton_append]
      unfold sign?
      split <;> simp_all
  | _ => simp [BinaryOperator.spelling, sign?]

theorem sign?_ne_none_unary (operator : UnaryOperator) (rest : List Char) :
    sign? (operator.spelling ++ rest) ≠ none := by
  cases operator with
  | negation =>
      rw [UnaryOperator.spelling, List.singleton_append]
      unfold sign?
      split <;> simp_all
  | opposite => simp [UnaryOperator.spelling, sign?]

/-- Where a lexeme begins, one is read. -/
theorem lexeme?_ne_none {lexeme : Lexeme} (shaped : lexeme.Shaped) (rest : List Char) :
    lexeme? (lexeme.spelling ++ rest) ≠ none := by
  cases lexeme with
  | number whole fraction =>
      cases whole with
      | nil => exact absurd rfl shaped.1
      | cons first digits =>
          have digit : Text.isDecimalDigit first = true :=
            List.all_eq_true.mp shaped.2.1 first List.mem_cons_self
          cases fraction <;> simp [Lexeme.spelling, lexeme?, digit]
  | word name =>
      cases name with
      | nil => exact absurd shaped id
      | cons first others =>
          rw [Lexeme.spelling, List.cons_append, lexeme?_word shaped.1]
          simp
  | binary operator =>
      rw [Lexeme.spelling, lexeme?_binary]
      exact sign?_ne_none_binary operator rest
  | unary operator =>
      rw [Lexeme.spelling, lexeme?_unary]
      exact sign?_ne_none_unary operator rest
  | text | opening | closing => simp [lexeme?_of_selected shaped trivial]

/-- The reader of lexemes gives up exactly where no lexeme begins. -/
theorem lexeme?_eq_none_iff (text : List Char) :
    lexeme? text = none ↔ ∀ lexeme : Lexeme, lexeme.Shaped → ¬ lexeme.spelling <+: text := by
  constructor
  · rintro missing lexeme shaped ⟨rest, rfl⟩
    exact lexeme?_ne_none shaped rest missing
  · intro none_begins
    cases found : lexeme? text with
    | none => rfl
    | some selection =>
        obtain ⟨spelled, shaped, _⟩ := (lexeme?_eq_some_iff text selection.1 selection.2).mp found
        exact absurd ⟨selection.2, spelled.symm⟩ (none_begins selection.1 shaped)

/-! ## Selected lexemes in a text -/

/-- A lexeme starts with a visible character. -/
theorem Lexeme.Shaped.spelling_eq {lexeme : Lexeme} (shaped : lexeme.Shaped) :
    ∃ first others, lexeme.spelling = first :: others ∧ Text.isBlank first = false := by
  cases lexeme with
  | number whole fraction =>
      cases whole with
      | nil => exact absurd rfl shaped.1
      | cons first digits =>
          have digit : Text.isDecimalDigit first = true :=
            List.all_eq_true.mp shaped.2.1 first List.mem_cons_self
          cases fraction <;> exact ⟨first, _, rfl, isBlank_of_isDecimalDigit digit⟩
  | word name =>
      cases name with
      | nil => exact absurd shaped id
      | cons first others => exact ⟨first, others, rfl, isBlank_of_isPathStart shaped.1⟩
  | binary operator => cases operator <;> exact ⟨_, _, rfl, by decide⟩
  | unary operator => cases operator <;> exact ⟨_, _, rfl, by decide⟩
  | text | opening | closing => exact ⟨_, _, rfl, by decide⟩

/-- A selected lexeme is spelled at the start of its text. -/
theorem Lexeme.Selected.take_eq {lexeme : Lexeme} {text : List Char}
    (selected : lexeme.Selected text) : text.take lexeme.spelling.length = lexeme.spelling := by
  obtain ⟨_, rest, rfl, _⟩ := selected
  exact List.take_left

end Appraisal.Condition
