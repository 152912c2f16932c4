import Appraisal.Log.Style

/-!
# Message templates

A message may be a template with directives that arguments are put in place of.  A directive starts
with a percent sign and ends with the letter of a kind of text.  Between them may stand a name in
parentheses, flags, a least width, a precision and a mark of size that says nothing.  Width and
precision are digits, or a star that takes them from the arguments.  A percent sign that is doubled
stands for itself.
-/

namespace Appraisal.Log

/-- Why a template cannot be filled. -/
inductive TemplateFault
  | tooFew
  | tooMany
  | incomplete
  /-- The template ends inside the name of a directive. -/
  | incompleteName
  | unknownLetter (letter : Char) (position : Nat)
  /-- The arguments have no names. -/
  | namesExpected
  | unknownName (name : String)
  /-- The argument for a star is no whole number. -/
  | sizeExpected
  /-- The argument for the star of a width is too far from zero. -/
  | widthTooFar
  /-- The argument for the star of a precision is too far from zero. -/
  | precisionTooFar
  | widthTooBig
  | precisionTooBig
  /-- An argument cannot be written in the style of its directive. -/
  | argument (fault : StyleFault)
  deriving DecidableEq, Repr

/-- A character as it is shown in a fault. -/
def shown (character : Char) : Char :=
  if 31 ≤ character.toNat ∧ character.toNat ≤ 126 then character else '?'

/-- The sentence that describes a fault. -/
def TemplateFault.message : TemplateFault → String
  | .tooFew => "not enough arguments for format string"
  | .tooMany => "not all arguments converted during string formatting"
  | .incomplete => "incomplete format"
  | .incompleteName => "incomplete format key"
  | .unknownLetter letter position =>
      "unsupported format character '" ++ (shown letter).toString ++ "' (0x" ++
        String.ofList (Nat.toDigits 16 letter.toNat) ++ ") at index " ++ toString position
  | .namesExpected => "format requires a mapping"
  | .unknownName name => Text.quoted name
  | .sizeExpected => "* wants int"
  | .widthTooFar => "Python int too large to convert to C ssize_t"
  | .precisionTooFar => "Python int too large to convert to C int"
  | .widthTooBig => "width too big"
  | .precisionTooBig => "precision too big"
  | .argument fault => fault.message

/-- Where a width or a precision comes from. -/
inductive Size
  /-- From its digits. -/
  | given (value : Nat)
  /-- From the next argument. -/
  | asked
  deriving DecidableEq, Repr

/-- A place for an argument, but for the letter at its end. -/
structure Directive where
  /-- The name of the argument, if it is named. -/
  name : Option String
  flags : List Char
  /-- The least width, if there is one. -/
  width : Option Size
  /-- The precision, if there is one. -/
  precision : Option Size
  deriving DecidableEq, Repr

namespace Directive

/-- Whether a character is a flag. -/
def isFlag (character : Char) : Bool :=
  ['-', '+', ' ', '0', '#'].contains character

/-- What stands before the parenthesis that closes the outermost of some open ones, with what
follows it. -/
def untilClosed : (depth : Nat) → List Char → Option (List Char × List Char)
  | _, [] => none
  | 0, ')' :: rest => some ([], rest)
  | depth + 1, ')' :: rest => (untilClosed depth rest).map fun (name, rest) => (')' :: name, rest)
  | depth, '(' :: rest => (untilClosed (depth + 1) rest).map fun (name, rest) => ('(' :: name, rest)
  | depth, character :: rest =>
      (untilClosed depth rest).map fun (name, rest) => (character :: name, rest)

/-- A width at the front, with what follows it. -/
def leadingWidth : List Char → Option Size × List Char
  | '*' :: rest => (some .asked, rest)
  | text =>
      let digits := text.takeWhile Char.isDigit
      (if digits.isEmpty then none else some (.given (Reading.natural digits)),
        text.dropWhile Char.isDigit)

/-- A precision after a point, with what follows it; a point alone gives none of it. -/
def leadingPrecision : List Char → Option Size × List Char
  | '.' :: rest =>
      let (size, rest) := leadingWidth rest
      (some (size.getD (.given 0)), rest)
  | text => (none, text)

/-- Drop a mark of size. -/
def withoutMark : List Char → List Char
  | mark :: rest => if ['h', 'l', 'L'].contains mark then rest else mark :: rest
  | [] => []

theorem length_leadingWidth (text : List Char) : (leadingWidth text).2.length ≤ text.length := by
  unfold leadingWidth
  split
  · simp
  · exact (List.dropWhile_sublist _).length_le

theorem length_leadingPrecision (text : List Char) :
    (leadingPrecision text).2.length ≤ text.length := by
  unfold leadingPrecision
  split
  · rename_i rest
    have := length_leadingWidth rest
    simp only [List.length_cons]
    omega
  · exact Nat.le_refl _

theorem length_withoutMark (text : List Char) : (withoutMark text).length ≤ text.length := by
  unfold withoutMark
  split
  · split <;> simp
  · exact Nat.le_refl _

theorem length_untilClosed {depth : Nat} {text name rest : List Char}
    (closed : untilClosed depth text = some (name, rest)) : rest.length < text.length := by
  induction text generalizing depth name with
  | nil => simp [untilClosed] at closed
  | cons character text induction =>
      simp only [List.length_cons]
      unfold untilClosed at closed
      split at closed
      · contradiction
      · rename_i same
        obtain ⟨-, rfl⟩ := List.cons.inj same
        simp_all
      all_goals
        rename_i same
        obtain ⟨-, rfl⟩ := List.cons.inj same
        obtain ⟨found, found_eq, same⟩ := Option.map_eq_some_iff.mp closed
        obtain ⟨-, rfl⟩ := Prod.mk.inj same
        have := induction found_eq
        omega

/-- Read a directive up to its letter, after its percent sign and its name. -/
def read (name : Option String) (text : List Char) :
    Directive × { rest : List Char // rest.length ≤ text.length } :=
  let sized := leadingWidth (text.dropWhile isFlag)
  let limited := leadingPrecision sized.2
  (⟨name, text.takeWhile isFlag, sized.1, limited.1⟩, ⟨withoutMark limited.2, by
    have first := (List.dropWhile_sublist (l := text) isFlag).length_le
    have second := length_leadingWidth (text.dropWhile isFlag)
    have third := length_leadingPrecision sized.2
    have fourth := length_withoutMark limited.2
    simp only [limited, sized] at first second third fourth ⊢
    omega⟩)

end Directive

/-- A part of a template. -/
inductive Piece
  /-- A character that stands for itself. -/
  | plain (character : Char)
  /-- A place for an argument, with the letter and its position. -/
  | place (directive : Directive) (letter : Char) (position : Nat)
  /-- A directive that the template ends inside of, after its name. -/
  | broken (directive : Directive)
  /-- A directive that the template ends inside the name of. -/
  | brokenName
  deriving DecidableEq, Repr

/-- Cut the rest of a template into parts; the length of the whole template gives the positions. -/
def pieces (length : Nat) (text : List Char) : List Piece :=
  match text with
  | [] => []
  | '%' :: '%' :: rest => .plain '%' :: pieces length rest
  | '%' :: '(' :: rest =>
      match _ : Directive.untilClosed 0 rest with
      | none => [.brokenName]
      | some (name, rest) =>
          match Directive.read (some (String.ofList name)) rest with
          | (directive, ⟨[], _⟩) => [.broken directive]
          | (directive, ⟨letter :: rest, _⟩) =>
              .place directive letter (length - rest.length - 1) :: pieces length rest
  | '%' :: rest =>
      match Directive.read none rest with
      | (directive, ⟨[], _⟩) => [.broken directive]
      | (directive, ⟨letter :: rest, _⟩) =>
          .place directive letter (length - rest.length - 1) :: pieces length rest
  | character :: rest => .plain character :: pieces length rest
termination_by text.length
decreasing_by
  all_goals try have := Directive.length_untilClosed ‹_ = some _›
  all_goals simp only [List.length_cons] at *
  all_goals omega

/-- The arguments of a template. -/
structure Arguments where
  /-- Arguments that are taken in order. -/
  row : List Datum
  /-- Arguments that are taken by name, if they have names. -/
  named : Option (List (String × Datum))
  deriving Inhabited

namespace Arguments

/-- The arguments in a row; a single object that is not empty also gives its fields by name. -/
def ofRow (row : List Datum) : Arguments :=
  match row with
  | [.object (field :: fields)] => ⟨row, some (field :: fields)⟩
  | row => ⟨row, none⟩

/-- The arguments for a directive: where it has a name, the one of that name alone. -/
def select (arguments : Arguments) : Option String → Except TemplateFault Arguments
  | none => .ok arguments
  | some name =>
      match arguments.named with
      | none => .error .namesExpected
      | some fields =>
          match Datum.lookup name fields with
          | some value => .ok { arguments with row := [value] }
          | none => .error (.unknownName name)

/-- The next argument, with those that remain. -/
def next (arguments : Arguments) : Except TemplateFault (Datum × Arguments) :=
  match arguments.row with
  | argument :: row => .ok (argument, { arguments with row })
  | [] => .error .tooFew

/-- The next argument as the size for a star, between two bounds. -/
def nextSize (least greatest : Int) (fault : TemplateFault) (arguments : Arguments) :
    Except TemplateFault (Int × Arguments) := do
  let (argument, arguments) ← arguments.next
  let size ←
    match argument with
    | .number (.whole value) => pure value
    | .truth value => pure (if value then 1 else 0)
    | _ => throw .sizeExpected
  if size < least ∨ greatest < size then throw fault
  pure (size, arguments)

/-- A width; a negative one is to be filled up on the other side. -/
def width (arguments : Arguments) : Option Size → Except TemplateFault (Int × Arguments)
  | none => .ok (0, arguments)
  | some (.given value) =>
      if Nat.pow 2 63 ≤ value then .error .widthTooBig else .ok (value, arguments)
  | some .asked => arguments.nextSize (-Int.pow 2 63) (Int.pow 2 63 - 1) .widthTooFar

/-- A precision; a negative one counts as zero. -/
def precision (arguments : Arguments) : Option Size → Except TemplateFault (Option Nat × Arguments)
  | none => .ok (none, arguments)
  | some (.given value) =>
      if Nat.pow 2 31 ≤ value then .error .precisionTooBig else .ok (some value, arguments)
  | some .asked =>
      (arguments.nextSize (-Int.pow 2 31) (Int.pow 2 31 - 1) .precisionTooFar).map
        fun (size, arguments) => (some size.toNat, arguments)

end Arguments

/-- The style of a directive with a letter, with the arguments that its stars leave.  The least of
all widths has no opposite and counts as none. -/
def Directive.style (directive : Directive) (letter : Char) (arguments : Arguments) :
    Except TemplateFault (Style × Arguments) := do
  let selected ← arguments.select directive.name
  let (width, sized) ← selected.width directive.width
  let (precision, limited) ← sized.precision directive.precision
  let flags := if width < 0 then '-' :: directive.flags else directive.flags
  pure (⟨letter, flags, width.natAbs % Nat.pow 2 63, precision⟩, limited)

/-- Fill the parts of a template; arguments that have names need not all be used. -/
def fillPieces : List Piece → Arguments → Except TemplateFault (List Char)
  | [], arguments =>
      if arguments.row.isEmpty || arguments.named.isSome then .ok [] else .error .tooMany
  | .plain character :: pieces, arguments => (fillPieces pieces arguments).map (character :: ·)
  | .brokenName :: _, arguments =>
      .error (if arguments.named.isSome then .incompleteName else .namesExpected)
  | .broken directive :: _, arguments => do
      let _ ← directive.style 's' arguments
      throw .incomplete
  | .place directive letter position :: pieces, arguments => do
      let (style, arguments) ← directive.style letter arguments
      let (argument, arguments) ← arguments.next
      let some kind := Kind.ofLetter? letter | throw (.unknownLetter letter position)
      let written ← (style.text kind argument).mapError .argument
      let others ← fillPieces pieces arguments
      pure (written ++ others)

/-- Fill a template with arguments; without arguments it stands as it is. -/
def fillTemplate (template : String) (arguments : List Datum) : Except TemplateFault String :=
  if arguments.isEmpty then .ok template
  else
    (fillPieces (pieces template.length template.toList) (Arguments.ofRow arguments)).map
      String.ofList

end Appraisal.Log
