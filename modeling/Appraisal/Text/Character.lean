import Appraisal.Text.Ranges

/-!
# Character classes

The classes that conditions, identifiers and messages are read with.  Each is decided on ASCII by
its own rule and beyond ASCII by the ranges of the Unicode character database.
-/

namespace Appraisal.Text

/-- Inside ASCII. -/
def isAscii (character : Char) : Bool :=
  character.val < 128

/-- A letter, a digit or another numeral. -/
def isAlphanumeric (character : Char) : Bool :=
  if isAscii character then character.isAlphanum
  else Ranges.holds Ranges.alphanumeric character.toNat

/-- A character of a word: a letter, a numeral or the underscore. -/
def isWord (character : Char) : Bool :=
  isAlphanumeric character || character == '_'

/-- An ASCII letter or the underscore: what a path starts with. -/
def isPathStart (character : Char) : Bool :=
  character.isAlpha || character == '_'

/-- A decimal digit of any script. -/
def isDecimalDigit (character : Char) : Bool :=
  if isAscii character then character.isDigit
  else Ranges.holds Ranges.decimal character.toNat

/-- A digit in the wider sense, superscripts and encircled digits included. -/
def isDigitSign (character : Char) : Bool :=
  isDecimalDigit character || Ranges.holds Ranges.digitSigns character.toNat

/-- The value of a decimal digit; zero for other characters. -/
def digitValue (character : Char) : Nat :=
  if isAscii character then character.toNat - '0'.toNat
  else
    match Ranges.decimal.find? fun (first, last) =>
        first ≤ character.toNat && character.toNat ≤ last with
    | some (first, _) => (character.toNat - first) % 10
    | none => 0

/-- White space; the four information separators of ASCII count too. -/
def isBlank (character : Char) : Bool :=
  if isAscii character then
    (9 ≤ character.toNat && character.toNat ≤ 13) || (28 ≤ character.toNat && character.toNat ≤ 32)
  else Ranges.holds Ranges.blank character.toNat

/-- Shown as it is inside quotes; of the spaces only the plain one is. -/
def isPrintable (character : Char) : Bool :=
  if isAscii character then 32 ≤ character.toNat && character.toNat < 127
  else !Ranges.holds Ranges.hidden character.toNat

/-- The characters of a text without blanks at both ends. -/
def trimmed (text : List Char) : List Char :=
  ((text.dropWhile isBlank).reverse.dropWhile isBlank).reverse

/-- Whether a text is empty or consists of blanks. -/
def isAllBlank (text : String) : Bool :=
  text.toList.all isBlank

/--
The lower case of a character, as far as it matters for finding ASCII words: two characters beyond
ASCII, the Kelvin sign and the dotted capital I, have an ASCII letter in their lower case.
-/
def lowered (character : Char) : List Char :=
  if character = '\u212a' then ['k']
  else if character = '\u0130' then ['i', '\u0307']
  else [character.toLower]

/-- A text in lower case, as far as it matters for finding ASCII words. -/
def lowerCase (text : String) : String :=
  String.ofList (text.toList.flatMap lowered)

/-- Whether a list occurs as a contiguous part of another. -/
def occursIn (word : List Char) : List Char → Bool
  | [] => word.isEmpty
  | text@(_ :: rest) => word.isPrefixOf text || occursIn word rest

/-- Whether a word occurs in a text. -/
def mentions (text word : String) : Bool :=
  occursIn word.toList text.toList

end Appraisal.Text
