import Appraisal.Number.Double
import Appraisal.Text.Character

/-!
# Reading numbers

Texts that stand for numbers.  A decimal text is an optional sign and digits with at most one
point, then an optional power of ten, or the name of a special double; it is read as the nearest
double.  Two kinds of sources allow more than that: a weight given as text may use digits of any
script and single underscores between digits, and a validated field may hold blanks around it and
underscores inside.
-/

namespace Appraisal.Reading

/-- The whole number written by a row of decimal digits. -/
def natural (digits : List Char) : Nat :=
  digits.foldl (fun value digit => 10 * value + Text.digitValue digit) 0

/-- The double nearest to `digits * 10 ^ exponent`. -/
def scaled (digits : Nat) (exponent : Int) : Float :=
  if 0 ≤ exponent then Float.ofScientific digits false exponent.toNat
  else Float.ofScientific digits true (-exponent).toNat

/-- Split a sign off a text; `true` is a minus. -/
def signed : List Char → Bool × List Char
  | '-' :: rest => (true, rest)
  | '+' :: rest => (false, rest)
  | text => (false, text)

/-- The power of ten that ends a decimal text; an absent one is zero. -/
def exponent? : List Char → Option Int
  | [] => some 0
  | mark :: rest =>
      if mark = 'e' ∨ mark = 'E' then
        let (negative, digits) := signed rest
        if digits.isEmpty || !digits.all Char.isDigit then none
        else some (if negative then -(natural digits : Int) else natural digits)
      else none

/-- A decimal text without sign. -/
def unsigned? (text : List Char) : Option Float :=
  let name := text.map Char.toLower
  if name = "inf".toList ∨ name = "infinity".toList then some Double.infinity
  else if name = "nan".toList then some Double.undefined
  else
    let whole := text.takeWhile Char.isDigit
    let rest := text.dropWhile Char.isDigit
    let (fraction, rest) :=
      match rest with
      | '.' :: rest => (rest.takeWhile Char.isDigit, rest.dropWhile Char.isDigit)
      | rest => ([], rest)
    if whole.isEmpty && fraction.isEmpty then none
    else (exponent? rest).map fun exponent =>
      scaled (natural (whole ++ fraction)) (exponent - fraction.length)

/-- A decimal text with an optional sign. -/
def decimal? (text : List Char) : Option Float :=
  let (negative, rest) := signed text
  (unsigned? rest).map (Double.withSign negative)

/-- Remove underscores that stand between two digits; any other underscore spoils the text. -/
def joinDigits? : (afterDigit : Bool) → List Char → Option (List Char)
  | _, [] => some []
  | afterDigit, '_' :: rest =>
      match rest with
      | next :: _ =>
          if afterDigit && next.isDigit then joinDigits? false rest else none
      | [] => none
  | _, character :: rest => (joinDigits? character.isDigit rest).map (character :: ·)

/-- Write decimal digits of any script in ASCII. -/
def plainDigit (character : Char) : Char :=
  if Text.isDecimalDigit character then Char.ofNat ('0'.toNat + Text.digitValue character)
  else character

/-- White space around a number; the information separators do not count here. -/
def isMargin (character : Char) : Bool :=
  Text.isBlank character && !(28 ≤ character.toNat && character.toNat ≤ 31)

/-- The characters of a text without margins. -/
def withoutMargins (text : List Char) : List Char :=
  ((text.dropWhile isMargin).reverse.dropWhile isMargin).reverse

/-- A weight given as text. -/
def weight? (text : String) : Option Float :=
  (joinDigits? false ((withoutMargins text.toList).map plainDigit)).bind decimal?

/-- Remove underscores that are single and inside the text. -/
def withoutUnderscores? (text : List Char) : Option (List Char) :=
  if text.head? = some '_' ∨ text.getLast? = some '_' ∨ Text.occursIn ['_', '_'] text then none
  else some (text.filter (· ≠ '_'))

/-- A double given as text in a validated field: with blanks around it, or with underscores inside,
but not with both. -/
def fieldDouble? (text : String) : Option Float :=
  (decimal? (withoutMargins text.toList)).or ((withoutUnderscores? text.toList).bind decimal?)

/-- Why a text is no whole number of a validated field. -/
inductive WholeFault
  /-- It is none. -/
  | unreadable
  /-- It has too many characters to be read. -/
  | tooLong
  deriving DecidableEq, Repr

/-- The greatest count of digits of a whole number that is read. -/
def longest : Nat := 4300

/-- What is said of a whole number with more digits than are read. -/
def tooLongText (count : Nat) : String :=
  "Exceeds the limit (" ++ toString longest ++ " digits) for integer string conversion: value has " ++
    toString count ++ " digits; use sys.set_int_max_str_digits() to increase the limit"

/-- A whole number in its plain form: perhaps a minus, and digits of which only a single one may be a
leading zero.  Too many digits are noticed before anything that follows them. -/
def plainWhole (text : List Char) : Except WholeFault Int :=
  let (negative, rest) :=
    match text with
    | '-' :: rest => (true, rest)
    | rest => (false, rest)
  let digits := rest.takeWhile Char.isDigit
  if digits.isEmpty || (digits.head? = some '0' && digits.length ≠ 1) then .error .unreadable
  else if longest < (text.length - rest.length) + digits.length then .error .tooLong
  else if digits.length ≠ rest.length then .error .unreadable
  else .ok (if negative then -(natural digits : Int) else natural digits)

/-- Go past leading zeros and the underscores among them; `last` is the character before the rest.  A
minus may follow them as well as a digit, and a zero before a point stays. -/
def pastZeros? (last : Char) : List Char → Option (List Char)
  | [] => some [last]
  | character :: rest =>
      if character = '0' ∨ character = '_' then pastZeros? character rest
      else if character = '.' then some (last :: character :: rest)
      else if character.isDigit ∨ character = '-' then some (character :: rest)
      else none

/-- A text without leading zeros; it has to start like a whole number. -/
def withoutLeadingZeros? : List Char → Option (List Char)
  | [] => none
  | '0' :: rest => pastZeros? '0' rest
  | character :: rest =>
      if character.isDigit ∨ character = '-' then some (character :: rest) else none

/-- Drop a point and the zeros after it; nothing else may follow a point. -/
def withoutZeroFraction? (text : List Char) : Option (List Char) :=
  match text.dropWhile (· ≠ '.') with
  | _ :: fraction =>
      if fraction.isEmpty || !fraction.all (· = '0') then none
      else some (text.takeWhile (· ≠ '.'))
  | [] => some text

/-- A whole number in the generous form: with blanks around it, a plus, leading zeros, underscores
and a fraction of zeros. -/
def generousWhole (text : List Char) : Except WholeFault Int :=
  let trimmed := withoutMargins text
  let unsigned := if trimmed.head? = some '+' then trimmed.drop 1 else trimmed
  let plain : Option (List Char) := do
    if unsigned.length < trimmed.length ∧ unsigned.head? = some '-' then failure
    let digits ← withoutLeadingZeros? unsigned
    let whole ← withoutZeroFraction? digits
    pure ((withoutUnderscores? whole).getD whole)
  match plain with
  | some plain => plainWhole plain
  | none => .error .unreadable

/-- A whole number given as text in a validated field: in the plain form, or else in the generous
one unless it was too long already. -/
def fieldWhole (text : String) : Except WholeFault Int :=
  match plainWhole text.toList with
  | .error .unreadable => generousWhole text.toList
  | reading => reading

end Appraisal.Reading
