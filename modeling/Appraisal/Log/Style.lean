import Appraisal.Datum.Conversion
import Appraisal.Datum.Display
import Appraisal.Number.Decimal

/-!
# Styles of arguments

An argument that is put into a message is written in a style: a letter for the kind of text, flags,
a least width and a precision.  Every kind accepts some data and refuses the others.
-/

namespace Appraisal.Log

/-- How the digits of a double are laid out. -/
inductive Shape
  /-- With a count of places after the point. -/
  | fixed
  /-- With one digit before the point, and a power of ten. -/
  | powered
  /-- In significant digits, in whichever of the two layouts is the shorter. -/
  | general
  deriving DecidableEq, Repr

/-- What kind of text an argument becomes. -/
inductive Kind
  | plain
  /-- A datum with texts in quotes. -/
  | quoted
  /-- The same without characters beyond ASCII. -/
  | ascii
  | character
  /-- A whole number in a base. -/
  | whole (base : Nat)
  | double (shape : Shape)
  deriving DecidableEq, Repr

/-- The kind that a letter stands for. -/
def Kind.ofLetter? : Char → Option Kind
  | 's' => some .plain
  | 'r' => some .quoted
  | 'a' => some .ascii
  | 'c' => some .character
  | 'd' | 'i' | 'u' => some (.whole 10)
  | 'o' => some (.whole 8)
  | 'x' | 'X' => some (.whole 16)
  | 'f' | 'F' => some (.double .fixed)
  | 'e' | 'E' => some (.double .powered)
  | 'g' | 'G' => some (.double .general)
  | _ => none

/-- Why an argument cannot be written in a style. -/
inductive StyleFault
  /-- The argument is no number. -/
  | numberExpected (letter : Char) (given : String)
  /-- The argument is no whole number. -/
  | wholeExpected (letter : Char) (given : String)
  | realExpected (given : String)
  | characterExpected
  /-- The argument is not the number of a character. -/
  | characterRange
  | undefinedWhole
  | infiniteWhole
  /-- No double is near the argument. -/
  | tooLarge
  /-- A whole number cannot have so many digits. -/
  | tooPrecise
  /-- No text is so wide. -/
  | tooWide
  deriving DecidableEq, Repr

/-- The sentence that describes a fault; nothing is said of a text that is too wide. -/
def StyleFault.message : StyleFault → String
  | .numberExpected letter given =>
      "%" ++ letter.toString ++ " format: a real number is required, not " ++ given
  | .wholeExpected letter given =>
      "%" ++ letter.toString ++ " format: an integer is required, not " ++ given
  | .realExpected given => "must be real number, not " ++ given
  | .characterExpected => "%c requires int or char"
  | .characterRange => "%c arg not in range(0x110000)"
  | .undefinedWhole => "cannot convert float NaN to integer"
  | .infiniteWhole => "cannot convert float infinity to integer"
  | .tooLarge => "int too large to convert to float"
  | .tooPrecise => "precision too large"
  | .tooWide => ""

/-- How an argument is written. -/
structure Style where
  /-- The letter for the kind of text. -/
  letter : Char
  /-- Flags: minus, plus, blank, zero, hash. -/
  flags : List Char
  width : Nat
  precision : Option Nat
  deriving DecidableEq, Repr

/-- A written argument, before it is filled up to its width. -/
structure Written where
  /-- Whether it is a number, which zeros may fill up. -/
  isNumber : Bool
  /-- The sign and the mark of the base. -/
  sign : List Char
  /-- Everything else. -/
  content : List Char
  deriving DecidableEq, Repr

namespace Style

/-- Whether a flag is set. -/
def has (style : Style) (flag : Char) : Bool :=
  style.flags.contains flag

/-- Letters in upper case if the letter of the style is. -/
def inCase (style : Style) (text : List Char) : List Char :=
  if style.letter.isUpper then text.map Char.toUpper else text

/-- Write a text: at most as much of it as the precision allows. -/
def writeText (style : Style) (text : String) : Written :=
  let characters := text.toList
  ⟨false, [], (style.precision.map fun count => characters.take count).getD characters⟩

/-- The sign of a number. -/
def signOf (style : Style) (negative : Bool) : List Char :=
  if negative then ['-'] else if style.has '+' then ['+'] else if style.has ' ' then [' '] else []

/-- The mark of a base, which the hash asks for. -/
def markOf (style : Style) (base : Nat) : List Char :=
  if style.has '#' && (base == 16 || base == 8) then ['0', style.letter] else []

/-- Write a whole number in a base, in at least as many digits as the precision says. -/
def writeWhole (style : Style) (base : Nat) (value : Int) : Written :=
  let digits := Nat.toDigits base value.natAbs
  let padding := List.replicate (style.precision.getD 1 - digits.length) '0'
  ⟨true, style.signOf (value < 0) ++ style.markOf base, style.inCase (padding ++ digits)⟩

/-- The digits after a point; without any of them there is a point only if it is kept. -/
def afterPoint (keepPoint : Bool) (digits : List Char) : List Char :=
  if digits.isEmpty && !keepPoint then [] else '.' :: digits

/-- The digits of a number that is not negative with a count of places. -/
def fixedDigits (keepPoint : Bool) (places : Nat) (value : Rat) : List Char :=
  let units := (Rounding.halfEven (value * (Nat.pow 10 places : Rat))).toNat
  Decimal.digitsOf (units / Nat.pow 10 places) ++
    afterPoint keepPoint (if places = 0 then [] else Decimal.padded places (units % Nat.pow 10 places))

/-- A number that is not negative rounded to a count of significant digits, with the power of ten of
the first of them. -/
def leadingDigits (count : Nat) (value : Rat) : List Char × Int :=
  let decimal : Decimal :=
    if value = 0 then ⟨false, 0, 0⟩ else Decimal.significant count false value
  let digits := Decimal.padded count decimal.digits
  (digits, if value = 0 then 0 else decimal.exponent + (digits.length - 1 : Nat))

/-- The digits of a number that is not negative with one digit before the point, a count of places,
and a power of ten. -/
def poweredDigits (keepPoint : Bool) (places : Nat) (value : Rat) : List Char :=
  let (digits, leading) := leadingDigits (places + 1) value
  digits.take 1 ++ afterPoint keepPoint ((digits.drop 1).take places) ++
    (Decimal.Layout.digits 6).exponentText leading

/-- The digits of a number that is not negative in a count of significant digits, all of which are
written if the point is kept. -/
def generalDigits (keepPoint : Bool) (count : Nat) (value : Rat) : List Char :=
  if keepPoint then
    let leading := (leadingDigits count value).2
    if leading < -4 ∨ count ≤ leading then poweredDigits true (count - 1) value
    else fixedDigits true (count - 1 - leading).toNat value
  else (Decimal.inDigits count false value).toList

/-- The digits of a number that is not negative in a shape. -/
def digitsIn (style : Style) (shape : Shape) (value : Rat) : List Char :=
  let keepPoint := style.has '#'
  let count := style.precision.getD 6
  match shape with
  | .fixed => fixedDigits keepPoint count value
  | .powered => poweredDigits keepPoint count value
  | .general => generalDigits keepPoint (max 1 count) value

/-- Write a double in a shape; the special doubles have names. -/
def writeDouble (style : Style) (shape : Shape) (value : Float) : Written :=
  let digits :=
    match Extent.ofFloat value with
    | .undefined => "nan".toList
    | .above | .below => "inf".toList
    | .finite exact => style.digitsIn shape exact.abs
  ⟨true, style.signOf (Double.isNegative value), style.inCase digits⟩

/-- The whole number that a datum stands for; doubles are cut at the point if they may be. -/
def wholeOf (style : Style) (cutsDoubles : Bool) (argument : Datum) : Except StyleFault Int :=
  match argument with
  | .number (.whole value) => .ok value
  | .truth value => .ok (if value then 1 else 0)
  | argument =>
      if !cutsDoubles then .error (.wholeExpected style.letter argument.kind)
      else
        match argument with
        | .number (.double value) =>
            match Extent.ofFloat value with
            | .undefined => .error .undefinedWhole
            | .above | .below => .error .infiniteWhole
            | .finite exact => .ok (Rounding.truncate exact)
        | argument => .error (.numberExpected style.letter argument.kind)

/-- The double that a datum stands for. -/
def doubleOf : Datum → Except StyleFault Float
  | .number value =>
      match value.toFloat? with
      | some value => .ok value
      | none => .error .tooLarge
  | .truth value => .ok (if value then 1.0 else 0.0)
  | argument => .error (.realExpected argument.kind)

/-- The character of a number. -/
def characterAt (number : Int) : Except StyleFault Char :=
  if 0 ≤ number ∧ number < 0x110000 then .ok (Char.ofNat number.toNat) else .error .characterRange

/-- The character that a datum stands for: one of its own, or one by its number. -/
def characterOf : Datum → Except StyleFault Char
  | .text value =>
      match value.toList with
      | [character] => .ok character
      | _ => .error .characterExpected
  | .number (.whole value) => characterAt value
  | .truth value => characterAt (if value then 1 else 0)
  | _ => .error .characterExpected

/-- A text with other characters than those of ASCII written by their numbers. -/
def inAscii (text : String) : String :=
  String.ofList <| text.toList.flatMap fun character =>
    if Text.isAscii character then [character] else Text.escaped character

/-- More digits than this a whole number cannot be asked to have. -/
def mostDigits : Nat := Nat.pow 2 31 - 4

/-- Write an argument as a text of a kind. -/
def write (style : Style) (kind : Kind) (argument : Datum) : Except StyleFault Written :=
  match kind with
  | .plain => .ok (style.writeText argument.display)
  | .quoted => .ok (style.writeText argument.displayInside)
  | .ascii => .ok (style.writeText (inAscii argument.displayInside))
  | .character => (characterOf argument).map fun character => ⟨false, [], [character]⟩
  | .whole base => do
      let value ← style.wholeOf (base = 10) argument
      if mostDigits < style.precision.getD 1 then throw .tooPrecise
      pure (style.writeWhole base value)
  | .double shape => (doubleOf argument).map (style.writeDouble shape)

/-- Fill up to the width: with zeros after the sign, or with blanks before or after. -/
def fill (style : Style) (written : Written) : List Char :=
  let missing := style.width - (written.sign.length + written.content.length)
  if style.has '-' then written.sign ++ written.content ++ List.replicate missing ' '
  else if written.isNumber && style.has '0' then
    written.sign ++ List.replicate missing '0' ++ written.content
  else List.replicate missing ' ' ++ written.sign ++ written.content

/-- Widths beyond this are beyond the memory of any machine. -/
def mostWidth : Nat := Nat.pow 2 35

/-- An argument as a text of a kind, in the width of the style. -/
def text (style : Style) (kind : Kind) (argument : Datum) : Except StyleFault (List Char) := do
  let written ← style.write kind argument
  if mostWidth < style.width then throw .tooWide
  pure (style.fill written)

end Style

end Appraisal.Log
