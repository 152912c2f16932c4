import Appraisal.Number.Double

/-!
# Decimals

A decimal is a signed row of digits with a power of ten.  `Layout.render` writes one, in positional
form where its leading exponent lies in the layout's window and with an explicit exponent elsewhere.
-/

namespace Appraisal

/-- The number `digits * 10 ^ exponent`, with a sign that a zero keeps too. -/
structure Decimal where
  /-- Whether a minus sign is written. -/
  negative : Bool
  /-- All digits, as one whole number. -/
  digits : Nat
  /-- The power of ten of the last digit. -/
  exponent : Int
  deriving DecidableEq, Inhabited

namespace Decimal

/-- The digits of a whole number, most significant first. -/
def digitsOf (value : Nat) : List Char :=
  Nat.toDigits 10 value

/-- Drop trailing zero digits, at most `count` of them. -/
def trimDigits : Nat → Nat → Int → Nat × Int
  | 0, digits, exponent => (digits, exponent)
  | count + 1, digits, exponent =>
      if digits ≠ 0 ∧ digits % 10 = 0 then trimDigits count (digits / 10) (exponent + 1)
      else (digits, exponent)

/-- The same number without trailing zero digits. -/
def trim (decimal : Decimal) : Decimal :=
  let (digits, exponent) := trimDigits (digitsOf decimal.digits).length decimal.digits decimal.exponent
  { decimal with digits, exponent }

/-- How decimals are written. -/
structure Layout where
  /-- The least leading exponent that is written positionally. -/
  lowest : Int
  /-- The first leading exponent from which the exponent form is used. -/
  beyond : Int
  /-- Whether a whole number in positional form ends in a point and a zero. -/
  pointZero : Bool
  /-- The least count of exponent digits. -/
  exponentDigits : Nat

/-- The general layout of numbers in answers and messages. -/
def Layout.general : Layout := ⟨-4, 16, true, 2⟩

/-- Digits with zeros put in front up to a least count. -/
def padded (count : Nat) (value : Nat) : List Char :=
  let digits := digitsOf value
  List.replicate (count - digits.length) '0' ++ digits

/-- The exponent part, with its sign always written. -/
def Layout.exponentText (layout : Layout) (exponent : Int) : List Char :=
  'e' :: (if exponent < 0 then '-' else '+') :: padded layout.exponentDigits exponent.natAbs

/-- Write a decimal whose digits have no trailing zeros. -/
def Layout.render (layout : Layout) (decimal : Decimal) : String :=
  let digits := digitsOf decimal.digits
  let leading : Int := if decimal.digits = 0 then 0 else decimal.exponent + digits.length - 1
  let magnitude : List Char :=
    if decimal.digits = 0 then '0' :: (if layout.pointZero then ['.', '0'] else [])
    else if leading < layout.lowest ∨ layout.beyond ≤ leading then
      (match digits with
        | [] => []
        | [first] => [first]
        | first :: others => first :: '.' :: others) ++ layout.exponentText leading
    else if leading < 0 then
      '0' :: '.' :: List.replicate (-leading - 1).toNat '0' ++ digits
    else
      let whole := digits.take (leading.toNat + 1)
      let fraction := digits.drop (leading.toNat + 1)
      whole ++ List.replicate (leading.toNat + 1 - whole.length) '0' ++
        (if fraction.isEmpty then (if layout.pointZero then ['.', '0'] else [])
          else '.' :: fraction)
  String.ofList (if decimal.negative then '-' :: magnitude else magnitude)

/-- The decimal exponent of the leading digit of a positive rational, found from its size in bits. -/
def leadingExponent (value : Rat) : Int :=
  let bits : Int := (value.num.natAbs.log2 : Int) - (value.den.log2 : Int)
  let guess := bits * 30103 / 100000
  let candidates := [guess - 1, guess, guess + 1, guess + 2]
  (candidates.find? fun exponent => decide (value < (10 : Rat) ^ (exponent + 1))).getD (guess + 3)

/-- A positive rational rounded half to even to a count of significant digits. -/
def significant (count : Nat) (negative : Bool) (value : Rat) : Decimal :=
  let last := leadingExponent value + 1 - count
  { negative, digits := (Rounding.halfEven (value / (10 : Rat) ^ last)).toNat, exponent := last : Decimal }

end Decimal

/-- The layout of a count of significant digits, used where scores stand in a sentence. -/
def Decimal.Layout.digits (count : Nat) : Decimal.Layout := ⟨-4, count, false, 2⟩

/-- A number that is not negative in some significant digits, trailing zeros dropped. -/
def Decimal.inDigits (count : Nat) (negative : Bool) (value : Rat) : String :=
  (Decimal.Layout.digits count).render
    (if value = 0 then ⟨negative, 0, 0⟩ else (Decimal.significant count negative value).trim)

/-- A double in some significant digits, trailing zeros dropped; the special doubles by name. -/
def Double.inDigits (count : Nat) (value : Float) : String :=
  match Extent.ofFloat value with
  | .undefined => "nan"
  | .below => "-inf"
  | .above => "inf"
  | .finite exact => Decimal.inDigits count (Double.isNegative value) exact.abs

/-- A double in six significant digits. -/
def Double.brief (value : Float) : String :=
  Double.inDigits 6 value

/-- A double rounded half to even to a whole number, written without point; special ones by name. -/
def Double.wholeText (value : Float) : String :=
  match Extent.ofFloat value with
  | .undefined => "nan"
  | .below => "-inf"
  | .above => "inf"
  | .finite exact =>
      let magnitude := String.ofList (Decimal.digitsOf (Rounding.halfEven exact.abs).toNat)
      if Double.isNegative value then "-" ++ magnitude else magnitude

end Appraisal
