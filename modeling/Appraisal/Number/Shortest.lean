import Appraisal.Number.Decimal

/-!
# Shortest decimals

The shortest decimal of a double is the one with the fewest digits among those that read back as
the same double; of several with that count it is the one nearest to the double.

A double `m * 2 ^ q` is the nearest one to every real between half a step below and half a step
above it, ends included exactly when `m` is even; below a power of two the step is half as long.
For 1, 2, … 17 digits the two neighbours of the double on that decimal grid are tested against this
interval: if any point of a grid lies in it, one of the two neighbours does.
-/

namespace Appraisal.Shortest

/-- A positive double with the reals that read back as it, as numerators over one denominator. -/
structure Reach where
  /-- The double itself. -/
  center : Nat
  /-- The lower end of the interval. -/
  low : Nat
  /-- The upper end of the interval. -/
  high : Nat
  /-- The common denominator. -/
  denominator : Nat
  /-- Whether the ends belong to the interval. -/
  closed : Bool

/-- The interval of `mantissa * 2 ^ exponent`, in quarters of its last binary digit. -/
def Reach.ofParts (mantissa : Nat) (exponent : Int) : Reach :=
  let scale := Nat.pow 2 exponent.toNat
  let lowStep := if mantissa = Nat.pow 2 52 ∧ -1074 < exponent then 1 else 2
  { center := 4 * mantissa * scale
    low := (4 * mantissa - lowStep) * scale
    high := (4 * mantissa + 2) * scale
    denominator := 4 * Nat.pow 2 (-exponent).toNat
    closed := mantissa % 2 = 0 }

/-- Whether `digits * 10 ^ exponent` lies in the interval. -/
def Reach.holds (reach : Reach) (digits : Nat) (exponent : Int) : Bool :=
  let point := digits * Nat.pow 10 exponent.toNat * reach.denominator
  let scale := Nat.pow 10 (-exponent).toNat
  if reach.closed then reach.low * scale ≤ point ∧ point ≤ reach.high * scale
  else reach.low * scale < point ∧ point < reach.high * scale

/-- The digits of the nearest admissible point on the grid of one power of ten, if there is one. -/
def Reach.onGrid? (reach : Reach) (exponent : Int) : Option Nat :=
  let numerator := reach.center * Nat.pow 10 (-exponent).toNat
  let unit := reach.denominator * Nat.pow 10 exponent.toNat
  let lower := numerator / unit
  let twice := 2 * (numerator % unit)
  let nearerIsLower := twice < unit ∨ (twice = unit ∧ lower % 2 = 0)
  let (first, second) := if nearerIsLower then (lower, lower + 1) else (lower + 1, lower)
  if reach.holds first exponent then some first
  else if reach.holds second exponent then some second
  else none

/-- The first grid with an admissible point, by growing count of digits. -/
def Reach.search (reach : Reach) (leading : Int) : (remaining : Nat) → Nat × Int
  | 0 => (reach.center / reach.denominator, 0)
  | remaining + 1 =>
      let exponent := leading - (16 - remaining : Nat)
      match reach.onGrid? exponent with
      | some digits => (digits, exponent)
      | none => reach.search leading remaining

/-- The shortest decimal of a positive double given by mantissa and exponent. -/
def ofParts (negative : Bool) (mantissa : Nat) (exponent : Int) : Decimal :=
  let reach := Reach.ofParts mantissa exponent
  let leading := Decimal.leadingExponent (mkRat reach.center reach.denominator)
  let (digits, exponent) := reach.search leading 17
  Decimal.trim ⟨negative, digits, exponent⟩

end Appraisal.Shortest

namespace Appraisal

/-- The shortest decimal that reads back as the double; none for the special doubles. -/
def Double.shortest? (value : Float) : Option Decimal :=
  match value.toModel.unpack with
  | .notANumber | .infinity _ => none
  | .zero sign => some ⟨sign == .negative, 0, 0⟩
  | .finite sign mantissa exponent _ =>
      some (Shortest.ofParts (sign == .negative) mantissa exponent)

/-- The general text of a double: its shortest decimal, or the name of a special double. -/
def Double.text (value : Float) : String :=
  match Double.shortest? value with
  | some decimal => Decimal.Layout.general.render decimal
  | none => if value.isNaN then "nan" else if Double.isNegative value then "-inf" else "inf"

end Appraisal
