/-!
# Hexadecimal digits

Digits are written in lower case and read in either case.
-/

namespace Appraisal.Text

/-- One hexadecimal digit in lower case. -/
def hexDigit (value : Nat) : Char :=
  if value < 10 then Char.ofNat ('0'.toNat + value) else Char.ofNat ('a'.toNat + value - 10)

/-- A number in a fixed count of hexadecimal digits. -/
def hexadecimal : (count : Nat) → Nat → List Char
  | 0, _ => []
  | count + 1, value => hexadecimal count (value / 16) ++ [hexDigit (value % 16)]

/-- The value of a hexadecimal digit. -/
def hexValue? (character : Char) : Option Nat :=
  if character.isDigit then some (character.toNat - '0'.toNat)
  else if 'a' ≤ character ∧ character ≤ 'f' then some (character.toNat - 'a'.toNat + 10)
  else if 'A' ≤ character ∧ character ≤ 'F' then some (character.toNat - 'A'.toNat + 10)
  else none

example : (List.range 16).map (fun value => hexValue? (hexDigit value)) = (List.range 16).map some := by
  decide

end Appraisal.Text
