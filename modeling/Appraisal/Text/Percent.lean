import Appraisal.Text.Hexadecimal

/-!
# Percent escapes

In an address a percent sign with two hexadecimal digits stands for a byte, and the bytes are the
UTF-8 form of a text.  Where they are none, the replacement character stands for the longest part
that a character could have started with.
-/

namespace Appraisal.Text.Percent

/-- The bytes of a text with escapes; a percent sign without two digits stands for itself. -/
def bytes : List Char → List Nat
  | [] => []
  | '%' :: high :: low :: rest =>
      match hexValue? high, hexValue? low with
      | some high, some low => (16 * high + low) :: bytes rest
      | _, _ => '%'.toNat :: bytes (high :: low :: rest)
  | character :: rest => (String.utf8EncodeChar character).map UInt8.toNat ++ bytes rest

/-- What follows a leading byte: how many bytes, and the bounds of the first of them. -/
def followers? (leading : Nat) : Option (Nat × Nat × Nat) :=
  if leading < 0xc2 then none
  else if leading < 0xe0 then some (1, 0x80, 0xbf)
  else if leading = 0xe0 then some (2, 0xa0, 0xbf)
  else if leading = 0xed then some (2, 0x80, 0x9f)
  else if leading < 0xf0 then some (2, 0x80, 0xbf)
  else if leading = 0xf0 then some (3, 0x90, 0xbf)
  else if leading < 0xf4 then some (3, 0x80, 0xbf)
  else if leading = 0xf4 then some (3, 0x80, 0x8f)
  else none

/-- The bytes that follow a leading byte, as far as they are there; only the first has bounds of its
own. -/
def following : (count low high : Nat) → List Nat → List Nat
  | count + 1, low, high, byte :: rest =>
      if low ≤ byte ∧ byte ≤ high then byte :: following count 0x80 0xbf rest else []
  | _, _, _, _ => []

/-- The bits that a leading byte contributes, by the count of its followers. -/
def leadingBits (count leading : Nat) : Nat :=
  match count with
  | 1 => leading - 0xc0
  | 2 => leading - 0xe0
  | _ => leading - 0xf0

/-- The character of a leading byte and its followers. -/
def character (leading : Nat) (followers : List Nat) : Char :=
  Char.ofNat <|
    followers.foldl (fun value byte => 64 * value + (byte - 0x80))
      (leadingBits followers.length leading)

/-- The characters of a row of bytes. -/
def characters (row : List Nat) : List Char :=
  match row with
  | [] => []
  | leading :: rest =>
      if leading < 0x80 then Char.ofNat leading :: characters rest
      else
        match followers? leading with
        | none => '\ufffd' :: characters rest
        | some (count, low, high) =>
            let followers := following count low high rest
            (if followers.length = count then character leading followers else '\ufffd') ::
              characters (rest.drop followers.length)
termination_by row.length
decreasing_by
  all_goals simp only [List.length_cons, List.length_drop]; omega

/-- A text without its escapes. -/
def decode (text : String) : String :=
  String.ofList (characters (bytes text.toList))

example : decode "a%20b%C3%A9%zz" = "a bé%zz" := by
  decide +kernel

end Appraisal.Text.Percent
