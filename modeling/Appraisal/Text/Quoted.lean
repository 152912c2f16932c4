import Appraisal.Text.Character
import Appraisal.Text.Hexadecimal

/-!
# Quoted texts

In messages a text stands in single quotes, or in double quotes if it holds a single quote and no
double one.  The quote that is used, the backslash and characters that are not printable are
written as escapes.
-/

namespace Appraisal.Text

/-- A character by its number. -/
def escaped (character : Char) : List Char :=
  if character.toNat < 0x100 then '\\' :: 'x' :: hexadecimal 2 character.toNat
  else if character.toNat < 0x10000 then '\\' :: 'u' :: hexadecimal 4 character.toNat
  else '\\' :: 'U' :: hexadecimal 8 character.toNat

/-- A character inside the given quotes. -/
def quotedCharacter (quote character : Char) : List Char :=
  if character = quote ∨ character = '\\' then ['\\', character]
  else if character = '\n' then ['\\', 'n']
  else if character = '\r' then ['\\', 'r']
  else if character = '\t' then ['\\', 't']
  else if isPrintable character then [character]
  else escaped character

/-- The quote for a text: single, unless only that one occurs in it. -/
def quoteFor (text : List Char) : Char :=
  if text.contains '\'' && !text.contains '"' then '"' else '\''

/-- A text in quotes. -/
def quoted (text : String) : String :=
  let quote := quoteFor text.toList
  String.ofList (quote :: text.toList.flatMap (quotedCharacter quote) ++ [quote])

example : quoted "it's" = "\"it's\"" := by decide +kernel
example : quoted "a\n\\b" = "'a\\n\\\\b'" := by decide +kernel

end Appraisal.Text
