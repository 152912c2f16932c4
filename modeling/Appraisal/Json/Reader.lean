import Appraisal.Datum
import Appraisal.Number.Reading
import Appraisal.Text.Hexadecimal

/-!
# Reading JSON

A reader of JSON texts into data.  A number without point and exponent is whole, any other one is a
double; `NaN`, `Infinity` and `-Infinity` are accepted as numbers; of several fields with one key
the last value stays, at the place of the first.

A text that is not JSON is refused with the place where reading stopped, which is found as the part
of the text that was still unread there.  Whole numbers of too many digits and values that are
nested too deep are refused although they are JSON.
-/

namespace Appraisal.Json

/-- Why reading stopped. -/
inductive Stop
  /-- The text is not JSON; this is its unread rest at the fault. -/
  | at (rest : List Char)
  /-- A whole number has too many digits. -/
  | digits (count : Nat)
  /-- A list or an object, as the name of its kind says, is nested too deep. -/
  | depth (kind : String)

/-- A step of the reader gives something or stops. -/
abbrev Attempt := Except Stop

/-- Blanks between the parts of a JSON text. -/
def isGap (character : Char) : Bool :=
  character = ' ' || character = '\t' || character = '\n' || character = '\r'

/-- Skip blanks. -/
def skipGap (text : List Char) : List Char :=
  text.dropWhile isGap

/-- Four hexadecimal digits, with something after them. -/
def codeUnit? : List Char → Option (Nat × List Char)
  | a :: b :: c :: d :: rest@(_ :: _) => do
      let a ← Text.hexValue? a
      let b ← Text.hexValue? b
      let c ← Text.hexValue? c
      let d ← Text.hexValue? d
      pure (((a * 16 + b) * 16 + c) * 16 + d, rest)
  | _ => none

/-- The character of a code unit; half a surrogate pair has none and gives the replacement. -/
def unitCharacter (unit : Nat) : Char :=
  if 0xd800 ≤ unit ∧ unit < 0xe000 then '\ufffd' else Char.ofNat unit

/-- The character of a simple escape. -/
def escape? : Char → Option Char
  | '"' => some '"'
  | '\\' => some '\\'
  | '/' => some '/'
  | 'b' => some '\x08'
  | 'f' => some '\x0c'
  | 'n' => some '\n'
  | 'r' => some '\r'
  | 't' => some '\t'
  | _ => none

/-- A four-digit escape; two of them that form a surrogate pair are one character. -/
def unicodeEscape (text : List Char) : Attempt (Char × List Char) :=
  match codeUnit? text with
  | none => .error (.at ('u' :: text))
  | some (first, rest) =>
      if 0xd800 ≤ first ∧ first < 0xdc00 then
        match rest with
        | '\\' :: 'u' :: digits =>
            if digits.length ≤ 4 then .ok (unitCharacter first, rest)
            else
              match codeUnit? digits with
              | none => .error (.at ('u' :: digits))
              | some (second, after) =>
                  if 0xdc00 ≤ second ∧ second < 0xe000 then
                    .ok (Char.ofNat (0x10000 + (first - 0xd800) * 0x400 + (second - 0xdc00)), after)
                  else .ok (unitCharacter first, rest)
        | _ => .ok (unitCharacter first, rest)
      else .ok (unitCharacter first, rest)

/-- The rest of a string after its opening quote; `start` is the text from that quote on. -/
def stringRest (start : List Char) : (fuel : Nat) → List Char → List Char → Attempt (String × List Char)
  | 0, _, _ => .error (.at start)
  | fuel + 1, done, text =>
      match text with
      | [] => .error (.at start)
      | '"' :: rest => .ok (String.ofList done.reverse, rest)
      | ['\\'] => .error (.at start)
      | '\\' :: 'u' :: digits => do
          let (character, rest) ← unicodeEscape digits
          stringRest start fuel (character :: done) rest
      | '\\' :: mark :: rest =>
          match escape? mark with
          | some character => stringRest start fuel (character :: done) rest
          | none => .error (.at text)
      | character :: rest =>
          if character.val ≤ 0x1f then .error (.at text)
          else stringRest start fuel (character :: done) rest

/-- A string after its opening quote. -/
def string (text : List Char) : Attempt (String × List Char) :=
  stringRest ('"' :: text) (text.length + 1) [] text

/-- The digits before a point: a zero alone, or digits that do not start with one. -/
def wholeDigits? : List Char → Option (List Char × List Char)
  | '0' :: rest => some (['0'], rest)
  | text =>
      let digits := text.takeWhile Char.isDigit
      if digits.isEmpty then none else some (digits, text.dropWhile Char.isDigit)

/-- The digits after a point, if a point with a digit follows. -/
def fraction? : List Char → Option (List Char × List Char)
  | '.' :: rest =>
      let digits := rest.takeWhile Char.isDigit
      if digits.isEmpty then none else some (digits, rest.dropWhile Char.isDigit)
  | _ => none

/-- A power of ten, if a mark with a digit follows. -/
def power? : List Char → Option (Int × List Char)
  | mark :: rest =>
      if mark = 'e' ∨ mark = 'E' then
        let (negative, rest) := Reading.signed rest
        let digits := rest.takeWhile Char.isDigit
        if digits.isEmpty then none
        else
          let size : Int := Reading.natural digits
          some (if negative then -size else size, rest.dropWhile Char.isDigit)
      else none
  | [] => none

/-- A number; the fault lies at its start. -/
def number (text : List Char) : Attempt (Number × List Char) :=
  let (negative, unsigned) :=
    match text with
    | '-' :: rest => (true, rest)
    | _ => (false, text)
  match wholeDigits? unsigned with
  | none => .error (.at text)
  | some (whole, rest) =>
      match fraction? rest, power? ((fraction? rest).elim rest Prod.snd) with
      | none, none =>
          let size : Int := Reading.natural whole
          if Reading.longest < whole.length then .error (.digits whole.length)
          else .ok (.whole (if negative then -size else size), rest)
      | fraction, power =>
          let digits := whole ++ fraction.elim [] Prod.fst
          let exponent := power.elim 0 Prod.fst - (fraction.elim [] Prod.fst).length
          let size := Reading.scaled (Reading.natural digits) exponent
          .ok (.double (Double.withSign negative size),
            power.elim (fraction.elim rest Prod.snd) Prod.snd)

mutual

/-- One value, with at most so many lists and objects around each other; every nested value costs one
unit of fuel. -/
def value : (fuel depth : Nat) → List Char → Attempt (Datum × List Char)
  | 0, _, text => .error (.at text)
  | fuel + 1, depth, text =>
      match text with
      | '"' :: rest => do
          let (content, rest) ← string rest
          pure (.text content, rest)
      | '\x7b' :: rest =>
          match depth, skipGap rest with
          | 0, _ => .error (.depth "object")
          | _, '\x7d' :: rest => .ok (.object [], rest)
          | depth + 1, rest => fields fuel depth [] rest
      | '[' :: rest =>
          match depth, skipGap rest with
          | 0, _ => .error (.depth "array")
          | _, ']' :: rest => .ok (.list [], rest)
          | depth + 1, rest => items fuel depth [] rest
      | 'n' :: 'u' :: 'l' :: 'l' :: rest => .ok (.null, rest)
      | 't' :: 'r' :: 'u' :: 'e' :: rest => .ok (.truth true, rest)
      | 'f' :: 'a' :: 'l' :: 's' :: 'e' :: rest => .ok (.truth false, rest)
      | 'N' :: 'a' :: 'N' :: rest => .ok (.double Double.undefined, rest)
      | 'I' :: 'n' :: 'f' :: 'i' :: 'n' :: 'i' :: 't' :: 'y' :: rest =>
          .ok (.double Double.infinity, rest)
      | '-' :: 'I' :: 'n' :: 'f' :: 'i' :: 'n' :: 'i' :: 't' :: 'y' :: rest =>
          .ok (.double (-Double.infinity), rest)
      | text => do
          let (content, rest) ← number text
          pure (.number content, rest)

/-- The items of a list that is not empty, up to its closing bracket. -/
def items : (fuel depth : Nat) → List Datum → List Char → Attempt (Datum × List Char)
  | 0, _, _, text => .error (.at text)
  | fuel + 1, depth, done, text => do
      let (item, rest) ← value fuel depth text
      match skipGap rest with
      | ']' :: rest => pure (.list (item :: done).reverse, rest)
      | ',' :: rest => items fuel depth (item :: done) (skipGap rest)
      | rest => throw (.at rest)

/-- The fields of an object that is not empty, up to its closing brace. -/
def fields : (fuel depth : Nat) → List (String × Datum) → List Char → Attempt (Datum × List Char)
  | 0, _, _, text => .error (.at text)
  | fuel + 1, depth, done, text =>
      match text with
      | '"' :: rest => do
          let (key, rest) ← string rest
          match skipGap rest with
          | ':' :: rest => do
              let (content, rest) ← value fuel depth (skipGap rest)
              let done := Datum.insert key content done
              match skipGap rest with
              | '\x7d' :: rest => pure (.object done, rest)
              | ',' :: rest => fields fuel depth done (skipGap rest)
              | rest => throw (.at rest)
          | rest => throw (.at rest)
      | text => throw (.at text)

end

/-- Why a text is refused. -/
inductive Fault
  /-- It is not JSON; the fault comes after so many characters. -/
  | malformed (position : Nat)
  /-- A whole number has too many digits. -/
  | tooManyDigits (count : Nat)
  /-- A list or an object is nested too deep. -/
  | tooDeep (kind : String)
  deriving DecidableEq, Repr

/-- The sentence that describes a fault; a text that is not JSON has a position instead. -/
def Fault.message : Fault → String
  | .malformed _ => ""
  | .tooManyDigits count => Reading.tooLongText count
  | .tooDeep kind =>
      "maximum recursion depth exceeded while decoding a JSON " ++ kind ++ " from a unicode string"

/-- Where a text of a length stopped to be read. -/
def Stop.fault (length : Nat) : Stop → Fault
  | .at rest => .malformed (length - rest.length)
  | .digits count => .tooManyDigits count
  | .depth kind => .tooDeep kind

/-- Read a whole JSON text with at most so many lists and objects around each other. -/
def readWithin (depth : Nat) (text : List Char) : Except Fault Datum :=
  match value (text.length + 1) depth (skipGap text) with
  | .error stop => .error (stop.fault text.length)
  | .ok (datum, rest) =>
      match skipGap rest with
      | [] => .ok datum
      | rest => .error (.malformed (text.length - rest.length))

/-- How many lists and objects may be around each other in a text from outside. -/
def deepest : Nat := 930

/-- Read a whole JSON text from outside. -/
def read (text : List Char) : Except Fault Datum :=
  readWithin deepest text

/-- A leading byte order mark does not belong to a JSON text. -/
def withoutMark : List Char → List Char
  | '\ufeff' :: rest => rest
  | text => text

end Appraisal.Json
