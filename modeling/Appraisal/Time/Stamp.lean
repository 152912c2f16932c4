import Appraisal.Number.Reading
import Appraisal.Text.Quoted
import Appraisal.Time.Instant

/-!
# Reading stamps

A stamp is a date of the calendar or of the week calendar, optionally followed by one character and
a time of day with an offset from universal time.  The separators inside a date and inside a time
may be left out.  A stamp without offset names no instant.
-/

namespace Appraisal.Time

/-- Why a text names no instant. -/
inductive StampFault
  /-- The text is no stamp. -/
  | malformed (text : String)
  /-- The year is outside the calendar. -/
  | year (number : Int)
  | month
  | day
  | hour
  | minute
  | second
  /-- The offset is a day or more; it is given in microseconds. -/
  | offset (microseconds : Int)
  | unanchored
  deriving DecidableEq, Repr

/-- A span of time in days, seconds and microseconds, as far as they are not zero. -/
def spanText (microseconds : Int) : String :=
  let parts := [("days", microseconds / 86400000000),
    ("seconds", microseconds / 1000000 % 86400), ("microseconds", microseconds % 1000000)]
  "datetime.timedelta(" ++ String.intercalate ", "
    ((parts.filter fun part => part.2 ≠ 0).map fun (unit, count) => unit ++ "=" ++ toString count) ++
    ")"

/-- The sentence that describes a fault. -/
def StampFault.message : StampFault → String
  | .malformed text => "Invalid isoformat string: " ++ Text.quoted text
  | .year number => "year " ++ toString number ++ " is out of range"
  | .month => "month must be in 1..12"
  | .day => "day is out of range for month"
  | .hour => "hour must be in 0..23"
  | .minute => "minute must be in 0..59"
  | .second => "second must be in 0..59"
  | .offset microseconds =>
      "offset must be a timedelta strictly between -timedelta(hours=24) and " ++
        "timedelta(hours=24), not " ++ spanText microseconds ++ "."
  | .unanchored => "can't compare offset-naive and offset-aware datetimes"

namespace Stamp

/-- A fixed count of digits at the start of a text. -/
def digits? (count : Nat) (text : List Char) : Option (Nat × List Char) :=
  let digits := text.take count
  if digits.length = count ∧ digits.all Char.isDigit then
    some (Reading.natural digits, text.drop count)
  else none

/-- How many characters of a stamp belong to its date. -/
def dateLength (text : List Char) : Nat :=
  let digitAt (index : Nat) : Bool := (text[index]?.map Char.isDigit).getD false
  if text.length = 7 then 7
  else if text[4]? = some '-' then
    if text[5]? = some 'W' then
      if text[8]? = some '-' then (if digitAt 10 then 8 else 10) else 8
    else 10
  else if text[4]? = some 'W' then
    let stop := 7 + ((text.drop 7).takeWhile Char.isDigit).length
    if stop < 9 then stop else if stop % 2 = 0 then 7 else 8
  else 8

/-- The Monday of the first week of a year, in days of the epoch. -/
def firstMonday (year : Int) : Int :=
  let newYear := (Date.mk year 1 1).toDays
  let weekday := (newYear + 3) % 7
  let monday := newYear - weekday
  if 3 < weekday then monday + 7 else monday

/-- The date of a day of a week; only some years have a week 53.  Days before the calendar, which the
year 0 has, get a date without month. -/
def weekDate? (year : Int) (week weekday : Nat) : Option Date :=
  let newYear := ((Date.mk year 1 1).toDays + 3) % 7
  let long := newYear = 3 ∨ (newYear = 2 ∧ isLeapYear year)
  if week = 0 ∨ 53 < week ∨ (week = 53 ∧ ¬ long) ∨ weekday = 0 ∨ 7 < weekday then none
  else
    let date := Date.ofDays (firstMonday year + (week - 1) * 7 + (weekday - 1))
    some (if date.year < 1 then ⟨1, 0, 0⟩ else date)

/-- The fields of a date, before they are checked; a week date is given as the date it stands for. -/
def date? (text : List Char) : Option Date := do
  let (year, rest) ← digits? 4 text
  let separated := rest.head? = some '-'
  let rest := if separated then rest.drop 1 else rest
  if rest.head? = some 'W' then
    let (week, rest) ← digits? 2 (rest.drop 1)
    match rest with
    | [] => weekDate? year week 1
    | first :: others =>
        if separated && first ≠ '-' then none
        else
          let (weekday, rest) ← digits? 1 (if separated then others else rest)
          if rest.isEmpty then weekDate? year week weekday else none
  else
    let (month, rest) ← digits? 2 rest
    if separated && rest.head? ≠ some '-' then none
    else
      let (day, rest) ← digits? 2 (if separated then rest.drop 1 else rest)
      if rest.isEmpty then some ⟨year, month, day⟩ else none

/-- A time of day, or an offset. -/
structure Clock where
  hour : Nat := 0
  minute : Nat := 0
  second : Nat := 0
  microsecond : Nat := 0

/-- The digits of a fraction as microseconds; digits beyond the sixth are dropped. -/
def fraction? (text : List Char) : Option (Nat × List Char) :=
  let count := min text.length 6
  (digits? count text).map fun (value, rest) =>
    (value * Nat.pow 10 (6 - count), rest.dropWhile Char.isDigit)

/-- Where the numbers of a time of day end. -/
inductive ClockEnd
  /-- At a text that is not read: it is empty or a single character of ASCII. -/
  | stop (rest : List Char)
  /-- At a fraction. -/
  | fraction (text : List Char)

/-- The two-digit numbers of a time of day, at most a count of them.  All are separated by colons or
none is; the first separator decides unless it is known. -/
def numbers? : (count : Nat) → (separated : Option Bool) → List Char → Option (List Nat × ClockEnd)
  | 0, _, text => some ([], .fraction text)
  | count + 1, separated, text => do
      let (number, rest) ← digits? 2 text
      match rest with
      | mark :: others@(_ :: _) =>
          let separated := separated.getD (mark = ':')
          if mark = '.' ∨ mark = ',' then pure ([number], .fraction others)
          else if separated && mark ≠ ':' then failure
          else
            let (numbers, stop) ← numbers? count (some separated) (if separated then others else rest)
            pure (number :: numbers, stop)
      | _ => if rest.all Text.isAscii then pure ([number], .stop rest) else failure

/-- Hours, minutes and seconds, as far as they are given; the rest is what could not be read. -/
def clock? (text : List Char) : Option (Clock × List Char) := do
  let (numbers, stop) ← numbers? 3 none text
  let clock : Clock :=
    { hour := numbers.getD 0 0, minute := numbers.getD 1 0, second := numbers.getD 2 0 }
  match stop with
  | .stop rest => pure (clock, rest)
  | .fraction text =>
      let (microsecond, rest) ← fraction? text
      pure ({ clock with microsecond }, rest)

/-- The seconds of an offset. -/
def Clock.seconds (clock : Clock) : Nat :=
  clock.hour * 3600 + clock.minute * 60 + clock.second

/-- A time of day with the microseconds of its offset, if it has one; an offset below a second is none
at all.  Before an offset, what could not be read of the time of day is skipped. -/
def time? (text : List Char) : Option (Clock × Option Int) := do
  let isMark (character : Char) : Bool := character = '+' || character = '-' || character = 'Z'
  let here := text.takeWhile fun character => !isMark character
  let (clock, rest) ← clock? here
  match text.drop here.length with
  | [] => if rest.isEmpty then return (clock, none) else failure
  | 'Z' :: others => if others.isEmpty then return (clock, some 0) else failure
  | mark :: others => do
      let (offset, rest) ← clock? others
      if rest.isEmpty then
        let size : Int :=
          if offset.seconds = 0 then 0 else offset.seconds * 1000000 + offset.microsecond
        return (clock, some (if mark = '-' then -size else size))
      else failure

/-- Check the fields of a date and a time of day. -/
def instant (date : Date) (clock : Clock) : Except StampFault Int :=
  if date.year < 1 ∨ 9999 < date.year then .error (.year date.year)
  else if date.month < 1 ∨ 12 < date.month then .error .month
  else if date.day < 1 ∨ daysInMonth date.year date.month < date.day then .error .day
  else if 23 < clock.hour then .error .hour
  else if 59 < clock.minute then .error .minute
  else if 59 < clock.second then .error .second
  else .ok ((date.toDays * 86400 + clock.seconds) * 1000000 + clock.microsecond)

/-- The instant that a stamp names. -/
def read (text : String) : Except StampFault Instant :=
  let characters := text.toList
  let length := dateLength characters
  let time : Option (Clock × Option Int) :=
    if characters.length ≤ length then some ({}, none) else time? (characters.drop (length + 1))
  match date? (characters.take length), time with
  | some date, some (clock, offset) => do
      if 86400000000 ≤ (offset.getD 0).natAbs then throw (.offset (offset.getD 0))
      let moment ← instant date clock
      match offset with
      | some offset => pure ⟨moment - offset⟩
      | none => throw .unanchored
  | _, _ => .error (.malformed text)

end Stamp

end Appraisal.Time
