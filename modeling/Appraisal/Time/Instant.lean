import Appraisal.Number.Decimal
import Appraisal.Time.Calendar

/-!
# Instants

An instant is a count of microseconds since the epoch.  Clocks give seconds as doubles; a stamp is
the text of an instant in universal time.
-/

namespace Appraisal.Time

/-- A point in time, in microseconds of the epoch. -/
structure Instant where
  /-- Microseconds since the first of January 1970. -/
  microseconds : Int
  deriving DecidableEq, Repr, Inhabited

/-- Why there is no instant some seconds later. -/
inductive SpanFault
  /-- There are too many days on the way. -/
  | tooManyDays (days : Int)
  /-- There are more days on the way than can be counted. -/
  | uncountable
  /-- The instant is outside the calendar. -/
  | beyondCalendar
  deriving DecidableEq, Repr

/-- The sentence that describes a fault. -/
def SpanFault.message : SpanFault → String
  | .tooManyDays days => "days=" ++ toString days ++ "; must have magnitude <= 999999999"
  | .uncountable => "Python int too large to convert to C int"
  | .beyondCalendar => "date value out of range"

namespace Instant

/-- Whether an instant lies in one of the years that stamps can write, 1 to 9999. -/
def hasStamp (instant : Instant) : Bool :=
  -62135596800000000 ≤ instant.microseconds && instant.microseconds < 253402300800000000

/-- The instant some seconds later; spans are counted in days, and stamps are kept within reach. -/
def later (instant : Instant) (seconds : Int) : Except SpanFault Instant :=
  let days := seconds / 86400
  let moment : Instant := ⟨instant.microseconds + seconds * 1000000⟩
  if days < -Int.pow 2 31 ∨ Int.pow 2 31 ≤ days then .error .uncountable
  else if 999999999 < days.natAbs then .error (.tooManyDays days)
  else if moment.hasStamp then .ok moment
  else .error .beyondCalendar

/-- Not after. -/
def atMost (left right : Instant) : Bool :=
  left.microseconds ≤ right.microseconds

/--
The instant that a clock shows: its whole seconds, and its fraction in microseconds, rounded half to
even.
-/
def ofSeconds (seconds : Float) : Instant :=
  let whole := Double.truncate seconds
  let fraction := seconds - Float.ofInt whole
  ⟨whole * 1000000 + Double.nearest (fraction * 1000000.0)⟩

/-- Two digits. -/
def pair (value : Nat) : String :=
  String.ofList (Decimal.padded 2 value)

/-- The day of an instant. -/
def date (instant : Instant) : Date :=
  Date.ofDays (instant.microseconds / 86400000000)

/-- A date with its year in some digits. -/
def dateText (year : String) (date : Date) : String :=
  year ++ "-" ++ pair date.month ++ "-" ++ pair date.day

/-- The hour, minute and second of an instant. -/
def clockText (instant : Instant) : String :=
  let seconds := (instant.microseconds % 86400000000 / 1000000).toNat
  pair (seconds / 3600) ++ ":" ++ pair (seconds / 60 % 60) ++ ":" ++ pair (seconds % 60)

/-- The stamp of an instant; a fraction of zero is not written. -/
def stamp (instant : Instant) : String :=
  let fraction := (instant.microseconds % 1000000).toNat
  dateText (String.ofList (Decimal.padded 4 instant.date.year.toNat)) instant.date ++ "T" ++
    instant.clockText ++
    (if fraction = 0 then "" else "." ++ String.ofList (Decimal.padded 6 fraction)) ++ "+00:00"

end Instant

/-- The milliseconds that a clock shows, without their fraction. -/
def milliseconds (seconds : Float) : Int :=
  Double.truncate (seconds * 1000.0)

end Appraisal.Time
