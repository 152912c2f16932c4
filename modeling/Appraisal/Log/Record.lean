import Appraisal.Cause
import Appraisal.Log.Entry
import Appraisal.Log.Template
import Appraisal.Time.Instant

/-!
# Log records

A record is a log entry with its time, a message that may still be a template, and perhaps the
failure that it is about.  Its line starts with the time and ends with the last line of the failure.
-/

namespace Appraisal.Log

/-- A log entry before it is written.  Its parts are data that nobody has checked. -/
structure Record where
  /-- When it was made, in seconds of the epoch. -/
  created : Datum
  milliseconds : Datum
  level : Level
  /-- Which part of the program reports. -/
  logger : Datum
  /-- Which function of that part reports, if that is known. -/
  function : Datum
  /-- The message, a template if there are arguments. -/
  message : Datum
  /-- What is put into the message. -/
  arguments : List Datum
  /-- The attributes that are set on the record: marks, and parts of it under their names. -/
  attributes : List (String × Datum)
  /-- Further pairs, in order. -/
  extras : List (String × Datum)
  /-- The failure that the record is about. -/
  failure : Option Cause

/-- Why a record has no moment. -/
inductive MomentFault
  /-- It was made at an undefined time. -/
  | undefined
  /-- It was made at something that is no time. -/
  | noTime (kind : String)
  /-- It was made at a time that clocks cannot show. -/
  | beyondClocks
  /-- It was made in a year that the calendar has no room for. -/
  | beyondCalendar
  /-- It was made in a year that cannot be written. -/
  | unwritableYear
  | milliseconds (fault : StyleFault)
  deriving DecidableEq, Repr

/-- The sentence that describes a fault. -/
def MomentFault.message : MomentFault → String
  | .undefined => "Invalid value NaN (not a number)"
  | .noTime kind => "'" ++ kind ++ "' object cannot be interpreted as an integer"
  | .beyondClocks => "timestamp out of range for platform time_t"
  | .beyondCalendar => "[Errno 75] Value too large for defined data type"
  | .unwritableYear => "signed integer is greater than maximum"
  | .milliseconds fault => fault.message

/-- The second in which a record was made. -/
def secondOf : Datum → Except MomentFault Int
  | .number value =>
      match value.extent with
      | .undefined => .error .undefined
      | .above | .below => .error .beyondClocks
      | .finite exact =>
          if -Int.pow 2 63 ≤ exact.floor ∧ exact.floor < Int.pow 2 63 then .ok exact.floor
          else .error .beyondClocks
  | .truth value => .ok (if value then 1 else 0)
  | datum => .error (.noTime datum.kind)

/-- A second as date and time of day.  The years of the calendar are counted from 1900 in 32 bits. -/
def secondText (second : Int) : Except MomentFault String :=
  let instant : Time.Instant := ⟨second * 1000000⟩
  let date := instant.date
  if date.year - 1900 < -Int.pow 2 31 ∨ Int.pow 2 31 ≤ date.year - 1900 then
    .error .beyondCalendar
  else if Int.pow 2 31 ≤ date.year then .error .unwritableYear
  else .ok (Time.Instant.dateText (toString date.year) date ++ " " ++ instant.clockText)

/-- How milliseconds are written: in three characters, zeros first. -/
def millisecondStyle : Style := ⟨'d', ['0'], 3, none⟩

/-- The moment of a record: date, time of day, and milliseconds in at least three characters. -/
def momentText (created milliseconds : Datum) : Except MomentFault String := do
  let second ← secondText (← secondOf created)
  let fraction ← (millisecondStyle.text (.whole 10) milliseconds).mapError .milliseconds
  pure (second ++ "," ++ String.ofList fraction)

/-- Characters that end a line. -/
def endsLine (character : Char) : Bool :=
  let code := character.toNat
  (10 ≤ code && code ≤ 13) || (28 ≤ code && code ≤ 30) || code = 0x85 || code = 0x2028 ||
    code = 0x2029

/-- Cut a text into lines.  A return and a newline after it end one line; a text that ends a line
has no empty line after it. -/
def lines : List Char → List (List Char)
  | [] => []
  | '\r' :: '\n' :: rest => [] :: lines rest
  | character :: rest =>
      if endsLine character then [] :: lines rest
      else
        match lines rest with
        | [] => [[character]]
        | line :: others => (character :: line) :: others

/-- The last line of a failure: its kind and, if it says anything, its message. -/
def failureText (cause : Cause) : String :=
  let text := if cause.message = "" then cause.kind else cause.kind ++ ": " ++ cause.message
  String.ofList ((lines text.toList).getLast?.getD [])

/-- Why a record has no line. -/
inductive RecordFault
  /-- It has no moment. -/
  | moment (fault : MomentFault)
  /-- Its message cannot be filled in. -/
  | template (fault : TemplateFault)
  deriving DecidableEq, Repr

/-- The sentence that describes a fault. -/
def RecordFault.message : RecordFault → String
  | .moment fault => fault.message
  | .template fault => fault.message

namespace Record

/-- A part of a record, unless an attribute of its name is set. -/
def part (record : Record) (name : String) (given : Datum) : Datum :=
  (Datum.lookup name record.attributes).getD given

/-- The pairs of a record with its moment and its message. -/
def pairs (record : Record) (moment message : String) : List (String × Datum) :=
  let heading : List (String × Datum) :=
    [("timestamp", .text moment),
      ("level", record.part "levelname" (.text (levelName record.level))),
      ("logger", record.part "name" record.logger),
      ("function", record.part "funcName" record.function), ("message", .text message)]
  let marked := Datum.merged heading
    (marks.filterMap fun mark => (Datum.lookup mark record.attributes).map (mark, ·))
  Datum.merged (Datum.merged marked record.extras)
    (record.failure.map fun cause => ("exc", Datum.text (failureText cause))).toList

/-- The line of a record; its moment is written before its message. -/
def line (record : Record) : Except RecordFault String := do
  let moment ← (momentText (record.part "created" record.created)
    (record.part "msecs" record.milliseconds)).mapError .moment
  let message ← (fillTemplate (record.part "msg" record.message).display
    record.arguments).mapError .template
  pure (Log.line (record.pairs moment message))

end Record

end Appraisal.Log
