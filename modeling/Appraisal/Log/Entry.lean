import Appraisal.Datum.Display

/-!
# Log lines

A log line is a row of `key=value` pairs: what every entry has, the marks that entries share, and
whatever else an entry reports.  A later pair takes the place of an earlier one with its key.
-/

namespace Appraisal.Log

/-- How urgent an entry is. -/
abbrev Level := Int

/-- Details for developers. -/
def debug : Level := 10

/-- The normal course of things. -/
def info : Level := 20

/-- Something that was coped with. -/
def warning : Level := 30

/-- Something that failed. -/
def error : Level := 40

/-- The name of a level. -/
def levelName (level : Level) : String :=
  if level = 10 then "DEBUG"
  else if level = 20 then "INFO"
  else if level = 30 then "WARNING"
  else if level = 40 then "ERROR"
  else if level = 50 then "CRITICAL"
  else if level = 0 then "NOTSET"
  else "Level " ++ toString level

/-- One entry of a log. -/
structure Entry where
  level : Level
  /-- Which part of the program reports. -/
  logger : String
  /-- Which function of that part reports, if that is known. -/
  function : Option String
  message : String
  /-- Further pairs, in order. -/
  fields : List (String × Datum)
  deriving Inhabited

/-- The marks that entries share; they stand before all other fields, in this order. -/
def marks : List String := ["rule_id", "breaker", "category"]

/-- Fields with the marks moved to the front. -/
def arranged (fields : List (String × Datum)) : List (String × Datum) :=
  (marks.filterMap fun mark => (Datum.lookup mark fields).map (mark, ·)) ++
    fields.filter fun field => !marks.contains field.1

/-- The pairs that every entry starts with. -/
def Entry.heading (entry : Entry) : List (String × Datum) :=
  [("level", .text (levelName entry.level)), ("logger", .text entry.logger),
    ("function", (entry.function.map Datum.text).getD .null), ("message", .text entry.message)]

/-- Pairs as a line. -/
def line (pairs : List (String × Datum)) : String :=
  String.intercalate " " (pairs.map fun (key, value) => key ++ "=" ++ value.display)

/-- An entry as a line, without its time. -/
def Entry.line (entry : Entry) : String :=
  Log.line (Datum.merged entry.heading (arranged entry.fields))

/-- An entry that is reported with fields, as most are. -/
def report (level : Level) (logger message : String) (fields : List (String × Datum)) : Entry :=
  { level, logger, function := some "log_with_context", message, fields }

/-- What a report gives by itself; no field can have one of these names. -/
def reserved : List String := ["logger", "level", "msg"]

/-- The first field that cannot be reported under its name. -/
def reserved? (fields : List (String × Datum)) : Option String :=
  (fields.map Prod.fst).find? reserved.contains

/-- What is said of a field that cannot be reported under its name. -/
def reservedText (name : String) : String :=
  "log_with_context() got multiple values for argument '" ++ name ++ "'"

/-- The entries that a log keeps from a least level on. -/
def kept (least : Level) (entries : List Entry) : List Entry :=
  entries.filter fun entry => least ≤ entry.level

end Appraisal.Log
