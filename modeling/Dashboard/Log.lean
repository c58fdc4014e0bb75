import Dashboard.Json.Printer

/-!
# Log lines

One event is one line: a JSON object with the name of the event first, then the
severity, then the fields sorted by key. Errors go to the second output, all
milder events to the first.
-/

namespace Dashboard.Log

/-- How serious an event is. -/
inductive Severity where
  | trace
  | info
  | warn
  | error
  | fatal
  deriving DecidableEq, Repr

namespace Severity

/-- The place of a severity in their order. -/
def rank : Severity → Nat
  | trace => 0
  | info => 1
  | warn => 2
  | error => 3
  | fatal => 4

/-- The text of a severity. -/
def text : Severity → String
  | trace => "TRACE"
  | info => "INFO"
  | warn => "WARN"
  | error => "ERROR"
  | fatal => "FATAL"

/-- Whether an event is an error or worse. -/
def isError (severity : Severity) : Bool := error.rank ≤ severity.rank

end Severity

/-- An event with its fields. -/
structure Event where
  severity : Severity
  name : String
  fields : List (String × String)
  deriving DecidableEq, Repr

namespace Event

/-- The fields in the order of their keys; fields of one key keep their order. -/
def sortedFields (event : Event) : List (String × String) :=
  event.fields.mergeSort fun left right => left.1 ≤ right.1

/-- The text of one field behind a comma. -/
def fieldText (field : String × String) : String :=
  "," ++ Json.quote field.1 ++ ":" ++ Json.quote field.2

/-- The line of an event, without its newline. -/
def line (event : Event) : String :=
  "\x7b\"event\":" ++ Json.quote event.name ++
    ",\"severity\":" ++ Json.quote event.severity.text ++
    String.join (event.sortedFields.map fieldText) ++ "\x7d"

/-- The line of an event as it is printed. -/
def printed (event : Event) : String := event.line ++ "\n"

/-- Whether the line goes to the second output. -/
def toErrorOutput (event : Event) : Bool := event.severity.isError

end Event

end Dashboard.Log
