import Dashboard.Command.Error
import Dashboard.Json.Printer

/-!
# Reports

The one line that a diagnosis prints: its data, or the code and the message of its
failure. The status stands first.
-/

namespace Dashboard.Command

/-- The line of the data of a diagnosis. -/
def successLine (data : Json) : String :=
  "\x7b\"status\":\"ok\",\"data\":" ++ data.render ++ "\x7d"

/-- The line of a failure with a code and a message. -/
def failureLine (code message : String) : String :=
  "\x7b\"status\":\"error\",\"code\":" ++ Json.quote code ++
    ",\"message\":" ++ Json.quote message ++ "\x7d"

/-- The line of the result of a diagnosis. -/
def reportLine : Except CommandError Json → String
  | .ok data => successLine data
  | .error error => failureLine error.code error.message

end Dashboard.Command
