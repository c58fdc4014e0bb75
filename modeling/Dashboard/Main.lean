import Dashboard.Command.Arguments
import Dashboard.Command.Boot
import Dashboard.Command.Diagnosis
import Dashboard.Command.Report
import Dashboard.Pattern.Compiled
import Dashboard.Server.Respond
import Std.Time.DateTime.Timestamp

/-!
# The command line

Reads the arguments, runs the command and prints what it leads to. Nothing is decided
here.
-/

namespace Dashboard.Main

open Command

/-- The help of the program. -/
def helpText : String :=
  "Usage: cion <COMMAND>\n\n" ++
  "  serve             [--config <CONFIG>]\n" ++
  "  check-query       <TEXT>\n" ++
  "  check-permission  --tree <TREE> --path <PATH> [--placeholders <PLACEHOLDERS>]\n" ++
  "  help              [COMMAND]"

/-- What is said of a command line that runs no command. -/
def noticeText : Notice → String
  | .help | .nothingAsked => helpText
  | .version => "cion " ++ Server.version
  | .unknownCommand name => "error: unrecognized subcommand '" ++ name ++ "'"
  | .unknownArgument argument => "error: unexpected argument '" ++ argument ++ "' found"
  | .unneededValue argument => "error: unexpected value in '" ++ argument ++ "' found"
  | .missingValue option => "error: a value is required for '--" ++ option ++ "'"
  | .repeatedOption option => "error: '--" ++ option ++ "' cannot be used multiple times"
  | .missingArguments names =>
    "error: required arguments were not provided: " ++ String.intercalate ", " names

/-- The code with which the program ends when it runs no command. -/
def noticeCode : Notice → UInt32
  | .help | .version => 0
  | _ => 2

/-- Prints the line of an event where it belongs. -/
def printEvent (event : Log.Event) : IO Unit :=
  if event.toErrorOutput then IO.eprint event.printed else IO.print event.printed

/-- What is drawn at random and read off the clock. -/
def draw : IO Account.Draws := do
  let now ← Std.Time.Timestamp.now
  let salt ← IO.getRandomBytes 16
  let token ← IO.getRandomBytes 32
  let identifier ← IO.getRandomBytes 16
  return ⟨now.toSecondsSinceUnixEpoch.val, salt.toList, token.toList, identifier.toList⟩

/-- The octets of a file; `none` when it is not there. -/
def readFile (path : String) : IO (Except String (Option (List UInt8))) := do
  match ← (IO.FS.readBinFile path).toBaseIO with
  | .ok octets => return .ok (some octets.toList)
  | .error (.noFileOrDirectory _ _ _) => return .ok none
  | .error reason => return .error (toString reason)

/-- Prints the message of a failure. -/
def fail (error : CommandError) : IO UInt32 := do
  IO.eprintln error.message
  return 1

/-- Prints the line of a diagnosis. -/
def report (result : Except CommandError Json) : IO UInt32 := do
  IO.println (reportLine result)
  match result with
  | .ok _ => return 0
  | .error error => fail error

/-- Loads the settings of a server and boots its state, and reports what fails; it accepts no
connections. -/
def serve (path : String) : IO UInt32 := do
  match ← readFile path with
  | .error reason => fail (.settings (.unreadable reason))
  | .ok content =>
    let (loaded, loading) := loadSettings path content
    loading.forM printEvent
    match loaded with
    | .error error => fail error
    | .ok settings =>
      let (booted, booting) := boot .standard (← draw) settings
      booting.forM printEvent
      match booted with
      | .error error => fail error
      | .ok _ => return 0

/-- Runs a command. -/
def run : Invocation → IO UInt32
  | .serve path => serve path
  | .checkQuery text => report (describeQuery .standard text)
  | .checkPermission tree path placeholders =>
    report (evaluatePermission tree path placeholders)

end Dashboard.Main

/-- Runs the command that the arguments name. -/
def main (arguments : List String) : IO UInt32 := do
  match Dashboard.Command.Invocation.ofArguments arguments with
  | .ok invocation => Dashboard.Main.run invocation
  | .error notice =>
    IO.println (Dashboard.Main.noticeText notice)
    return Dashboard.Main.noticeCode notice
