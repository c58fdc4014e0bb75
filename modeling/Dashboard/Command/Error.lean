import Dashboard.Permission.Error
import Dashboard.Query.Error
import Dashboard.Server.Settings

/-!
# Failures of commands

A command that fails tells a code, for programs, and a message, for people.
-/

namespace Dashboard.Command

/-- Why settings cannot be used. -/
inductive SettingsFailure where
  | unreadable (reason : String)
  | notSettings
  | refused (fault : Server.SettingsFault)
  deriving DecidableEq, Repr

/-- What is said of settings that cannot be used. -/
def SettingsFailure.message : SettingsFailure → String
  | unreadable reason => "Failed to read config: " ++ reason
  | notSettings => "Invalid config JSON: not a JSON text of the expected form"
  | refused fault => fault.message

/-- Why what a command is given cannot be used. -/
inductive InputFault where
  | query (cause : Query.SearchError)
  | tree
  | path (cause : Permission.PermissionError)
  | placeholders
  | placeholdersNotObject
  deriving DecidableEq, Repr

/-- What is said of input that cannot be used. -/
def InputFault.message : InputFault → String
  | query cause => cause.message
  | tree => "Invalid permission tree: not a JSON text"
  | path cause => cause.message
  | placeholders => "Invalid placeholder JSON: not a JSON text"
  | placeholdersNotObject => "Placeholder values must be a JSON object"

/-- Why a server does not start. -/
inductive BootFault where
  | admin (cause : Account.AccountError)
  | address
  deriving DecidableEq, Repr

/-- What is said of a server that does not start. -/
def BootFault.message : BootFault → String
  | admin cause => "Failed to create admin account: " ++ cause.message
  | address => "HTTP server failed: Invalid socket address: invalid socket address syntax"

/-- Why a command fails. -/
inductive CommandError where
  | settings (cause : SettingsFailure)
  | input (cause : InputFault)
  | boot (cause : BootFault)
  | exchange (reason : String)
  deriving DecidableEq, Repr

namespace CommandError

/-- What a failed command says to a user. -/
def message : CommandError → String
  | settings cause => cause.message
  | input cause => cause.message
  | boot cause => cause.message
  | exchange reason => "I/O error: " ++ reason

/-- The code of a failed command. -/
def code : CommandError → String
  | settings _ => "CION_CLI_CONFIG_ERROR"
  | input _ => "CION_CLI_INVALID_INPUT"
  | boot _ => "CION_CLI_BOOT_FAILED"
  | exchange _ => "CION_CLI_IO_ERROR"

end CommandError

end Dashboard.Command
