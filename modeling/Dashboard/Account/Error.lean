/-!
# Account errors

Why an operation on users and sessions fails. An unknown name, a wrong password and
an unknown session all read the same.
-/

namespace Dashboard.Account

/-- Why an operation on users and sessions fails. -/
inductive AccountError where
  /-- No user of the name, or another password; which one is never told. -/
  | invalidCredentials
  /-- No live session of the token. -/
  | sessionInvalid
  /-- The session lacks these capabilities. -/
  | forbidden (missing : List String)
  | emptyField (field : String)
  | weakPassword (reason : String)
  | passwordMismatch
  | userExists (username : String)
  | hashingFailed
  | storage (reason : String)
  deriving DecidableEq, Repr

namespace AccountError

/-- What an account error says to a user. -/
def message : AccountError → String
  | invalidCredentials => "Bad credentials"
  | sessionInvalid => "Bad credentials"
  | forbidden missing =>
    "You don't have the correct permissions to perform this action. Missing: " ++
      String.intercalate "," missing
  | emptyField field => field ++ " cannot be empty"
  | weakPassword reason => reason
  | passwordMismatch => "Password and repeat-password must match"
  | userExists username => "User '" ++ username ++ "' already exists"
  | hashingFailed => "Internal error: password hashing failed"
  | storage reason => "Storage error: " ++ reason

/-- The status code of the answer to a request that meets the error. -/
def status : AccountError → Nat
  | invalidCredentials => 401
  | sessionInvalid => 401
  | forbidden _ => 403
  | emptyField _ => 422
  | weakPassword _ => 422
  | passwordMismatch => 422
  | userExists _ => 422
  | hashingFailed => 500
  | storage _ => 500

/-- Whether the failure is the server's own. -/
def isInternal (error : AccountError) : Bool := 500 ≤ error.status

end AccountError

end Dashboard.Account
