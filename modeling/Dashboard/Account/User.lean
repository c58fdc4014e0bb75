import Dashboard.Account.Error
import Dashboard.Account.Password
import Dashboard.Account.Secrets
import Dashboard.Json.Record
import Dashboard.Text.Blank
import Dashboard.Text.Hexadecimal
import Dashboard.Text.Lowercase

/-!
# Users

A user has a name, the record of a password, and a permission tree. The forms that
leave the server never hold the record.
-/

namespace Dashboard.Account

/-- The normal form of a user name: without blanks around it and in lower case. -/
def normalizeUsername (username : String) : String :=
  Text.lowercase (Text.trim username)

/-- A user. -/
structure User where
  username : String
  passwordRecord : String
  permissions : Json
  gravatarEmail : Option String
  /-- Seconds since the epoch. -/
  timeCreated : Int
  deriving DecidableEq

/-- What a user sees after a login. -/
structure UserProfile where
  username : String
  gravatarUrl : String
  gravatarEmail : String
  deriving DecidableEq, Repr

/-- The address of the picture of an identity, which is taken without blanks around it
and in lower case. -/
def gravatarUrl (identity : String) : String :=
  let octets := Text.Utf8.ofString (Text.lowercase (Text.trim identity))
  "https://www.gravatar.com/avatar/" ++
    String.ofList (Text.Hexadecimal.encode (Digest.Sha256.digest octets)) ++
    "?d=identicon&s=200"

/-- The permission tree that grants nothing. -/
def noPermissions : Json := .object []

/-- The fields that a text may have, the empty one included, or a value in its place. -/
def textField? (fields : Json.FieldDocuments) (name : String) : Option String :=
  fields.orElse? name "" Json.Document.text?

namespace User

/-- A user with a new password. -/
def create (scheme : SecretScheme) (draws : Draws) (username password : String)
    (permissions : Json) : Except AccountError User :=
  match scheme.recordOf draws.salt password with
  | none => .error .hashingFailed
  | some record =>
    .ok ⟨normalizeUsername username, record, permissions, none, draws.now⟩

/-- Whether a password is the user's. -/
def checkPassword (scheme : SecretScheme) (user : User) (password : String) :
    Except AccountError Bool :=
  match scheme.opens user.passwordRecord password with
  | none => .error .invalidCredentials
  | some same => .ok same

/-- The address of the user's picture: by the e-mail address when there is one, else by
the name. -/
def pictureUrl (user : User) : String :=
  match user.gravatarEmail with
  | some email => if email.isEmpty then gravatarUrl user.username else gravatarUrl email
  | none => gravatarUrl user.username

/-- What the user sees after a login. -/
def profile (user : User) : UserProfile :=
  ⟨user.username, user.pictureUrl, user.gravatarEmail.getD ""⟩

/-- The public form of a user. -/
def toJson (user : User) : Json :=
  let shown :=
    [("username", Json.string user.username), ("permissions", user.permissions),
      ("time_created", .number (.int user.timeCreated))]
  Json.ofMembers (match user.gravatarEmail with
    | some email => shown ++ [("gravatar-email", .string email)]
    | none => shown)

/-- Reads a user from a document. -/
def ofDocument? (document : Json.Document) : Option User := do
  let fields ← Json.FieldDocuments.ofDocument?
    [⟨"username", false⟩, ⟨"password_hash", true⟩, ⟨"permissions", true⟩,
     ⟨"gravatar-email", true⟩, ⟨"time_created", false⟩] document
  let username ← fields.required? "username" Json.Document.text?
  let passwordRecord ← textField? fields "password_hash"
  let permissions ← fields.orElse? "permissions" noPermissions Json.Document.fieldValue?
  let gravatarEmail ← fields.orElse? "gravatar-email" none
    (Json.Document.nullable? Json.Document.text?)
  let timeCreated ← fields.required? "time_created" Json.Document.integer64?
  return ⟨username, passwordRecord, permissions, gravatarEmail, timeCreated⟩

end User

/-- The form of a profile in an answer. -/
def UserProfile.toJson (profile : UserProfile) : Json :=
  Json.ofMembers
    [("username", .string profile.username), ("gravatar-url", .string profile.gravatarUrl),
     ("gravatar-email", .string profile.gravatarEmail)]

/-- A request for a new user. -/
structure Registration where
  username : String
  password : String
  repeatPassword : String
  permissions : Json
  deriving DecidableEq

namespace Registration

/-- Reads a registration from a document; every field may be missing. -/
def ofDocument? (document : Json.Document) : Option Registration := do
  let fields ← Json.FieldDocuments.ofDocument?
    [⟨"username", true⟩, ⟨"password", true⟩, ⟨"repeat-password", true⟩,
     ⟨"permissions", true⟩] document
  let username ← textField? fields "username"
  let password ← textField? fields "password"
  let repeatPassword ← textField? fields "repeat-password"
  let permissions ← fields.orElse? "permissions" noPermissions Json.Document.fieldValue?
  return ⟨username, password, repeatPassword, permissions⟩

/-- Refuses a registration by the first rule that it breaks. -/
def validate (registration : Registration) : Except AccountError Unit :=
  if Text.isBlankText registration.username then .error (.emptyField "Username")
  else if registration.password.isEmpty then .error (.emptyField "Password")
  else match checkPassword registration.password with
    | .error error => .error error
    | .ok () =>
      if registration.repeatPassword = registration.password then .ok ()
      else .error .passwordMismatch

end Registration

/-- A name and a password that ask for a session. -/
structure Credentials where
  username : String
  password : String
  deriving DecidableEq, Repr

/-- Reads credentials from a document; both fields may be missing. -/
def Credentials.ofDocument? (document : Json.Document) : Option Credentials := do
  let fields ← Json.FieldDocuments.ofDocument?
    [⟨"username", true⟩, ⟨"password", true⟩] document
  let username ← textField? fields "username"
  let password ← textField? fields "password"
  return ⟨username, password⟩

end Dashboard.Account
