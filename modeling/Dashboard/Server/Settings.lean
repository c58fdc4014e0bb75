import Dashboard.Account.Password
import Dashboard.Json.Record
import Dashboard.Listing.Request
import Dashboard.Text.Blank

/-!
# Settings

What an operator may set. Every setting has a value of its own, so that an empty
object is a complete set of settings.
-/

namespace Dashboard.Server

/-- The first account. -/
structure AdminSettings where
  username : String
  password : String
  deriving DecidableEq, Repr

/-- The settings of a server. -/
structure Settings where
  host : String
  port : Nat
  /-- Origins whose pages may read answers; none means all. -/
  corsOrigins : List String
  defaultPageLength : Nat
  maxPageLength : Nat
  searchCacheCapacity : Nat
  /-- The longest body of a request whose capability is checked. -/
  maxBodyLength : Nat
  bootstrapAdmin : Option AdminSettings
  deriving DecidableEq, Repr

namespace AdminSettings

/-- Reads the first account from a document. -/
def ofDocument? (document : Json.Document) : Option AdminSettings := do
  let fields ← Json.FieldDocuments.ofDocument?
    [⟨"username", false⟩, ⟨"password", false⟩] document
  let username ← fields.required? "username" Json.Document.text?
  let password ← fields.required? "password" Json.Document.text?
  return ⟨username, password⟩

/-- The form of the first account in a document. -/
def toJson (admin : AdminSettings) : Json :=
  Json.ofMembers [("username", .string admin.username), ("password", .string admin.password)]

end AdminSettings

namespace Settings

/-- The settings that hold when nothing is set. -/
def standard : Settings :=
  ⟨"0.0.0.0", 5000, [], 25, 1000, 256, 1048576, none⟩

/-- The standard settings with another port. -/
def withPort (port : Nat) : Settings := { standard with port := port }

/-- The address to listen at. -/
def address (settings : Settings) : String :=
  settings.host ++ ":" ++ toString settings.port

/-- The limits of list requests. -/
def pageLimits (settings : Settings) : Listing.PageLimits :=
  ⟨settings.defaultPageLength, settings.maxPageLength⟩

/-- Reads a count of 64 bits that may be missing. -/
def count? (fields : Json.FieldDocuments) (name : String) (missing : Nat) : Option Nat :=
  fields.orElse? name missing (Json.Document.natBelow? (Nat.pow 2 64))

/-- Reads settings from a document. -/
def ofDocument? (document : Json.Document) : Option Settings := do
  let fields ← Json.FieldDocuments.ofDocument?
    [⟨"host", true⟩, ⟨"port", true⟩, ⟨"cors_origins", true⟩, ⟨"default_page_length", true⟩,
     ⟨"max_page_length", true⟩, ⟨"search_cache_capacity", true⟩, ⟨"max_body_bytes", true⟩,
     ⟨"bootstrap_admin", true⟩] document
  let host ← fields.orElse? "host" standard.host Json.Document.text?
  let port ← fields.orElse? "port" standard.port (Json.Document.natBelow? (Nat.pow 2 16))
  let corsOrigins ← fields.orElse? "cors_origins" [] Json.Document.texts?
  let defaultPageLength ← count? fields "default_page_length" standard.defaultPageLength
  let maxPageLength ← count? fields "max_page_length" standard.maxPageLength
  let capacity ← count? fields "search_cache_capacity" standard.searchCacheCapacity
  let maxBodyLength ← count? fields "max_body_bytes" standard.maxBodyLength
  let admin ← fields.orElse? "bootstrap_admin" none
    (Json.Document.nullable? AdminSettings.ofDocument?)
  return ⟨host, port, corsOrigins, defaultPageLength, maxPageLength, capacity, maxBodyLength,
    admin⟩

/-- The form of settings in a document. -/
def toJson (settings : Settings) : Json :=
  Json.ofMembers
    [("host", .string settings.host), ("port", .ofNat settings.port),
     ("cors_origins", .ofStrings settings.corsOrigins),
     ("default_page_length", .ofNat settings.defaultPageLength),
     ("max_page_length", .ofNat settings.maxPageLength),
     ("search_cache_capacity", .ofNat settings.searchCacheCapacity),
     ("max_body_bytes", .ofNat settings.maxBodyLength),
     ("bootstrap_admin", (settings.bootstrapAdmin.map AdminSettings.toJson).getD .null)]

end Settings

/-- Why settings are refused. -/
inductive SettingsFault where
  | zero (setting : String)
  | pageLengthsCross (defaultLength maxLength : Nat)
  | adminWithoutName
  | adminPassword (cause : Account.AccountError)
  deriving DecidableEq, Repr

/-- What a fault of settings says to a user. -/
def SettingsFault.message : SettingsFault → String
  | zero setting => setting ++ " must be > 0"
  | pageLengthsCross defaultLength maxLength =>
    "default_page_length (" ++ toString defaultLength ++
      ") must not exceed max_page_length (" ++ toString maxLength ++ ")"
  | adminWithoutName => "bootstrap_admin.username must not be empty"
  | adminPassword cause => "bootstrap_admin.password: " ++ cause.message

/-- Refuses a first account without a name or with a password that is too short. -/
def AdminSettings.validate (admin : AdminSettings) : Except SettingsFault Unit :=
  if Text.isBlankText admin.username then .error .adminWithoutName
  else match Account.checkPassword admin.password with
    | .error cause => .error (.adminPassword cause)
    | .ok () => .ok ()

/-- Refuses settings by the first rule that they break. -/
def Settings.validate (settings : Settings) : Except SettingsFault Unit :=
  if settings.defaultPageLength = 0 then .error (.zero "default_page_length")
  else if settings.maxPageLength = 0 then .error (.zero "max_page_length")
  else if settings.maxPageLength < settings.defaultPageLength then
    .error (.pageLengthsCross settings.defaultPageLength settings.maxPageLength)
  else if settings.searchCacheCapacity = 0 then .error (.zero "search_cache_capacity")
  else if settings.maxBodyLength = 0 then .error (.zero "max_body_bytes")
  else match settings.bootstrapAdmin with
    | none => .ok ()
    | some admin => admin.validate

end Dashboard.Server
