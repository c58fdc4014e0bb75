import Dashboard.Json.Record
import Dashboard.Text.Ascii

/-!
# Forms

What a request must give for a new environment, webhook or service, and the record
that is made of it.
-/

namespace Dashboard.Deployment

/-- A request for a new environment. -/
structure EnvironmentForm where
  name : String
  mode : String
  tagMatch : String
  tls : Option Json
  deriving DecidableEq

namespace EnvironmentForm

/-- Reads the form from a document. -/
def ofDocument? (document : Json.Document) : Option EnvironmentForm := do
  let fields ← Json.FieldDocuments.ofDocument?
    [⟨"name", false⟩, ⟨"mode", false⟩, ⟨"tag-match", false⟩, ⟨"tls", true⟩] document
  let name ← fields.required? "name" Json.Document.text?
  let mode ← fields.required? "mode" Json.Document.text?
  let tagMatch ← fields.required? "tag-match" Json.Document.text?
  let tls ← fields.orElse? "tls" none (Json.Document.nullable? Json.Document.fieldValue?)
  return ⟨name, mode, tagMatch, tls⟩

/-- The record of a new environment. -/
def record (form : EnvironmentForm) (now : Int) : Json :=
  let members :=
    [("name", Json.string form.name), ("mode", .string form.mode),
      ("tag-match", .string form.tagMatch), ("time", .number (.int now))]
  Json.ofMembers (match form.tls with
    | some tls => members ++ [("tls", tls)]
    | none => members)

end EnvironmentForm

/-- A request for a new webhook. -/
structure WebhookForm where
  url : String
  event : String
  on : Json
  headers : Json
  data : Json
  deriving DecidableEq

namespace WebhookForm

/-- Reads the form from a document. -/
def ofDocument? (document : Json.Document) : Option WebhookForm := do
  let fields ← Json.FieldDocuments.ofDocument?
    [⟨"url", false⟩, ⟨"event", false⟩, ⟨"on", true⟩, ⟨"headers", true⟩, ⟨"data", true⟩] document
  let url ← fields.required? "url" Json.Document.text?
  let event ← fields.required? "event" Json.Document.text?
  let on ← fields.orElse? "on" .null Json.Document.fieldValue?
  let headers ← fields.orElse? "headers" .null Json.Document.fieldValue?
  let data ← fields.orElse? "data" .null Json.Document.fieldValue?
  return ⟨url, event, on, headers, data⟩

/-- The record of a new webhook. -/
def record (form : WebhookForm) (identifier : String) (now : Int) : Json :=
  Json.ofMembers
    [("id", .string identifier), ("url", .string form.url), ("event", .string form.event),
     ("on", form.on), ("headers", form.headers), ("data", form.data),
     ("time", .number (.int now))]

end WebhookForm

/-- A request for a new service. -/
structure ServiceForm where
  name : String
  environments : List String
  imageName : String
  deriving DecidableEq, Repr

/-- Why the form of a service is refused. -/
inductive ServiceFault where
  | name
  | imageName
  deriving DecidableEq, Repr

/-- What a fault of the form of a service says to a user. -/
def ServiceFault.message : ServiceFault → String
  | name => "Invalid service name"
  | imageName => "Invalid image name"

/-- Whether a text can stand in an address as it is: one or more ASCII letters, digits,
underscores and hyphens. -/
def isAddressSafe (text : String) : Bool :=
  !text.isEmpty && text.toList.all fun character =>
    Text.isAsciiLetter character || Text.isAsciiDigit character || character == '_' ||
      character == '-'

namespace ServiceForm

/-- Reads the form from a document. -/
def ofDocument? (document : Json.Document) : Option ServiceForm := do
  let fields ← Json.FieldDocuments.ofDocument?
    [⟨"service-name", false⟩, ⟨"environments", false⟩, ⟨"image-name", false⟩] document
  let name ← fields.required? "service-name" Json.Document.text?
  let environments ← fields.required? "environments" Json.Document.texts?
  let imageName ← fields.required? "image-name" Json.Document.text?
  return ⟨name, environments, imageName⟩

/-- Refuses a form with a name that cannot stand in an address. -/
def validate (form : ServiceForm) : Except ServiceFault Unit :=
  if !isAddressSafe form.name then .error .name
  else if !isAddressSafe form.imageName then .error .imageName
  else .ok ()

/-- The record of a new service. -/
def record (form : ServiceForm) (now : Int) : Json :=
  Json.ofMembers
    [("name", .string form.name), ("environments", .ofStrings form.environments),
     ("image-name", .string form.imageName), ("time", .number (.int now))]

end ServiceForm

end Dashboard.Deployment
