import Dashboard.Deployment.Forms
import Dashboard.Deployment.Overview
import Dashboard.Server.Guard
import Dashboard.Text.Identifier

/-!
# What endpoints do

Each action answers a request that was let through. An action that is refused leaves
the state as it is, but for the searches that it compiled.
-/

namespace Dashboard.Server

/-- What a request leads to: the answer, the state behind it, and what is logged. -/
structure Outcome where
  response : Http.Response
  state : ServerState
  events : List Log.Event

/-- A refused request. -/
def Outcome.refuse (state : ServerState) (error : RequestError) : Outcome :=
  ⟨error.response, state, []⟩

/-- An answer that changes nothing. -/
def Outcome.answer (state : ServerState) (status : Nat) (value : Json) : Outcome :=
  ⟨Http.Response.json status value, state, []⟩

/-- The version that the health of a server names. -/
def version : String := "0.1.0"

/-- The value with one member. -/
def note (name text : String) : Json := Json.ofMembers [(name, .string text)]

/-- The refusal of a body that is not what it must be. -/
def invalidBody : RequestError :=
  .badRequest "Invalid request body: not a JSON text of the expected form"

/-- The longest body that an action reads. -/
def longestBody : Nat := 2097152

/-- Reads the body of a request for an action; a body that is too long is answered in
plain text. -/
def withBody (state : ServerState) (request : Http.Request)
    (act : List UInt8 → Outcome) : Outcome :=
  if longestBody < request.body.length then
    ⟨.text 413 "Failed to buffer the request body: length limit exceeded", state, []⟩
  else act request.body

/-- Reads the body of a request as a document of some form. -/
def withForm {α : Type} (state : ServerState) (request : Http.Request)
    (read : Json.Document → Option α) (act : α → Outcome) : Outcome :=
  withBody state request fun body =>
    match (Json.Document.ofOctets? body).bind read with
    | none => .refuse state invalidBody
    | some form => act form

/-- Reads the parameter of the path; one that is no text is answered in plain text. -/
def withParameter (state : ServerState) (resource : Resource)
    (act : String → Outcome) : Outcome :=
  match resource.parameter? with
  | none => ⟨.bare 404, state, []⟩
  | some (name, segment) =>
    match Http.segmentText? segment with
    | some value => act value
    | none => ⟨.text 400 ("Invalid URL: Invalid UTF-8 in `" ++ name ++ "`"), state, []⟩

/-- Answers a login; whatever is wrong with it, the answer is the same. -/
def login (scheme : Account.SecretScheme) (draws : Account.Draws) (state : ServerState)
    (body : List UInt8) : Outcome :=
  match (Json.Document.ofOctets? body).bind Account.Credentials.ofDocument? with
  | none => .refuse state (.account .invalidCredentials)
  | some credentials =>
    match state.accounts.login scheme draws credentials.username credentials.password with
    | (.error error, accounts, events) =>
      ⟨(RequestError.account error).response, state.withAccounts accounts, events⟩
    | (.ok answer, accounts, events) =>
      ⟨.json 200 answer.toJson, state.withAccounts accounts, events⟩

/-- Ends the session of the token of a request. -/
def logout (scheme : Account.SecretScheme) (state : ServerState) (request : Http.Request) :
    Outcome :=
  let (existed, accounts, events) := state.accounts.logout scheme (requestToken request)
  let message :=
    if existed then "session popped; user was logged out"
    else "token does not exist, so user has no session"
  ⟨.json 200 (note "message" message), state.withAccounts accounts, events⟩

/-- Adds a user. -/
def createUser (scheme : Account.SecretScheme) (draws : Account.Draws) (state : ServerState)
    (registration : Account.Registration) : Outcome :=
  match state.accounts.createUser scheme draws registration with
  | .error error => .refuse state (.account error)
  | .ok (user, accounts, events) =>
    ⟨.json 201 (note "username" user.username), state.withAccounts accounts, events⟩

/-- Lists a collection as the query asks. -/
def list (engine : PatternEngine) (state : ServerState) (shelf : Shelf)
    (request : Http.Request) : Outcome :=
  match Listing.ListRequest.ofParameters request.target.parameters.entries
      state.settings.pageLimits with
  | .error error => .refuse state (.list error)
  | .ok listRequest =>
    let (answer, searches, event) :=
      state.records.list engine state.searches shelf.name listRequest
    let next : ServerState := { state with searches := searches }
    match answer with
    | .error error => ⟨(RequestError.list error).response, next, [event]⟩
    | .ok page => ⟨.json 200 page.toJson, next, [event]⟩

/-- Adds a record to a collection; `taken` words the refusal of a key that is taken. -/
def addRecord (state : ServerState) (shelf : Shelf) (record : Json)
    (taken : String → RequestError) (answer : Http.Response) : Outcome :=
  match state.records.insert shelf.name record with
  | .error (.duplicateKey _ key) => .refuse state (taken key)
  | .error error => .refuse state (.storage error)
  | .ok (_, records) => ⟨answer, state.withRecords records, []⟩

/-- Adds an environment. -/
def createEnvironment (draws : Account.Draws) (state : ServerState)
    (form : Deployment.EnvironmentForm) : Outcome :=
  addRecord state .environments (form.record draws.now)
    (fun key => .unprocessable ("Environment with name '" ++ key ++ "' already exists"))
    (.json 200 (note "msg" "Environment created"))

/-- Adds a webhook under a new identifier. -/
def createWebhook (draws : Account.Draws) (state : ServerState)
    (form : Deployment.WebhookForm) : Outcome :=
  let identifier := Text.identifier draws.identifier
  addRecord state .webhooks (form.record identifier draws.now)
    (fun key => .storage (.duplicateKey Shelf.webhooks.name key))
    (.json 200 (Json.ofMembers
      [("msg", .string "Webhook created"), ("id", .string identifier)]))

/-- Adds a service. -/
def createService (draws : Account.Draws) (state : ServerState)
    (form : Deployment.ServiceForm) : Outcome :=
  match form.validate with
  | .error fault => .refuse state (.unprocessable fault.message)
  | .ok () =>
    addRecord state .services (form.record draws.now)
      (fun key => .unprocessable ("Service '" ++ key ++ "' already exists"))
      (.json 201 (note "msg" "Service created"))

/-- Shows the record of a key. -/
def showRecord (state : ServerState) (shelf : Shelf) (kind key : String) : Outcome :=
  match state.records.get shelf.name key with
  | .error error => .refuse state (.storage error)
  | .ok none => .refuse state (.notFound (kind ++ " '" ++ key ++ "' not found"))
  | .ok (some record) => .answer state 200 record

/-- Removes a webhook. -/
def deleteWebhook (state : ServerState) (key : String) : Outcome :=
  match state.records.delete Shelf.webhooks.name key with
  | .error error => .refuse state (.storage error)
  | .ok (none, _) => .refuse state (.notFound ("Webhook '" ++ key ++ "' not found"))
  | .ok (some _, records) =>
    ⟨.json 200 (note "msg" "Webhook deleted"), state.withRecords records, []⟩

/-- The name of the document that holds the pattern of image names. -/
def globDocument : String := "glob"

/-- The overview of a service over tasks, with the pattern of image names. -/
def overview (engine : PatternEngine) (service : Json) (tasks : List Json) (glob : String) :
    Except RequestError Json :=
  match Deployment.overview engine service tasks glob with
  | .ok value => .ok value
  | .error reason => .error (.unprocessable ("Invalid image glob: " ++ reason))

/-- What a store answers, with its failures as refusals of the request. -/
def stored {α : Type} (result : Except Listing.StorageError α) : Except RequestError α :=
  match result with
  | .ok value => .ok value
  | .error error => .error (.storage error)

/-- The overview of the service of a name. -/
def serviceOverview (engine : PatternEngine) (state : ServerState) (name : String) :
    Except RequestError Json := do
  match ← stored (state.records.get Shelf.services.name name) with
  | none => throw (.notFound "Service is not configured")
  | some service =>
    let document ← stored (state.records.get Shelf.documents.name globDocument)
    let glob := (document.bind fun found => Deployment.textOf? found "document").getD
      Deployment.standardGlob
    let tasks ← stored (state.records.scan Shelf.tasks.name fun _ => true)
    overview engine service tasks glob

/-- Shows a service. -/
def showService (engine : PatternEngine) (state : ServerState) (name : String) : Outcome :=
  match serviceOverview engine state name with
  | .error error => .refuse state error
  | .ok value => .answer state 200 value

/-- Whether a document may be edited as plain text. -/
def isPlaintextEditable (document : Json) : Bool :=
  document.get? "plaintext-editable" == some (.bool true)

/-- Lists the documents that may be edited as plain text. -/
def listDocuments (state : ServerState) : Outcome :=
  match state.records.scan Shelf.documents.name isPlaintextEditable with
  | .error error => .refuse state (.storage error)
  | .ok documents => .answer state 200 (.array documents)

/-- Stores a document under its name. -/
def saveDocument (state : ServerState) (document : Json) : Outcome :=
  match Deployment.textOf? document "name" with
  | none => .refuse state (.unprocessable "Document needs a name")
  | some _ =>
    match state.records.upsert Shelf.documents.name document with
    | .error error => .refuse state (.storage error)
    | .ok (_, records) =>
      ⟨.json 201 (note "message" "Successfully save document"), state.withRecords records, []⟩

/-- Does what an endpoint is for. -/
def perform (scheme : Account.SecretScheme) (engine : PatternEngine) (draws : Account.Draws)
    (state : ServerState) (resource : Resource) (request : Http.Request)
    (user : Option Account.User) : Action → Outcome
  | .showHealth =>
    .answer state 200
      (Json.ofMembers [("status", .string "UP"), ("version", .string version)])
  | .login => withBody state request (login scheme draws state)
  | .checkToken =>
    match user with
    | some known => .answer state 200 (note "username" known.username)
    | none => .refuse state (.account .sessionInvalid)
  | .logout => logout scheme state request
  | .createUser =>
    withForm state request Account.Registration.ofDocument? (createUser scheme draws state)
  | .list shelf => list engine state shelf request
  | .createEnvironment =>
    withForm state request Deployment.EnvironmentForm.ofDocument? (createEnvironment draws state)
  | .createWebhook =>
    withForm state request Deployment.WebhookForm.ofDocument? (createWebhook draws state)
  | .showWebhook => withParameter state resource (showRecord state .webhooks "Webhook")
  | .deleteWebhook => withParameter state resource (deleteWebhook state)
  | .createService =>
    withForm state request Deployment.ServiceForm.ofDocument? (createService draws state)
  | .showService => withParameter state resource (showService engine state)
  | .listDocuments => listDocuments state
  | .saveDocument => withForm state request Json.Document.value? (saveDocument state)
  | .showDocument => withParameter state resource (showRecord state .documents "Document")

end Dashboard.Server
