import Dashboard.Http.Message
import Dashboard.Permission.Expression
import Dashboard.Server.State

/-!
# Routes

Which resource a path names, what each method does there, and who may do it. A
method that a resource does not know is refused only after the protection of the
last of its endpoints.
-/

namespace Dashboard.Server

/-- What a path names. -/
inductive Resource where
  | health
  | login
  | tokenCheck
  | logout
  | userCreation
  | tasks
  | environments
  | webhooks
  /-- A webhook, with its identifier as it is written in the path. -/
  | webhook (segment : String)
  | services
  | service (segment : String)
  | documents
  | document (segment : String)
  deriving DecidableEq, Repr

/-- The resource of the segments of a path. -/
def Resource.ofSegments? : List String → Option Resource
  | ["health"] => some health
  | ["api", "v1", "auth"] => some login
  | ["api", "v1", "verify-token"] => some tokenCheck
  | ["api", "v1", "logout"] => some logout
  | ["api", "v1", "usercreate"] => some userCreation
  | ["api", "v1", "tasks"] => some tasks
  | ["api", "v1", "environments"] => some environments
  | ["api", "v1", "webhooks"] => some webhooks
  | ["api", "v1", "services"] => some services
  | ["api", "v1", "documents"] => some documents
  | ["api", "v1", kind, segment] =>
    if segment.isEmpty then none
    else match kind with
      | "webhooks" => some (webhook segment)
      | "service" => some (service segment)
      | "document" => some (document segment)
      | _ => none
  | _ => none

/-- The parameter of a path: its name, and its segment as it is written. -/
def Resource.parameter? : Resource → Option (String × String)
  | webhook segment => some ("id", segment)
  | service segment => some ("name", segment)
  | document segment => some ("name", segment)
  | _ => none

/-- What an endpoint does. -/
inductive Action where
  | showHealth
  | login
  | checkToken
  | logout
  | createUser
  | list (shelf : Shelf)
  | createEnvironment
  | createWebhook
  | showWebhook
  | deleteWebhook
  | createService
  | showService
  | listDocuments
  | saveDocument
  | showDocument
  deriving DecidableEq, Repr

/-- What an endpoint asks of a request. -/
inductive Protection where
  | unprotected
  | session
  /-- A session whose user holds the capabilities. -/
  | capability (expression : Permission.Expression)

/-- The path `cion.user.create`. -/
def userCreationPath : Permission.Path :=
  ⟨"cion.user.create", [.literal "cion", .literal "user", .literal "create"]⟩

/-- The path `cion.config.edit`. -/
def configEditPath : Permission.Path :=
  ⟨"cion.config.edit", [.literal "cion", .literal "config", .literal "edit"]⟩

/-- The path `cion.environment.$environments.service`. -/
def environmentServicePath : Permission.Path :=
  ⟨"cion.environment.$environments.service",
    [.literal "cion", .literal "environment", .placeholder "environments",
      .literal "service"]⟩

/-- The path of the right to create users is read as its segments. -/
theorem parse_userCreationPath :
    Permission.Path.parse "cion.user.create" = .ok userCreationPath := rfl

/-- The path of the right to edit the configuration is read as its segments. -/
theorem parse_configEditPath :
    Permission.Path.parse "cion.config.edit" = .ok configEditPath := rfl

/-- The path of the right to services is read with the environments as its placeholder. -/
theorem parse_environmentServicePath :
    Permission.Path.parse "cion.environment.$environments.service" =
      .ok environmentServicePath := rfl

/-- The capability to add users. -/
def userCreation : Permission.Expression := .path userCreationPath none

/-- The capability to change the configuration. -/
def configEdit : Permission.Expression := .path configEditPath none

/-- The capability to add a service: to change the configuration, or to deploy services to
every environment that the body names. -/
def serviceCreation : Permission.Expression :=
  .or configEdit
    (.path environmentServicePath
      (some (Permission.Resolver.bodyFields [("environments", "environments")])))

/-- What a method does at a resource, and who may do it. -/
structure Endpoint where
  method : Http.Method
  action : Action
  protection : Protection

/-- The endpoints of a resource in their order. -/
def Resource.endpoints : Resource → List Endpoint
  | health => [⟨.get, .showHealth, .unprotected⟩]
  | login => [⟨.post, .login, .unprotected⟩]
  | tokenCheck => [⟨.get, .checkToken, .session⟩]
  | logout => [⟨.post, .logout, .unprotected⟩]
  | userCreation => [⟨.post, .createUser, .capability Server.userCreation⟩]
  | tasks => [⟨.get, .list .tasks, .session⟩]
  | environments =>
    [⟨.get, .list .environments, .session⟩, ⟨.post, .createEnvironment, .capability configEdit⟩]
  | webhooks =>
    [⟨.get, .list .webhooks, .session⟩, ⟨.post, .createWebhook, .capability configEdit⟩]
  | webhook _ =>
    [⟨.get, .showWebhook, .session⟩, ⟨.delete, .deleteWebhook, .capability configEdit⟩]
  | services =>
    [⟨.get, .list .services, .session⟩, ⟨.post, .createService, .capability serviceCreation⟩]
  | service _ => [⟨.get, .showService, .session⟩]
  | documents => [⟨.get, .listDocuments, .session⟩, ⟨.post, .saveDocument, .session⟩]
  | document _ => [⟨.get, .showDocument, .session⟩]

/-- Whether an endpoint answers a method; one that gets also answers for the head. -/
def Endpoint.answers (endpoint : Endpoint) (method : Http.Method) : Bool :=
  endpoint.method == method || (endpoint.method == .get && method == .head)

/-- The endpoint of a resource for a method. -/
def Resource.endpoint? (resource : Resource) (method : Http.Method) : Option Endpoint :=
  resource.endpoints.find? fun endpoint => endpoint.answers method

/-- The methods of a resource, as an answer lists them. -/
def Resource.allowed (resource : Resource) : String :=
  String.intercalate "," (resource.endpoints.flatMap fun endpoint =>
    if endpoint.method == .get then ["GET", "HEAD"] else [endpoint.method.name])

/-- What a resource asks of a request with a method that it does not know. -/
def Resource.fallbackProtection (resource : Resource) : Protection :=
  match resource.endpoints.getLast? with
  | some endpoint => endpoint.protection
  | none => .unprotected

end Dashboard.Server
