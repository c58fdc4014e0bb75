import Dashboard.Http.CrossOrigin
import Dashboard.Server.Handler

/-!
# Answering requests

A request is brought to the endpoint of its path and method, guarded, and performed.
Every answer tells which origins may read it, and a request for the options alone goes
no further than that.
-/

namespace Dashboard.Server

/-- The resource that a request names. -/
def resourceOf? (request : Http.Request) : Option Resource :=
  request.target.segments.bind Resource.ofSegments?

/-- The header that lists the methods of a resource. -/
def allowHeader (resource : Resource) : String × String := ("allow", resource.allowed)

/-- Brings a request to an endpoint. -/
def runEndpoint (scheme : Account.SecretScheme) (engine : PatternEngine) (draws : Account.Draws)
    (state : ServerState) (resource : Resource) (request : Http.Request) (endpoint : Endpoint) :
    Outcome :=
  match authorize scheme state resource request endpoint.protection with
  | (.error error, events) => ⟨error.response, state, events⟩
  | (.ok user, events) =>
    let outcome := perform scheme engine draws state resource request user endpoint.action
    { outcome with events := events ++ outcome.events }

/-- Refuses a method that a resource does not know. -/
def refuseMethod (scheme : Account.SecretScheme) (state : ServerState) (resource : Resource)
    (request : Http.Request) : Outcome :=
  match authorize scheme state resource request resource.fallbackProtection with
  | (.error error, events) => ⟨error.response.withHeaders [allowHeader resource], state, events⟩
  | (.ok _, events) => ⟨(Http.Response.bare 405).withHeaders [allowHeader resource], state, events⟩

/-- Brings a request to the resource that it names. -/
def route (scheme : Account.SecretScheme) (engine : PatternEngine) (draws : Account.Draws)
    (state : ServerState) (request : Http.Request) : Outcome :=
  match resourceOf? request with
  | none => ⟨.bare 404, state, []⟩
  | some resource =>
    match resource.endpoint? request.method with
    | some endpoint => runEndpoint scheme engine draws state resource request endpoint
    | none => refuseMethod scheme state resource request

/-- The answer to a request for the options alone. -/
def respondOptions (state : ServerState) (policy : Http.OriginPolicy) (request : Http.Request) :
    Outcome :=
  let response := policy.optionsResponse request
  match resourceOf? request with
  | none => ⟨response, state, []⟩
  | some resource => ⟨response.withHeaders [allowHeader resource], state, []⟩

/-- Answers a request. -/
def respond (scheme : Account.SecretScheme) (engine : PatternEngine) (draws : Account.Draws)
    (state : ServerState) (request : Http.Request) : Outcome :=
  let policy := Http.OriginPolicy.ofOrigins state.settings.corsOrigins
  if request.method = .options then respondOptions state policy request
  else
    let outcome := route scheme engine draws state request
    let told := outcome.response.withHeaders (policy.headers request)
    { outcome with
      response := if request.method = .head then told.withoutContent else told }

end Dashboard.Server
