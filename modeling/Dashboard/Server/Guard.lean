import Dashboard.Permission.Reasons
import Dashboard.Server.Error
import Dashboard.Server.Route

/-!
# The guard of an endpoint

A protected endpoint wants the token of a live session. Where a capability is wanted
too, the body must not be too long, and the permission tree of the session's user
decides; a refusal lists every path that is missing.
-/

namespace Dashboard.Server

/-- The header that holds the token of a session. -/
def tokenHeader : String := "X-CSRF-Token"

/-- A character of a header that counts as text. -/
def isVisibleAscii (character : Char) : Bool :=
  character == '\t' || (' ' ≤ character && character.toNat < 0x7F)

/-- The token of a request; the empty text when there is none. -/
def requestToken (request : Http.Request) : String :=
  match request.header? tokenHeader with
  | some token => if token.toList.all isVisibleAscii then token else ""
  | none => ""

/-- The parameters of the query and of the path, of which those of the path count. -/
def requestParameters (resource : Resource) (request : Http.Request) : List (String × String) :=
  let fromQuery := request.target.parameters
  let joined := match resource.parameter? with
    | some (name, segment) =>
      match Http.segmentText? segment with
      | some value => fromQuery.insert name value
      | none => fromQuery
    | none => fromQuery
  joined.entries

/-- The refusal of a body that is too long. -/
def bodyTooLong (limit : Nat) : RequestError :=
  .payloadTooLarge ("Request body exceeds " ++ toString limit ++ " bytes")

/-- The event of a refusal for want of capabilities. -/
def deniedEvent (missing : List String) (request : Http.Request) (user : Account.User) :
    Log.Event :=
  ⟨.warn, "PERMISSION_DENIED",
    [("missing", String.intercalate "," missing), ("path", request.path),
      ("username", user.username)]⟩

/-- Checks the capabilities of a user. -/
def checkCapability (state : ServerState) (resource : Resource) (request : Http.Request)
    (expression : Permission.Expression) (user : Account.User) :
    Except RequestError Unit × List Log.Event :=
  let limit := state.settings.maxBodyLength
  if limit < request.body.length then (.error (bodyTooLong limit), [])
  else
    let context : Permission.RequestContext :=
      ⟨request.body, requestParameters resource request⟩
    match expression.check Permission.DenialReasons.report user.permissions context .empty with
    | (.error error, _) => (.error (.permission error), [])
    | (.ok true, _) => (.ok (), [])
    | (.ok false, reasons) =>
      let missing := reasons.toList
      (.error (.account (.forbidden missing)), [deniedEvent missing request user])

/-- Lets a request through or refuses it; a request that needs a session is let through
with the user of its session. -/
def authorize (scheme : Account.SecretScheme) (state : ServerState) (resource : Resource)
    (request : Http.Request) :
    Protection → Except RequestError (Option Account.User) × List Log.Event
  | .unprotected => (.ok none, [])
  | .session =>
    match state.accounts.verify scheme (requestToken request) with
    | .error error => (.error (.account error), [])
    | .ok user => (.ok (some user), [])
  | .capability expression =>
    match state.accounts.verify scheme (requestToken request) with
    | .error error => (.error (.account error), [])
    | .ok user =>
      match checkCapability state resource request expression user with
      | (.error error, events) => (.error error, events)
      | (.ok (), events) => (.ok (some user), events)

end Dashboard.Server
