import Dashboard.Account.Error
import Dashboard.Http.Message
import Dashboard.Listing.Error
import Dashboard.Permission.Error

/-!
# Refused requests

Every failure of a request is answered with its message and its code; a refusal for
want of capabilities also lists them.
-/

namespace Dashboard.Server

/-- Why a request is refused. -/
inductive RequestError where
  | account (cause : Account.AccountError)
  | list (cause : Listing.ListError)
  | permission (cause : Permission.PermissionError)
  | storage (cause : Listing.StorageError)
  | badRequest (reason : String)
  | unprocessable (reason : String)
  | notFound (reason : String)
  | payloadTooLarge (reason : String)
  deriving DecidableEq, Repr

namespace RequestError

/-- What a refusal says to a user. -/
def message : RequestError → String
  | account cause => cause.message
  | list cause => cause.message
  | permission cause => cause.message
  | storage cause => cause.message
  | badRequest reason => reason
  | unprocessable reason => reason
  | notFound reason => reason
  | payloadTooLarge reason => reason

/-- The status code of a refusal. -/
def status : RequestError → Nat
  | account cause => cause.status
  | list cause => cause.status
  | permission cause => cause.status
  | storage (.collectionNotFound _) => 404
  | storage (.duplicateKey _ _) => 422
  | storage (.invalidRecord _) => 422
  | storage (.unsortableField _) => 400
  | storage (.unavailable _) => 500
  | badRequest _ => 400
  | unprocessable _ => 422
  | notFound _ => 404
  | payloadTooLarge _ => 413

/-- The missing capabilities that a refusal lists. -/
def missing? : RequestError → Option (List String)
  | account (.forbidden missing) => some missing
  | _ => none

/-- The content of the answer. -/
def toJson (error : RequestError) : Json :=
  let shown := [("error", Json.string error.message), ("code", .ofNat error.status)]
  Json.ofMembers (match error.missing? with
    | some missing => shown ++ [("missing", .ofStrings missing)]
    | none => shown)

/-- The answer to a refused request. -/
def response (error : RequestError) : Http.Response :=
  Http.Response.json error.status error.toJson

end RequestError

end Dashboard.Server
