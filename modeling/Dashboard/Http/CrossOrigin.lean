import Dashboard.Http.Message

/-!
# Requests from other origins

A page of another origin may read an answer when the answer names its origin, or
every origin. A request for the options alone is answered at once with what is
allowed, whatever it asks for.
-/

namespace Dashboard.Http

/-- The origins whose pages may read answers. -/
inductive OriginPolicy where
  | anyOrigin
  | listed (origins : List String)
  deriving DecidableEq, Repr

namespace OriginPolicy

/-- A character that a header may hold. -/
def isHeaderChar (character : Char) : Bool :=
  character == '\t' || (' ' ≤ character && character.toNat != 0x7F)

/-- The policy of a list of origins: without one every origin may read, and those that
no header can hold are passed over. -/
def ofOrigins (origins : List String) : OriginPolicy :=
  if origins.isEmpty then anyOrigin
  else listed (origins.filter fun origin => origin.toList.all isHeaderChar)

/-- The headers of every answer to a request. -/
def headers (policy : OriginPolicy) (request : Request) : List (String × String) :=
  match policy with
  | anyOrigin => [("access-control-allow-origin", "*")]
  | listed origins =>
    match request.header? "origin" with
    | some origin =>
      if origins.contains origin then [("access-control-allow-origin", origin)] else []
    | none => []

/-- The answer to a request for the options alone. -/
def optionsResponse (policy : OriginPolicy) (request : Request) : Response :=
  (Response.bare 200).withHeaders (policy.headers request ++
    [("access-control-allow-methods", "*"), ("access-control-allow-headers", "*")])

end OriginPolicy

end Dashboard.Http
