import Dashboard.Http.Address
import Dashboard.Json.Basic

/-!
# Messages

Requests and responses. A response to a request for the head alone has the headers of
the whole answer and no content.
-/

namespace Dashboard.Http

/-- The method of a request. -/
inductive Method where
  | get
  | head
  | post
  | put
  | patch
  | delete
  | options
  | other (name : String)
  deriving DecidableEq, Repr

namespace Method

/-- The method of a name. -/
def ofName (name : String) : Method :=
  match name with
  | "GET" => get
  | "HEAD" => head
  | "POST" => post
  | "PUT" => put
  | "PATCH" => patch
  | "DELETE" => delete
  | "OPTIONS" => options
  | _ => other name

/-- The name of a method. -/
def name : Method → String
  | get => "GET"
  | head => "HEAD"
  | post => "POST"
  | put => "PUT"
  | patch => "PATCH"
  | delete => "DELETE"
  | options => "OPTIONS"
  | other name => name

end Method

/-- A request. -/
structure Request where
  method : Method
  target : Target
  headers : List (String × String)
  body : List UInt8
  deriving DecidableEq, Repr

namespace Request

/-- The first value of a header; names are the same in either case. -/
def header? (request : Request) (name : String) : Option String :=
  (request.headers.find? fun header =>
    Text.equalIgnoringAsciiCase header.1.toList name.toList).map Prod.snd

/-- The path as it is written. -/
def path (request : Request) : String := String.ofList request.target.path

end Request

/-- The content of a response. -/
inductive Content where
  | empty
  | json (value : Json)
  | text (value : String)
  deriving DecidableEq

/-- The type of a content, for the header that names it. -/
def Content.type? : Content → Option String
  | .empty => none
  | .json _ => some "application/json"
  | .text _ => some "text/plain; charset=utf-8"

/-- A response. -/
structure Response where
  status : Nat
  headers : List (String × String)
  content : Content
  deriving DecidableEq

namespace Response

/-- A response with the header of its content. -/
def ofContent (status : Nat) (content : Content) : Response :=
  ⟨status, match content.type? with
    | some type => [("content-type", type)]
    | none => [], content⟩

/-- A response without content. -/
def bare (status : Nat) : Response := ofContent status .empty

/-- A response with a JSON value. -/
def json (status : Nat) (value : Json) : Response := ofContent status (.json value)

/-- A response with a plain text. -/
def text (status : Nat) (value : String) : Response := ofContent status (.text value)

/-- The response with more headers behind its own. -/
def withHeaders (response : Response) (headers : List (String × String)) : Response :=
  { response with headers := response.headers ++ headers }

/-- The response without its content. -/
def withoutContent (response : Response) : Response :=
  { response with content := .empty }

end Response

end Dashboard.Http
