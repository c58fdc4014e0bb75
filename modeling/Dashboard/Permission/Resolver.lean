import Dashboard.Json.Document
import Dashboard.Permission.Path

/-!
# Values of placeholders

A resolver obtains the values of placeholders from a request: from fixed values,
from the fields of a JSON body, or from parameters. A field or parameter that is
missing leaves its placeholder unbound, which the check treats as a denial.
-/

namespace Dashboard.Permission

/-- What a check may draw values from: the body, and the parameters of the path and
the query, each name once. -/
structure RequestContext where
  body : List UInt8
  parameters : List (String × String)

namespace RequestContext

/-- The context without body and parameters. -/
def empty : RequestContext := ⟨[], []⟩

/-- The value of a parameter. -/
def parameter? (context : RequestContext) (name : String) : Option String :=
  (context.parameters.find? fun parameter => parameter.1 == name).map Prod.snd

/-- Whether an octet is an ASCII blank. -/
def isAsciiBlank (octet : UInt8) : Bool :=
  octet == 0x20 || octet == 0x09 || octet == 0x0A || octet == 0x0C || octet == 0x0D

/-- The body as a JSON value. A blank body reads as the empty object. -/
def jsonBody (context : RequestContext) : Except PermissionError Json :=
  if context.body.all isAsciiBlank then .ok (.object [])
  else match Json.ofOctets? context.body with
    | some value => .ok value
    | none => .error (.unresolved "request body is not valid JSON: malformed text")

end RequestContext

/-- A way to obtain the values of placeholders. -/
abbrev Resolver := RequestContext → Except PermissionError Placeholders

/-- Binds placeholders to the values that are there; the last binding of a name counts. -/
def bindAll (bindings : List (String × String)) (value? : String → Option Json) :
    Placeholders :=
  bindings.foldl (fun values binding =>
    match value? binding.2 with
    | some value => Json.insertMember binding.1 value values
    | none => values) []

namespace Resolver

/-- Fixed values. -/
def fixed (values : Placeholders) : Resolver := fun _ => .ok values

/-- Fixed values given as a JSON object; any other value is refused. -/
def ofJson : Json → Except PermissionError Placeholders
  | .object members => .ok members
  | other =>
    .error (.unresolved
      ("placeholder values must be a JSON object, got " ++ other.render))

/-- Binds placeholders to fields of a JSON body. -/
def bodyFields (bindings : List (String × String)) : Resolver := fun context =>
  match context.jsonBody with
  | .error error => .error error
  | .ok (.object members) => .ok (bindAll bindings fun field => Json.lookup field members)
  | .ok _ => .error (.unresolved "request body must be a JSON object")

/-- Binds placeholders to parameters. -/
def parameters (bindings : List (String × String)) : Resolver := fun context =>
  .ok (bindAll bindings fun name => (context.parameter? name).map .string)

end Resolver

end Dashboard.Permission
