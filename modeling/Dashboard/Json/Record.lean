import Dashboard.Json.Document

/-!
# Records with known fields

A record is read from an object or, field after field, from an array. A known
field may not be repeated, and unknown members are passed over whatever they
hold. A reader of a field sees the document, so that it refuses what the field
cannot hold.
-/

namespace Dashboard.Json

/-- A field of a record: its name, and whether an array may end before it. -/
structure FieldSpec where
  name : String
  optionalInArray : Bool
  deriving DecidableEq, Repr

/-- The fields that a document gives a record, by name. -/
abbrev FieldDocuments := List (String × Document)

namespace FieldDocuments

/-- The document of a field. -/
def get? (fields : FieldDocuments) (name : String) : Option Document :=
  (fields.find? fun field => field.1 == name).map Prod.snd

/-- The known members of an object; `none` when a known one is repeated or the name
of some member is no text. -/
def ofMembers? (known : List String) :
    FieldDocuments → List (Option String × Document) → Option FieldDocuments
  | found, [] => some found.reverse
  | _, (none, _) :: _ => none
  | found, (some name, document) :: rest =>
    if known.contains name then
      if (get? found name).isSome then none
      else ofMembers? known ((name, document) :: found) rest
    else ofMembers? known found rest

/-- The items of an array as the fields in their order. -/
def ofItems? : List FieldSpec → List Document → Option FieldDocuments
  | [], [] => some []
  | [], _ :: _ => none
  | specs, [] => if specs.all FieldSpec.optionalInArray then some [] else none
  | spec :: specs, item :: items =>
    (ofItems? specs items).map fun fields => (spec.name, item) :: fields

/-- The fields of a record in a document. -/
def ofDocument? (specs : List FieldSpec) : Document → Option FieldDocuments
  | .object members => ofMembers? (specs.map FieldSpec.name) [] members
  | .array items => ofItems? specs items
  | _ => none

end FieldDocuments

namespace Document

/-- The text of a string. -/
def text? : Document → Option String
  | .string text => text
  | _ => none

/-- The truth value of a boolean. -/
def flag? : Document → Option Bool
  | .bool value => some value
  | _ => none

/-- The natural number below a bound. -/
def natBelow? (bound : Nat) : Document → Option Nat
  | .number (some (.int value)) =>
    if 0 ≤ value ∧ value < bound then some value.toNat else none
  | _ => none

/-- The integer within 64 bits with a sign. -/
def integer64? : Document → Option Int
  | .number (some (.int value)) =>
    if -9223372036854775808 ≤ value ∧ value < 9223372036854775808 then some value else none
  | _ => none

/-- The value of a field of a record, which is one level of nesting below it. -/
def fieldValue? (document : Document) : Option Json :=
  valueWithin (maxDepth - 1) document

/-- The texts of an array of strings. -/
def texts? : Document → Option (List String)
  | .array items => items.mapM text?
  | _ => none

/-- A field that a null leaves empty. -/
def nullable? {α : Type} (read : Document → Option α) : Document → Option (Option α)
  | .null => some none
  | document => (read document).map some

end Document

/-- Reads a field that must be there. -/
def FieldDocuments.required? {α : Type} (fields : FieldDocuments) (name : String)
    (read : Document → Option α) : Option α :=
  (fields.get? name).bind read

/-- Reads a field that has a value of its own when it is missing. -/
def FieldDocuments.orElse? {α : Type} (fields : FieldDocuments) (name : String)
    (missing : α) (read : Document → Option α) : Option α :=
  match fields.get? name with
  | none => some missing
  | some document => read document

end Dashboard.Json
