import Dashboard.Json.Token

/-!
# JSON documents as written

A document keeps what a value drops: the order of members, repeated keys, and
leaves that no value corresponds to (strings without a text, numbers out of
range). `Document.value?` reads a document as a value, in which the last of
several members with one key counts. Typed readers look at the document itself,
since they refuse a repeated key and skip the members that they do not know.
-/

namespace Dashboard.Json

/-- A JSON text as a tree. -/
inductive Document where
  | null
  | bool (value : Bool)
  | number (value : Option JsonNumber)
  | string (text : Option String)
  | array (items : List Document)
  | object (members : List (Option String × Document))
  deriving Repr, Inhabited

namespace Document

/-- An array or object that is still open: what it holds so far, last first, and
for an object the key whose value is being read. -/
inductive Frame where
  | array (reversed : List Document)
  | object (reversed : List (Option String × Document)) (key : Option String)

/-- What may follow. -/
inductive Expecting where
  | value
  | itemOrClose
  | keyOrClose
  | key (reversed : List (Option String × Document))
  | colon (reversed : List (Option String × Document)) (key : Option String)
  | separator (finished : Document)

/-- A value of one token. -/
def ofToken? : Token → Option Document
  | .null => some .null
  | .bool value => some (.bool value)
  | .number literal => some (.number literal.value?)
  | .string text => some (.string text)
  | _ => none

/-- A token where a value must start. -/
def beginValue (frames : List Frame) (token : Token) : Option (Expecting × List Frame) :=
  match token with
  | .openArray => some (.itemOrClose, frames)
  | .openObject => some (.keyOrClose, frames)
  | _ => (ofToken? token).map fun document => (.separator document, frames)

/-- One token of a document. -/
def step (expecting : Expecting) (frames : List Frame) (token : Token) :
    Option (Expecting × List Frame) :=
  match expecting, token with
  | .value, _ => beginValue frames token
  | .itemOrClose, .closeArray => some (.separator (.array []), frames)
  | .itemOrClose, _ => beginValue (.array [] :: frames) token
  | .keyOrClose, .closeObject => some (.separator (.object []), frames)
  | .keyOrClose, .string key => some (.colon [] key, frames)
  | .key reversed, .string key => some (.colon reversed key, frames)
  | .colon reversed key, .colon => some (.value, .object reversed key :: frames)
  | .separator finished, .comma =>
    match frames with
    | .array reversed :: outer => some (.value, .array (finished :: reversed) :: outer)
    | .object reversed key :: outer => some (.key ((key, finished) :: reversed), outer)
    | [] => none
  | .separator finished, .closeArray =>
    match frames with
    | .array reversed :: outer =>
      some (.separator (.array (finished :: reversed).reverse), outer)
    | _ => none
  | .separator finished, .closeObject =>
    match frames with
    | .object reversed key :: outer =>
      some (.separator (.object ((key, finished) :: reversed).reverse), outer)
    | _ => none
  | _, _ => none

/-- Reads tokens to the end; what is left over must be one finished value. -/
def build : Expecting → List Frame → List Token → Option Document
  | .separator finished, [], [] => some finished
  | _, _, [] => none
  | expecting, frames, token :: rest =>
    match step expecting frames token with
    | none => none
    | some (next, nextFrames) => build next nextFrames rest

/-- The document of a JSON text, when the octets are one. -/
def ofOctets? (octets : List UInt8) : Option Document :=
  (Token.ofOctets? octets).bind fun tokens => build .value [] tokens

/-- The deepest nesting of arrays and objects that a value may have. -/
def maxDepth : Nat := 127

mutual

/-- The value of a document whose nesting is at most `depth`. -/
def valueWithin (depth : Nat) : Document → Option Json
  | .null => some .null
  | .bool value => some (.bool value)
  | .number value => value.map .number
  | .string text => text.map .string
  | .array items =>
    if depth = 0 then none else (valuesWithin (depth - 1) items).map .array
  | .object members =>
    if depth = 0 then none else (membersWithin (depth - 1) members).map Json.ofMembers

/-- The values of the items of an array. -/
def valuesWithin (depth : Nat) : List Document → Option (List Json)
  | [] => some []
  | item :: rest => do
    let value ← valueWithin depth item
    let values ← valuesWithin depth rest
    return value :: values

/-- The members of an object, in the order of the text. -/
def membersWithin (depth : Nat) :
    List (Option String × Document) → Option (List (String × Json))
  | [] => some []
  | (key, item) :: rest => do
    let name ← key
    let value ← valueWithin depth item
    let members ← membersWithin depth rest
    return (name, value) :: members

end

/-- The value that a document denotes. -/
def value? (document : Document) : Option Json := valueWithin maxDepth document

mutual

/-- The document of a value: its text read back, without reading it. -/
def ofValue : Json → Document
  | .null => .null
  | .bool value => .bool value
  | .number value => .number (some value)
  | .string text => .string (some text)
  | .array items => .array (ofValues items)
  | .object members => .object (ofMembers members)

/-- The documents of the items of an array. -/
def ofValues : List Json → List Document
  | [] => []
  | item :: rest => ofValue item :: ofValues rest

/-- The documents of the members of an object. -/
def ofMembers : List (String × Json) → List (Option String × Document)
  | [] => []
  | (key, value) :: rest => (some key, ofValue value) :: ofMembers rest

end

end Document

/-- The value of a JSON text given by its octets. -/
def ofOctets? (octets : List UInt8) : Option Json :=
  (Document.ofOctets? octets).bind Document.value?

/-- The value of a JSON text. -/
def parse? (text : String) : Option Json :=
  ofOctets? (Text.Utf8.ofString text)

end Dashboard.Json
