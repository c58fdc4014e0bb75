import Dashboard.Table
import Dashboard.Text.Ascii
import Dashboard.Text.Split
import Dashboard.Text.Utf8

/-!
# Addresses

The address of a request names a path and a query. Octets of both may be written as
a percent sign and two digits; a query also writes a blank as a plus sign.
-/

namespace Dashboard.Http

/-- The octets that characters stand for, of which a percent sign and two hexadecimal
digits stand for one; any other percent sign stands for itself. -/
def percentDecode : List Char → List UInt8
  | [] => []
  | '%' :: high :: low :: rest =>
    match Text.hexDigitValue? high, Text.hexDigitValue? low with
    | some upper, some lower => UInt8.ofNat (upper * 16 + lower) :: percentDecode rest
    | _, _ => 0x25 :: percentDecode (high :: low :: rest)
  | character :: rest => Text.Utf8.encodeChar character ++ percentDecode rest

/-- What an address asks for: the path as it is written, and the query as it is
written, empty when there is none. -/
structure Target where
  path : List Char
  query : List Char
  deriving DecidableEq, Repr

namespace Target

/-- The target of an address. What follows a number sign is no part of it. -/
def ofText (text : String) : Target :=
  let (address, _) := Text.cutAt '#' text.toList
  let (path, query) := Text.cutAt '?' address
  ⟨path, query.getD []⟩

/-- The segments of the path as they are written: what stands behind each slash. -/
def segments (target : Target) : Option (List String) :=
  match Text.pieces '/' target.path with
  | [] :: rest => some (rest.map String.ofList)
  | _ => none

/-- The text of a name or a value in a query; octets that are no text are replaced. -/
def queryText (characters : List Char) : String :=
  let blanked := characters.map fun character => if character = '+' then ' ' else character
  String.ofList (Text.Utf8.repair (percentDecode blanked))

/-- The name and the value of a piece of a query. -/
def queryPair (piece : List Char) : String × String :=
  let (name, value) := Text.cutAt '=' piece
  (queryText name, queryText (value.getD []))

/-- The parameters of the query; of a repeated name the last value counts. -/
def parameters (target : Target) : Table String :=
  ((Text.pieces '&' target.query).filter fun piece => !piece.isEmpty).foldl
    (fun table piece =>
      let (name, value) := queryPair piece
      table.insert name value) .empty

end Target

/-- The text of a segment of a path, when its octets are one. -/
def segmentText? (segment : String) : Option String :=
  Text.Utf8.toString? (percentDecode segment.toList)

end Dashboard.Http
