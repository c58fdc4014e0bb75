import Dashboard.Text.Hexadecimal

/-!
# Identifiers

Sixteen octets as an identifier: digits in five groups, with the marks of an
identifier that was drawn by chance.
-/

namespace Dashboard.Text

/-- The octet at a place with the mark of that place: a four in the upper half of the
seventh octet, and the bits one and zero on top of the ninth. -/
def markedOctet (place : Nat) (octet : UInt8) : UInt8 :=
  match place with
  | 6 => (octet &&& 0x0F) ||| 0x40
  | 8 => (octet &&& 0x3F) ||| 0x80
  | _ => octet

/-- The identifier of sixteen octets. -/
def identifier (octets : List UInt8) : String :=
  let marked := octets.zipIdx.map fun (octet, place) => markedOctet place octet
  let group (start count : Nat) : String :=
    String.ofList (Hexadecimal.encode ((marked.drop start).take count))
  String.intercalate "-" [group 0 4, group 4 2, group 6 2, group 8 2, group 10 6]

end Dashboard.Text
