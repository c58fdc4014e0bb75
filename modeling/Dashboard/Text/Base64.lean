/-!
# Base 64

Octets as characters of six bits each, without padding. The alphabet is a
parameter; a reader takes exactly the texts that the writer makes.
-/

namespace Dashboard.Text.Base64

/-- The alphabet with plus and slash. -/
def standardAlphabet : List Char :=
  "ABCDEFGHIJKLMNOPQRSTUVWXYZabcdefghijklmnopqrstuvwxyz0123456789+/".toList

/-- The alphabet that needs no escape in an address. -/
def addressAlphabet : List Char :=
  "ABCDEFGHIJKLMNOPQRSTUVWXYZabcdefghijklmnopqrstuvwxyz0123456789-_".toList

/-- The character of the lowest six bits of a number. -/
def letter (alphabet : List Char) (bits : Nat) : Char :=
  alphabet.getD (bits % 64) 'A'

/-- The letters of a run of octets: four for each three, two for a last one, three
for a last two. -/
def encode (alphabet : List Char) : List UInt8 → List Char
  | [] => []
  | [first] =>
    let bits := first.toNat
    [letter alphabet (bits / 4), letter alphabet (bits * 16)]
  | [first, second] =>
    let bits := first.toNat * 256 + second.toNat
    [letter alphabet (bits / 1024), letter alphabet (bits / 16), letter alphabet (bits * 4)]
  | first :: second :: third :: rest =>
    let bits := (first.toNat * 256 + second.toNat) * 256 + third.toNat
    letter alphabet (bits / 262144) :: letter alphabet (bits / 4096) ::
      letter alphabet (bits / 64) :: letter alphabet bits :: encode alphabet rest

/-- The six bits of a letter. -/
def value? (alphabet : List Char) (character : Char) : Option Nat :=
  alphabet.findIdx? (· == character)

/-- The octets of six-bit values; a last part of one value, and bits left over that
are not zero, are refused. -/
def gather : List Nat → Option (List UInt8)
  | [] => some []
  | [_] => none
  | [first, second] =>
    let bits := first * 64 + second
    if bits % 16 = 0 then some [UInt8.ofNat (bits / 16)] else none
  | [first, second, third] =>
    let bits := (first * 64 + second) * 64 + third
    if bits % 4 = 0 then
      some [UInt8.ofNat (bits / 1024), UInt8.ofNat (bits / 4 % 256)]
    else none
  | first :: second :: third :: fourth :: rest =>
    let bits := ((first * 64 + second) * 64 + third) * 64 + fourth
    (gather rest).map fun octets =>
      UInt8.ofNat (bits / 65536) :: UInt8.ofNat (bits / 256 % 256) ::
        UInt8.ofNat (bits % 256) :: octets

/-- The octets of a run of letters. -/
def decode? (alphabet : List Char) (letters : List Char) : Option (List UInt8) :=
  (letters.mapM (value? alphabet)).bind gather

end Dashboard.Text.Base64
