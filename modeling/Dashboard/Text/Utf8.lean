/-!
# UTF-8

Byte widths and the two directions between characters and octets. Offsets into a
text count octets, so every reader that reports a position measures with
`Utf8.width`.
-/

namespace Dashboard.Text.Utf8

/-- The number of octets of one character. -/
def width (character : Char) : Nat :=
  if character.val < 0x80 then 1
  else if character.val < 0x800 then 2
  else if character.val < 0x10000 then 3
  else 4

/-- The number of octets of a run of characters. -/
def widths (characters : List Char) : Nat :=
  characters.foldl (fun total character => total + width character) 0

/-- A continuation octet carries six bits below the mark `10`. -/
private def continuation (bits : Nat) : UInt8 :=
  UInt8.ofNat (0x80 + bits % 64)

/-- The octets of one character. -/
def encodeChar (character : Char) : List UInt8 :=
  let code := character.toNat
  if code < 0x80 then [UInt8.ofNat code]
  else if code < 0x800 then
    [UInt8.ofNat (0xC0 + code / 64), continuation code]
  else if code < 0x10000 then
    [UInt8.ofNat (0xE0 + code / 4096), continuation (code / 64), continuation code]
  else
    [UInt8.ofNat (0xF0 + code / 262144), continuation (code / 4096),
      continuation (code / 64), continuation code]

/-- The octets of a run of characters. -/
def encode (characters : List Char) : List UInt8 :=
  (characters.foldl (fun reversed character => (encodeChar character).reverse ++ reversed)
    []).reverse

/-- The octets of a string. -/
def ofString (text : String) : List UInt8 :=
  encode text.toList

/-- What a reader of octets still owes: how many continuation octets, the bounds
of the next one, and the bits gathered so far. -/
structure Pending where
  owed : Nat
  low : Nat
  high : Nat
  bits : Nat

/-- The state after the first octet of a character of several octets. The bounds
on the second octet exclude overlong forms, surrogates and codes above U+10FFFF. -/
def leading (octet : Nat) : Option Pending :=
  if octet < 0xC2 then none
  else if octet < 0xE0 then some ⟨1, 0x80, 0xBF, octet - 0xC0⟩
  else if octet = 0xE0 then some ⟨2, 0xA0, 0xBF, 0⟩
  else if octet = 0xED then some ⟨2, 0x80, 0x9F, 0xD⟩
  else if octet < 0xF0 then some ⟨2, 0x80, 0xBF, octet - 0xE0⟩
  else if octet = 0xF0 then some ⟨3, 0x90, 0xBF, 0⟩
  else if octet < 0xF4 then some ⟨3, 0x80, 0xBF, octet - 0xF0⟩
  else if octet = 0xF4 then some ⟨3, 0x80, 0x8F, 4⟩
  else none

/-- Reads octets from the middle of a character, or from between two of them. -/
def decodeFrom : Option Pending → List Char → List UInt8 → Option (List Char)
  | none, reversed, [] => some reversed.reverse
  | some _, _, [] => none
  | none, reversed, octet :: rest =>
    if octet < 0x80 then decodeFrom none (Char.ofNat octet.toNat :: reversed) rest
    else match leading octet.toNat with
      | none => none
      | some pending => decodeFrom (some pending) reversed rest
  | some pending, reversed, octet :: rest =>
    let code := octet.toNat
    if pending.low ≤ code && code ≤ pending.high then
      let bits := pending.bits * 64 + (code - 0x80)
      if pending.owed ≤ 1 then decodeFrom none (Char.ofNat bits :: reversed) rest
      else decodeFrom (some ⟨pending.owed - 1, 0x80, 0xBF, bits⟩) reversed rest
    else none

/-- The characters of a sequence of octets, when it is well formed. -/
def decode? (octets : List UInt8) : Option (List Char) :=
  decodeFrom none [] octets

/-- The string of a sequence of octets, when it is well formed. -/
def toString? (octets : List UInt8) : Option String :=
  (decode? octets).map String.ofList

/-- The character that stands for octets that are none. -/
def replacement : Char := Char.ofNat 0xFFFD

/-- What an octet between two characters yields: characters, and what is owed. -/
def begin (octet : UInt8) : List Char × Option Pending :=
  if octet < 0x80 then ([Char.ofNat octet.toNat], none)
  else match leading octet.toNat with
    | none => ([replacement], none)
    | some pending => ([], some pending)

/-- What the next octet yields: an octet that does not continue a character replaces
what came of it and begins anew. -/
def advance : Option Pending → UInt8 → List Char × Option Pending
  | none, octet => begin octet
  | some pending, octet =>
    let code := octet.toNat
    if pending.low ≤ code && code ≤ pending.high then
      let bits := pending.bits * 64 + (code - 0x80)
      if pending.owed ≤ 1 then ([Char.ofNat bits], none)
      else ([], some ⟨pending.owed - 1, 0x80, 0xBF, bits⟩)
    else
      let (characters, next) := begin octet
      (replacement :: characters, next)

/-- The characters of octets from the middle of a character, or from between two. -/
def repairFrom : Option Pending → List UInt8 → List Char
  | none, [] => []
  | some _, [] => [replacement]
  | pending, octet :: rest =>
    let (characters, next) := advance pending octet
    characters ++ repairFrom next rest

/-- The characters of any octets; the longest beginning of a character that is not
completed is replaced by one character. -/
def repair (octets : List UInt8) : List Char :=
  repairFrom none octets

end Dashboard.Text.Utf8
