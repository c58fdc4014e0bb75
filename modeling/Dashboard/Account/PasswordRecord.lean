import Dashboard.Digest.Argon2.Tag
import Dashboard.Text.Ascii
import Dashboard.Text.Base64
import Dashboard.Text.Split
import Dashboard.Text.Utf8

/-!
# Password records

A password is kept as a text of fields behind dollar signs: the name of the digest,
its version, its costs, the salt, and the tag. Every field but the name may be
missing. A text that breaks the form of a field is no record; a record whose fields
are well formed but name no digest that can be computed opens with no password.
-/

namespace Dashboard.Account

open Digest

/-- A password record as it is written. -/
structure PasswordRecord where
  algorithm : List Char
  version : Option Nat
  /-- Names and values of the costs in their order. -/
  costs : List (List Char × List Char)
  salt : Option (List Char)
  tag : Option (List UInt8)
  deriving DecidableEq, Repr

namespace PasswordRecord

/-- A character of a name. -/
def isNameChar (character : Char) : Bool :=
  ('a' ≤ character && character ≤ 'z') || Text.isAsciiDigit character || character == '-'

/-- Names have one to thirty-two characters. -/
def isName (characters : List Char) : Bool :=
  1 ≤ characters.length && characters.length ≤ 32 && characters.all isNameChar

/-- A character of a value or a salt. -/
def isValueChar (character : Char) : Bool :=
  Text.isAsciiLetter character || Text.isAsciiDigit character ||
    ['/', '+', '.', '-'].contains character

/-- Values have at most sixty-four characters. -/
def isValue (characters : List Char) : Bool :=
  characters.length ≤ 64 && characters.all isValueChar

/-- The number of a value: decimal digits without a zero in front, below 2^32. -/
def decimal? (characters : List Char) : Option Nat :=
  match characters with
  | '0' :: _ :: _ => none
  | _ => (Text.natOfDigits? characters).filter fun value => value < Nat.pow 2 32

/-- A name and a value around one equals sign. -/
def cost? (characters : List Char) : Option (List Char × List Char) :=
  match Text.pieces '=' characters with
  | [name, value] => if isName name && isValue value then some (name, value) else none
  | _ => none

/-- Costs between commas, at most 127 characters together. -/
def costs? (characters : List Char) : Option (List (List Char × List Char)) :=
  if 127 < characters.length then none
  else (Text.pieces ',' characters).mapM cost?

/-- A salt as it is written: four to sixty-four characters. -/
def salt? (characters : List Char) : Option (List Char) :=
  if 4 ≤ characters.length && isValue characters then some characters else none

/-- The octets of a tag: ten to sixty-four. -/
def tag? (characters : List Char) : Option (List UInt8) :=
  (Text.Base64.decode? Text.Base64.standardAlphabet characters).filter fun octets =>
    10 ≤ octets.length && octets.length ≤ 64

/-- The version in front of the other fields, when the first field is one. -/
def takeVersion : List (List Char) → Option (Option Nat × List (List Char))
  | ('v' :: '=' :: digits) :: rest =>
    if digits.contains ',' then some (none, ('v' :: '=' :: digits) :: rest)
    else if isValue digits then (decimal? digits).map fun version => (some version, rest)
    else none
  | fields => some (none, fields)

/-- The costs in front of the other fields, when the first field has an equals
sign. -/
def takeCosts : List (List Char) →
    Option (List (List Char × List Char) × List (List Char))
  | [] => some ([], [])
  | field :: rest =>
    if field.contains '=' then (costs? field).map fun costs => (costs, rest)
    else some ([], field :: rest)

/-- The record of a text. -/
def ofText? (text : String) : Option PasswordRecord :=
  match Text.pieces '$' text.toList with
  | [] :: algorithm :: fields => do
    guard (isName algorithm)
    let (version, fields) ← takeVersion fields
    let (costs, fields) ← takeCosts fields
    match fields with
    | [] => some ⟨algorithm, version, costs, none, none⟩
    | [salt] =>
      let salt ← salt? salt
      some ⟨algorithm, version, costs, some salt, none⟩
    | [salt, tag] =>
      let salt ← salt? salt
      let tag ← tag? tag
      some ⟨algorithm, version, costs, some salt, some tag⟩
    | _ => none
  | _ => none

/-- The octets of a value, at most so many. -/
def octets? (most : Nat) (characters : List Char) : Option (List UInt8) :=
  (Text.Base64.decode? Text.Base64.standardAlphabet characters).filter fun octets =>
    octets.length ≤ most

/-- The parameters changed by one cost; the number of a key is checked and not
used. -/
def withCost (parameters : Argon2.Parameters) (cost : List Char × List Char) :
    Option Argon2.Parameters :=
  match String.ofList cost.1 with
  | "m" => (decimal? cost.2).map fun memory => { parameters with memory := memory }
  | "t" => (decimal? cost.2).map fun passes => { parameters with passes := passes }
  | "p" => (decimal? cost.2).map fun lanes => { parameters with lanes := lanes }
  | "keyid" => (octets? 8 cost.2).map fun _ => parameters
  | "data" => (octets? 32 cost.2).map fun octets => { parameters with associated := octets }
  | _ => none

/-- The version that a record names, the later one when it names none. -/
def digestVersion? (record : PasswordRecord) : Option Argon2.Version :=
  match record.version with
  | none => some .adding
  | some code => Argon2.Version.ofCode? code

/-- The parameters for a tag of so many octets, when there is such a digest. -/
def parameters? (record : PasswordRecord) (length : Nat) : Option Argon2.Parameters := do
  let variant ← Argon2.Variant.ofName? (String.ofList record.algorithm)
  let version ← record.digestVersion?
  let start : Argon2.Parameters :=
    { Argon2.Parameters.standard with
      variant := variant
      version := version
      length := length }
  let parameters ← record.costs.foldlM withCost start
  if parameters.isValid then some parameters else none

/-- Passwords are shorter than 2^32 octets. -/
def isHashable (password : List UInt8) : Bool := password.length < Nat.pow 2 32

/-- Whether the tag is the one of a password. -/
def opens (record : PasswordRecord) (password : String) : Bool :=
  let octets := Text.Utf8.ofString password
  let computed : Option Bool := do
    let letters ← record.salt
    let expected ← record.tag
    let parameters ← record.parameters? expected.length
    let salt ← Text.Base64.decode? Text.Base64.standardAlphabet letters
    guard (Argon2.leastSaltLength ≤ salt.length && isHashable octets)
    return Argon2.tag parameters octets salt == expected
  computed.getD false

/-- The written form of a salt or a tag. -/
def written (octets : List UInt8) : String :=
  String.ofList (Text.Base64.encode Text.Base64.standardAlphabet octets)

/-- The record of a new password, when the password can be digested. -/
def ofPassword? (salt : List UInt8) (password : String) : Option String :=
  let octets := Text.Utf8.ofString password
  let parameters := Argon2.Parameters.standard
  if isHashable octets then
    some ("$" ++ parameters.variant.name ++ "$v=" ++ toString parameters.version.code ++
      "$m=" ++ toString parameters.memory ++ ",t=" ++ toString parameters.passes ++
      ",p=" ++ toString parameters.lanes ++ "$" ++ written salt ++ "$" ++
      written (Argon2.tag parameters octets salt))
  else none

end PasswordRecord

end Dashboard.Account
