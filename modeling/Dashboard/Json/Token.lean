import Dashboard.Json.Literal
import Dashboard.Text.Utf8

/-!
# JSON tokens

The octets of a JSON text split into tokens. A string token that no string value
corresponds to, because an escape names half of a surrogate pair or the octets
are not UTF-8, is still a token: it has no text. Readers that skip a string
accept it, readers that want its text refuse it.
-/

namespace Dashboard.Json

/-- A token of a JSON text. -/
inductive Token where
  | openArray
  | closeArray
  | openObject
  | closeObject
  | comma
  | colon
  | null
  | bool (value : Bool)
  | number (literal : NumberLiteral)
  | string (text : Option String)
  deriving DecidableEq, Repr

namespace Token

/-- The part of a string read so far: its octets, last first, a leading surrogate
that waits for its partner, and whether some surrogate stood alone. -/
structure StringPart where
  reversed : List UInt8
  leading : Option Nat
  broken : Bool

namespace StringPart

/-- No octets yet. -/
def empty : StringPart := ⟨[], none, false⟩

/-- A waiting leading surrogate that is not followed by its partner stood alone. -/
def settle (part : StringPart) : StringPart :=
  { part with leading := none, broken := part.broken || part.leading.isSome }

/-- Adds one octet. -/
def push (part : StringPart) (octet : UInt8) : StringPart :=
  let settled := part.settle
  { settled with reversed := octet :: settled.reversed }

/-- Adds the octets of a character given by its code. -/
def pushCode (part : StringPart) (code : Nat) : StringPart :=
  { part with reversed := (Text.Utf8.encodeChar (Char.ofNat code)).reverse ++ part.reversed }

/-- Adds the unit of a four-digit escape. -/
def pushUnit (part : StringPart) (unit : Nat) : StringPart :=
  match part.leading with
  | some leading =>
    if 0xDC00 ≤ unit ∧ unit < 0xE000 then
      { part with leading := none }.pushCode
        (0x10000 + (leading - 0xD800) * 1024 + (unit - 0xDC00))
    else { part with leading := none, broken := true }
  | none =>
    if 0xD800 ≤ unit ∧ unit < 0xDC00 then { part with leading := some unit }
    else if 0xDC00 ≤ unit ∧ unit < 0xE000 then { part with broken := true }
    else part.pushCode unit

/-- The text of a finished string. -/
def text? (part : StringPart) : Option String :=
  if part.settle.broken then none else Text.Utf8.toString? part.reversed.reverse

end StringPart

/-- Where a number literal stands. -/
inductive NumberStage where
  | sign
  | zero
  | whole
  | point
  | fraction
  | mark
  | exponentSign
  | exponent
  deriving DecidableEq, Repr

/-- Whether a number may end at the stage. -/
def NumberStage.complete : NumberStage → Bool
  | zero | whole | fraction | exponent => true
  | sign | point | mark | exponentSign => false

/-- Where the scanner stands between two octets. Digits of a number are kept last
first. -/
inductive Mode where
  | between
  | string (part : StringPart)
  | escape (part : StringPart)
  | unit (part : StringPart) (digitsLeft : Nat) (value : Nat)
  | number (stage : NumberStage) (literal : NumberLiteral)
  | word (remaining : List UInt8) (token : Token)

/-- The octet of an ASCII character. -/
def octetOf (character : Char) : UInt8 := UInt8.ofNat character.toNat

/-- The octets of an ASCII word. -/
def octetsOf (word : String) : List UInt8 := word.toList.map octetOf

/-- The value of a decimal digit. -/
def digit? (octet : UInt8) : Option Nat :=
  if 0x30 ≤ octet.toNat ∧ octet.toNat ≤ 0x39 then some (octet.toNat - 0x30) else none

/-- The value of a hexadecimal digit. -/
def hexDigit? (octet : UInt8) : Option Nat :=
  let code := octet.toNat
  if 0x30 ≤ code ∧ code ≤ 0x39 then some (code - 0x30)
  else if 0x41 ≤ code ∧ code ≤ 0x46 then some (code - 0x37)
  else if 0x61 ≤ code ∧ code ≤ 0x66 then some (code - 0x57)
  else none

/-- A literal without digits. -/
def emptyLiteral (negative : Bool) : NumberLiteral :=
  ⟨negative, [], [], false, [], true⟩

/-- One octet between two tokens: the next mode, and the token it completes. -/
def begin (octet : UInt8) : Option (Mode × Option Token) :=
  match Char.ofNat octet.toNat with
  | ' ' | '\t' | '\n' | '\r' => some (.between, none)
  | '[' => some (.between, some .openArray)
  | ']' => some (.between, some .closeArray)
  | '\x7b' => some (.between, some .openObject)
  | '\x7d' => some (.between, some .closeObject)
  | ',' => some (.between, some .comma)
  | ':' => some (.between, some .colon)
  | '"' => some (.string .empty, none)
  | 'n' => some (.word (octetsOf "ull") .null, none)
  | 't' => some (.word (octetsOf "rue") (.bool true), none)
  | 'f' => some (.word (octetsOf "alse") (.bool false), none)
  | '-' => some (.number .sign (emptyLiteral true), none)
  | _ => (digit? octet).map fun digit =>
      (.number (if digit = 0 then .zero else .whole)
        { emptyLiteral false with whole := [digit] }, none)

/-- The character that an escape of one letter stands for. -/
def shortEscape? (octet : UInt8) : Option UInt8 :=
  match Char.ofNat octet.toNat with
  | '"' | '\\' | '/' => some octet
  | 'b' => some 0x08
  | 'f' => some 0x0C
  | 'n' => some 0x0A
  | 'r' => some 0x0D
  | 't' => some 0x09
  | _ => none

/-- The digits of a literal in reading order. -/
def finishLiteral (literal : NumberLiteral) : NumberLiteral :=
  { literal with
    whole := literal.whole.reverse
    fraction := literal.fraction.reverse
    exponent := literal.exponent.reverse }

/-- One octet that may continue a number; `none` when it does not. -/
def continueNumber (stage : NumberStage) (literal : NumberLiteral) (octet : UInt8) :
    Option (NumberStage × NumberLiteral) :=
  match stage, digit? octet with
  | .sign, some digit =>
    some (if digit = 0 then .zero else .whole, { literal with whole := [digit] })
  | .whole, some digit => some (.whole, { literal with whole := digit :: literal.whole })
  | .point, some digit | .fraction, some digit =>
    some (.fraction, { literal with fraction := digit :: literal.fraction })
  | .mark, some digit | .exponentSign, some digit | .exponent, some digit =>
    some (.exponent, { literal with exponent := digit :: literal.exponent })
  | .zero, none | .whole, none =>
    if octet = octetOf '.' then some (.point, { literal with isInteger := false })
    else if octet = octetOf 'e' ∨ octet = octetOf 'E' then
      some (.mark, { literal with isInteger := false })
    else none
  | .fraction, none =>
    if octet = octetOf 'e' ∨ octet = octetOf 'E' then some (.mark, literal) else none
  | .mark, none =>
    if octet = octetOf '+' then some (.exponentSign, literal)
    else if octet = octetOf '-' then
      some (.exponentSign, { literal with exponentNegative := true })
    else none
  | _, _ => none

/-- One octet: the next mode and the tokens it completes, last first. -/
def step (mode : Mode) (octet : UInt8) : Option (Mode × List Token) :=
  match mode with
  | .between => (begin octet).map fun (next, token) => (next, token.toList)
  | .string part =>
    if octet = octetOf '"' then some (.between, [.string part.text?])
    else if octet = octetOf '\\' then some (.escape part, [])
    else if octet.toNat < 0x20 then none
    else some (.string (part.push octet), [])
  | .escape part =>
    if octet = octetOf 'u' then some (.unit part 4 0, [])
    else (shortEscape? octet).map fun replacement => (.string (part.push replacement), [])
  | .unit part digitsLeft value =>
    (hexDigit? octet).map fun digit =>
      let value := value * 16 + digit
      if digitsLeft ≤ 1 then (.string (part.pushUnit value), [])
      else (.unit part (digitsLeft - 1) value, [])
  | .number stage literal =>
    match continueNumber stage literal octet with
    | some (nextStage, nextLiteral) => some (.number nextStage nextLiteral, [])
    | none =>
      if stage.complete then
        (begin octet).map fun (next, token) =>
          (next, token.toList ++ [.number (finishLiteral literal)])
      else none
  | .word [] _ => none
  | .word (expected :: remaining) token =>
    if octet = expected then
      if remaining.isEmpty then some (.between, [token]) else some (.word remaining token, [])
    else none

/-- Reads octets from a mode; the tokens so far are kept last first. -/
def scan : Mode → List Token → List UInt8 → Option (List Token)
  | mode, reversed, [] =>
    match mode with
    | .between => some reversed.reverse
    | .number stage literal =>
      if stage.complete then some (.number (finishLiteral literal) :: reversed).reverse
      else none
    | _ => none
  | mode, reversed, octet :: rest =>
    match step mode octet with
    | none => none
    | some (next, completed) => scan next (completed ++ reversed) rest

/-- The tokens of a JSON text, when it splits into tokens. -/
def ofOctets? (octets : List UInt8) : Option (List Token) :=
  scan .between [] octets

end Token

end Dashboard.Json
