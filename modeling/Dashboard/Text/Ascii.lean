/-!
# ASCII letters, digits and case

Comparisons and maps that know the letters of ASCII only and leave every other
character alone.
-/

namespace Dashboard.Text

/-- The lower-case form of an upper-case ASCII letter; other characters stay. -/
def asciiLower (character : Char) : Char :=
  if 'A' ≤ character ∧ character ≤ 'Z' then Char.ofNat (character.toNat + 32) else character

/-- The upper-case form of a lower-case ASCII letter; other characters stay. -/
def asciiUpper (character : Char) : Char :=
  if 'a' ≤ character ∧ character ≤ 'z' then Char.ofNat (character.toNat - 32) else character

/-- Whether two runs of characters differ at most in the case of ASCII letters. -/
def equalIgnoringAsciiCase (left right : List Char) : Bool :=
  left.map asciiLower == right.map asciiLower

/-- A text with its ASCII letters in lower case. -/
def asciiLowercase (text : String) : String :=
  String.ofList (text.toList.map asciiLower)

/-- The value of a decimal ASCII digit. -/
def digitValue? (character : Char) : Option Nat :=
  if '0' ≤ character ∧ character ≤ '9' then some (character.toNat - '0'.toNat) else none

/-- The value of a hexadecimal ASCII digit in either case. -/
def hexDigitValue? (character : Char) : Option Nat :=
  let code := character.toNat
  if '0' ≤ character ∧ character ≤ '9' then some (code - 0x30)
  else if 'a' ≤ character ∧ character ≤ 'f' then some (code - 0x57)
  else if 'A' ≤ character ∧ character ≤ 'F' then some (code - 0x37)
  else none

/-- Whether a character is an ASCII letter. -/
def isAsciiLetter (character : Char) : Bool :=
  ('a' ≤ character && character ≤ 'z') || ('A' ≤ character && character ≤ 'Z')

/-- Whether a character is a decimal ASCII digit. -/
def isAsciiDigit (character : Char) : Bool :=
  '0' ≤ character && character ≤ '9'

/-- The number that a run of decimal digits denotes; `none` when a character is
not a digit or there is none. -/
def natOfDigits? (characters : List Char) : Option Nat :=
  if characters.isEmpty then none
  else characters.foldl (fun value character =>
    value.bind fun total => (digitValue? character).map fun digit => total * 10 + digit)
    (some 0)

end Dashboard.Text
