import Dashboard.Unicode.BinaryProperty

/-!
# Quoted texts

A text between double quotes, with escapes for the quote, the backslash, the
usual controls, and every character that is not visible on its own.
-/

namespace Dashboard.Text

/-- The categories of characters without a visible form. -/
def invisible : Unicode.Charset :=
  Unicode.GeneralCategory.ofCodes ["Cc", "Cf", "Cs", "Co", "Cn", "Zl", "Zp", "Zs"]

/-- Whether a character is visible on its own. -/
def isVisible (character : Char) : Bool :=
  let code := character.toNat
  if code < 0x7F then 0x20 ≤ code
  else !invisible.mem code && !Unicode.BinaryProperty.graphemeExtend.mem code

/-- One character inside double quotes. -/
def quoteChar (character : Char) : List Char :=
  match character with
  | '"' => ['\\', '"']
  | '\\' => ['\\', '\\']
  | '\t' => ['\\', 't']
  | '\r' => ['\\', 'r']
  | '\n' => ['\\', 'n']
  | _ =>
    if character.toNat = 0 then ['\\', '0']
    else if isVisible character then [character]
    else ['\\', 'u', '\x7b'] ++ Nat.toDigits 16 character.toNat ++ ['\x7d']

/-- A text between double quotes. -/
def quoted (text : String) : String :=
  "\"" ++ String.ofList (text.toList.flatMap quoteChar) ++ "\""

end Dashboard.Text
