import Dashboard.Text.Ascii
import Dashboard.Unicode.BinaryProperty
import Dashboard.Unicode.CaseRuns

/-!
# Lower case

The full lower-case mapping. A capital sigma that ends a word becomes the final
form, and the capital I with a dot becomes an i and a combining dot; every other
character has a single image.
-/

namespace Dashboard.Text

/-- The lower-case form of a character other than the capital sigma. -/
def lowercaseChar (character : Char) : List Char :=
  if character.toNat < 0x80 then [asciiLower character]
  else if character = 'İ' then ['i', Char.ofNat 0x307]
  else match Unicode.lowercaseRuns.findSome? fun run => run.image? character.toNat with
    | some image => [Char.ofNat image]
    | none => [character]

/-- Whether the first character that matters for the case of a word is cased. -/
def meetsCased (characters : List Char) : Bool :=
  match characters.dropWhile fun character =>
      Unicode.BinaryProperty.caseIgnorable.mem character.toNat with
  | [] => false
  | character :: _ => Unicode.BinaryProperty.cased.mem character.toNat

/-- The lower-case form of a run of characters that follows others, those last
first; the images so far are kept last first. -/
def lowercaseFrom : List Char → List Char → List Char → List Char
  | _, reversed, [] => reversed.reverse
  | before, reversed, character :: after =>
    let image :=
      if character = 'Σ' then
        if meetsCased before && !meetsCased after then ['ς'] else ['σ']
      else lowercaseChar character
    lowercaseFrom (character :: before) (image.reverse ++ reversed) after

/-- The lower-case form of a text. -/
def lowercase (text : String) : String :=
  String.ofList (lowercaseFrom [] [] text.toList)

end Dashboard.Text
