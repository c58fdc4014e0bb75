/-!
# Blanks

The characters with the property White_Space, and the trimming of texts. The set
is closed: the standard adds no further blanks.
-/

namespace Dashboard.Text

/-- Whether a character has the property White_Space. -/
def isBlank (character : Char) : Bool :=
  let code := character.toNat
  (9 ≤ code && code ≤ 13) || code == 0x20 || code == 0x85 || code == 0xA0 ||
    code == 0x1680 || (0x2000 ≤ code && code ≤ 0x200A) || code == 0x2028 ||
    code == 0x2029 || code == 0x202F || code == 0x205F || code == 0x3000

/-- A run of characters without the blanks at its start. -/
def trimStart (characters : List Char) : List Char :=
  characters.dropWhile isBlank

/-- A run of characters without the blanks at its two ends. -/
def trimChars (characters : List Char) : List Char :=
  (trimStart (trimStart characters).reverse).reverse

/-- A text without the blanks at its two ends. -/
def trim (text : String) : String :=
  String.ofList (trimChars text.toList)

/-- Whether a text holds blanks only. -/
def isBlankText (text : String) : Bool :=
  text.toList.all isBlank

end Dashboard.Text
