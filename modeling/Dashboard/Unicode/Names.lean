import Dashboard.Text.Ascii
import Dashboard.Unicode.Age
import Dashboard.Unicode.BinaryProperty
import Dashboard.Unicode.Break
import Dashboard.Unicode.Script

/-!
# Names of properties

A character class may name a property alone, or a property with a value. Names
are compared in loose form: case, spaces, underscores, hyphens, an initial `is`
and characters outside ASCII do not count.
-/

namespace Dashboard.Unicode

/-- The characters of a name that count. -/
def looseChars (characters : List Char) : List Char :=
  (characters.filter fun character =>
    character.toNat < 0x80 && character ≠ ' ' && character ≠ '_' && character ≠ '-').map
    Text.asciiLower

/-- The loose form of a name. The abbreviation `isc` keeps its initial letters. -/
def looseName (name : String) : String :=
  match name.toList with
  | first :: second :: rest =>
    if Text.asciiLower first = 'i' ∧ Text.asciiLower second = 's' then
      if looseChars rest = ['c'] then "isc" else String.ofList (looseChars rest)
    else String.ofList (looseChars (first :: second :: rest))
  | characters => String.ofList (looseChars characters)

/-- The set that a single name stands for: a binary property, a category or a
script. Three abbreviations of properties stand for categories instead. -/
def setOfName? (name : String) : Option Charset :=
  let loose := looseName name
  let property :=
    if loose = "cf" ∨ loose = "sc" ∨ loose = "lc" then none
    else BinaryProperty.ofName? loose
  property.orElse fun _ =>
    (GeneralCategory.ofName? loose).orElse fun _ => Script.ofName? loose

/-- The set that a property with a value stands for. -/
def setOfValue? (property value : String) : Option Charset :=
  let loose := looseName value
  match looseName property with
  | "gc" | "generalcategory" => GeneralCategory.ofName? loose
  | "sc" | "script" => Script.ofName? loose
  | "scx" | "scriptextensions" => Script.extensionsOfName? loose
  | "age" => Age.ofName? loose
  | "gcb" | "graphemeclusterbreak" => Break.graphemeOfName? loose
  | "wb" | "wordbreak" => Break.wordOfName? loose
  | "sb" | "sentencebreak" => Break.sentenceOfName? loose
  | _ => none

end Dashboard.Unicode
