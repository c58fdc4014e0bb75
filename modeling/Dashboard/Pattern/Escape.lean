import Dashboard.Pattern.Expression
import Dashboard.Text.Ascii
import Dashboard.Text.Blank

/-!
# Escapes of patterns

What may stand behind a backslash, inside a bracketed class and outside. Under
the flag that ignores blanks, blanks and comments may also stand between the
parts of an escape; `skip` passes over them.
-/

namespace Dashboard.Pattern

/-- A part of a pattern and the characters behind it. -/
abbrev Read (α : Type) := α × List Char

/-- Passes over blanks and comments, which run from `#` to the end of the line. -/
def skipBlanks : Bool → List Char → List Char
  | _, [] => []
  | true, character :: rest => skipBlanks (character ≠ '\n') rest
  | false, character :: rest =>
    if Text.isBlank character then skipBlanks false rest
    else if character = '#' then skipBlanks true rest
    else character :: rest

/-- Passes over what the flag ignores. -/
def skip (ignoreBlanks : Bool) (characters : List Char) : List Char :=
  if ignoreBlanks then skipBlanks false characters else characters

/-- The character of a code, when there is one. -/
def charOfCode? (code : Nat) : Option Char :=
  if code < 0xD800 ∨ (0xE000 ≤ code ∧ code ≤ 0x10FFFF) then some (Char.ofNat code) else none

/-- The literal of a code. -/
def literalOfCode (code : Nat) (isOctet : Bool) : Except PatternError Literal :=
  match charOfCode? code with
  | some character => .ok ⟨character, isOctet⟩
  | none => .error .hexadecimal

/-- Reads a fixed number of hexadecimal digits. -/
def readHexDigits (ignoreBlanks : Bool) : Nat → Nat → List Char →
    Except PatternError (Read Nat)
  | 0, value, rest => .ok (value, rest)
  | count + 1, value, rest =>
    match rest with
    | [] => .error .hexadecimal
    | character :: others =>
      match Text.hexDigitValue? character with
      | none => .error .hexadecimal
      | some digit =>
        readHexDigits ignoreBlanks count (value * 16 + digit) (skip ignoreBlanks others)

/-- Reads hexadecimal digits up to a closing brace; `read` counts them. -/
def readHexBrace (ignoreBlanks : Bool) : Nat → Nat → Nat → List Char →
    Except PatternError (Read Nat)
  | 0, _, _, _ => .error .hexadecimal
  | _ + 1, _, _, [] => .error .hexadecimal
  | fuel + 1, read, value, character :: rest =>
    if character = '\x7d' then
      if read = 0 then .error .hexadecimal else .ok (value, skip ignoreBlanks rest)
    else match Text.hexDigitValue? character with
      | none => .error .hexadecimal
      | some digit =>
        readHexBrace ignoreBlanks fuel (read + 1) (value * 16 + digit) (skip ignoreBlanks rest)

/-- Reads a hexadecimal escape behind its letter. -/
def readHex (ignoreBlanks : Bool) (digits : Nat) (isOctet : Bool) (rest : List Char) :
    Except PatternError (Read Literal) :=
  match skip ignoreBlanks rest with
  | [] => .error .hexadecimal
  | '\x7b' :: body => do
    let (code, after) ←
      readHexBrace ignoreBlanks (body.length + 1) 0 0 (skip ignoreBlanks body)
    return (← literalOfCode code false, after)
  | body => do
    let (code, after) ← readHexDigits ignoreBlanks digits 0 body
    return (← literalOfCode code isOctet, after)

/-- Collects the characters up to a closing brace. -/
def readBraced (ignoreBlanks : Bool) : Nat → List Char → List Char →
    Option (List Char × List Char)
  | 0, _, _ => none
  | _ + 1, _, [] => none
  | fuel + 1, reversed, character :: rest =>
    if character = '\x7d' then some (reversed.reverse, rest)
    else readBraced ignoreBlanks fuel (character :: reversed) (skip ignoreBlanks rest)

/-- Splits a list before the first place where a test on the tail holds. -/
def splitWhere (test : List Char → Bool) : List Char → Option (List Char × List Char)
  | [] => none
  | character :: rest =>
    if test (character :: rest) then some ([], character :: rest)
    else (splitWhere test rest).map fun (before, after) => (character :: before, after)

/-- The property that the text between braces names, and whether it is negated by
its sign. The sign `!=` is looked for first, then the colon, then `=`. -/
def propertyOfText (characters : List Char) : Bool × PropertyName :=
  let valued (before after : List Char) : PropertyName :=
    .valued (String.ofList before) (String.ofList after)
  match splitWhere (fun tail => tail.take 2 == ['!', '=']) characters with
  | some (before, after) => (true, valued before (after.drop 2))
  | none => match splitWhere (fun tail => tail.take 1 == [':']) characters with
    | some (before, after) => (false, valued before (after.drop 1))
    | none => match splitWhere (fun tail => tail.take 1 == ['=']) characters with
      | some (before, after) => (false, valued before (after.drop 1))
      | none => (false, .alone (String.ofList characters))

/-- Reads a property escape behind its letter. -/
def readProperty (ignoreBlanks : Bool) (negated : Bool) (rest : List Char) :
    Except PatternError (Read Expression) :=
  match skip ignoreBlanks rest with
  | [] => .error .escape
  | '\x7b' :: body =>
    match readBraced ignoreBlanks (body.length + 1) [] (skip ignoreBlanks body) with
    | none => .error .escape
    | some (name, after) =>
      let (opposite, property) := propertyOfText name
      .ok (.property (negated != opposite) property, after)
  | '\\' :: _ => .error .propertyName
  | letter :: after =>
    .ok (.property negated (.alone (String.singleton letter)), skip ignoreBlanks after)

/-- Whether a character may be part of the name of a word boundary. -/
def isBoundaryChar (character : Char) : Bool :=
  Text.isAsciiLetter character || character = '-'

/-- Collects the name of a word boundary. -/
def readBoundaryName (ignoreBlanks : Bool) : Nat → List Char → List Char →
    List Char × List Char
  | 0, reversed, rest => (reversed.reverse, rest)
  | _ + 1, reversed, [] => (reversed.reverse, [])
  | fuel + 1, reversed, character :: rest =>
    if isBoundaryChar character then
      readBoundaryName ignoreBlanks fuel (character :: reversed) (skip ignoreBlanks rest)
    else (reversed.reverse, character :: rest)

/-- Reads what follows `\b`: the name of a word boundary in braces, or nothing. A
brace that no letter follows is left to the counted repetition. -/
def readBoundary (ignoreBlanks : Bool) (rest : List Char) : Except PatternError (Read Assertion) :=
  match rest with
  | '\x7b' :: body =>
    match skip ignoreBlanks body with
    | [] => .error .wordBoundary
    | first :: others =>
      if !isBoundaryChar first then .ok (.wordBoundary, rest)
      else
        let (name, after) :=
          readBoundaryName ignoreBlanks (others.length + 2) [] (first :: others)
        match after with
        | '\x7d' :: behind =>
          match String.ofList name with
          | "start" => .ok (.wordStart, behind)
          | "end" => .ok (.wordEnd, behind)
          | "start-half" => .ok (.wordStartHalf, behind)
          | "end-half" => .ok (.wordEndHalf, behind)
          | _ => .error .wordBoundary
        | _ => .error .wordBoundary
  | _ => .ok (.wordBoundary, rest)

/-- Whether a character stands for itself behind a backslash: every ASCII character
but letters, digits and angle brackets. -/
def isEscapable (character : Char) : Bool :=
  character.toNat < 0x80 && !Text.isAsciiLetter character && !Text.isAsciiDigit character &&
    character ≠ '<' && character ≠ '>'

/-- A literal that stands for a character only. -/
def plainLiteral (character : Char) : Expression := .literal ⟨character, false⟩

/-- Reads an escape behind its backslash. -/
def readEscape (ignoreBlanks : Bool) (characters : List Char) :
    Except PatternError (Read Expression) :=
  match characters with
  | [] => .error .escape
  | letter :: rest =>
    let literal (code : Nat) : Except PatternError (Read Expression) :=
      .ok (plainLiteral (Char.ofNat code), rest)
    let asserts (assertion : Assertion) : Except PatternError (Read Expression) :=
      .ok (.assertion assertion, rest)
    match letter with
    | 'x' => do
      let (read, after) ← readHex ignoreBlanks 2 true rest
      return (.literal read, after)
    | 'u' => do
      let (read, after) ← readHex ignoreBlanks 4 false rest
      return (.literal read, after)
    | 'U' => do
      let (read, after) ← readHex ignoreBlanks 8 false rest
      return (.literal read, after)
    | 'p' => readProperty ignoreBlanks false rest
    | 'P' => readProperty ignoreBlanks true rest
    | 'd' => .ok (.short false .digit, rest)
    | 'D' => .ok (.short true .digit, rest)
    | 's' => .ok (.short false .blank, rest)
    | 'S' => .ok (.short true .blank, rest)
    | 'w' => .ok (.short false .word, rest)
    | 'W' => .ok (.short true .word, rest)
    | 'a' => literal 0x07
    | 'f' => literal 0x0C
    | 't' => literal 0x09
    | 'n' => literal 0x0A
    | 'r' => literal 0x0D
    | 'v' => literal 0x0B
    | 'A' => asserts .textStart
    | 'z' => asserts .textEnd
    | 'b' => do
      let (assertion, after) ← readBoundary ignoreBlanks rest
      return (.assertion assertion, after)
    | 'B' => asserts .notWordBoundary
    | '<' => asserts .wordStart
    | '>' => asserts .wordEnd
    | _ =>
      if Text.isAsciiDigit letter then .error .backReference
      else if isEscapable letter then .ok (plainLiteral letter, rest)
      else .error .escape

end Dashboard.Pattern
