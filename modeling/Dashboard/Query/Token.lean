import Dashboard.Query.Error
import Dashboard.Text.Ascii
import Dashboard.Text.Blank
import Dashboard.Text.Utf8

/-!
# Query tokens

A query text splits into parentheses, colons, the keywords `AND` and `OR`, words
and quoted texts. A word runs until a blank, a parenthesis or a colon; a quoted
text runs until its quote character returns. In both a backslash keeps the next
character as it is.
-/

namespace Dashboard.Query

/-- What a token is. -/
inductive TokenKind where
  | openParenthesis
  | closeParenthesis
  | colon
  | and
  | or
  | word (text : String)
  | quoted (text : String)
  deriving DecidableEq, Repr

/-- A token as it may be written in a query. -/
def TokenKind.describe : TokenKind → String
  | openParenthesis => "("
  | closeParenthesis => ")"
  | colon => ":"
  | and => "AND"
  | or => "OR"
  | word text => text
  | quoted text => "\"" ++ text ++ "\""

/-- A token and the byte offset where it starts. -/
structure Token where
  kind : TokenKind
  offset : Nat
  deriving DecidableEq, Repr

namespace Token

/-- The kind of a finished word: `and` and `or` in any case are keywords. -/
def wordKind (characters : List Char) : TokenKind :=
  if Text.equalIgnoringAsciiCase characters ['a', 'n', 'd'] then .and
  else if Text.equalIgnoringAsciiCase characters ['o', 'r'] then .or
  else .word (String.ofList characters)

/-- The kind of a character that is a token on its own. -/
def punctuation? : Char → Option TokenKind
  | '(' => some .openParenthesis
  | ')' => some .closeParenthesis
  | ':' => some .colon
  | _ => none

/-- Whether a character opens a quoted text. -/
def isQuote (character : Char) : Bool :=
  character = '"' || character = '\''

/-- Where the scanner stands between two characters. The characters of an
unfinished token are kept last first; `escaped` says that a backslash precedes. -/
inductive Mode where
  | between
  | word (start : Nat) (reversed : List Char) (escaped : Bool)
  | quoted (quote : Char) (start : Nat) (reversed : List Char) (escaped : Bool)
  deriving DecidableEq, Repr

/-- One character between two tokens: the next mode, and the token it completes. -/
def begin (offset : Nat) (character : Char) : Mode × List Token :=
  if Text.isBlank character then (.between, [])
  else match punctuation? character with
    | some kind => (.between, [⟨kind, offset⟩])
    | none =>
      if isQuote character then (.quoted character offset [] false, [])
      else if character = '\\' then (.word offset [] true, [])
      else (.word offset [character] false, [])

/-- One character at a byte offset: the next mode, and the tokens it completes,
last first. -/
def step (mode : Mode) (offset : Nat) (character : Char) : Mode × List Token :=
  match mode with
  | .between => begin offset character
  | .word start reversed true => (.word start (character :: reversed) false, [])
  | .word start reversed false =>
    if Text.isBlank character || (punctuation? character).isSome then
      let (next, completed) := begin offset character
      (next, completed ++ [⟨wordKind reversed.reverse, start⟩])
    else if character = '\\' then (.word start reversed true, [])
    else (.word start (character :: reversed) false, [])
  | .quoted quote start reversed true =>
    (.quoted quote start (character :: reversed) false, [])
  | .quoted quote start reversed false =>
    if character = '\\' then (.quoted quote start reversed true, [])
    else if character = quote then
      (.between, [⟨.quoted (String.ofList reversed.reverse), start⟩])
    else (.quoted quote start (character :: reversed) false, [])

/-- The end of the text completes a word and leaves a quoted text unterminated. -/
def finish : Mode → Except SyntaxError (List Token)
  | .between => .ok []
  | .word start reversed _ => .ok [⟨wordKind reversed.reverse, start⟩]
  | .quoted _ start _ _ => .error ⟨.unterminatedQuote, start⟩

/-- Reads characters from a mode and a byte offset; the tokens so far are kept
last first. -/
def scan : Mode → Nat → List Token → List Char → Except SyntaxError (List Token)
  | mode, _, reversed, [] =>
    match finish mode with
    | .ok completed => .ok (completed ++ reversed).reverse
    | .error error => .error error
  | mode, offset, reversed, character :: rest =>
    let (next, completed) := step mode offset character
    scan next (offset + Text.Utf8.width character) (completed ++ reversed) rest

end Token

/-- The tokens of a query text. -/
def tokenize (text : String) : Except SyntaxError (List Token) :=
  Token.scan .between 0 [] text.toList

end Dashboard.Query
