import Dashboard.Pattern.Bracket
import Dashboard.Unicode.BinaryProperty

/-!
# Reading patterns

The reader keeps the groups and alternations that are still open, the parts of
the current run, and whether blanks are ignored, which a flag may change until
the end of its group.
-/

namespace Dashboard.Pattern

/-- A group that is still open, with the parts in front of it and the state of the
flag outside; or an alternation with its finished branches. Lists are last first. -/
inductive OpenPart where
  | group (kind : GroupKind) (outer : List Expression) (ignoreBlanks : Bool)
  | alternation (branches : List Expression)

/-- The state of the reader. The parts of the current run are kept last first. -/
structure PatternReader where
  stack : List OpenPart
  parts : List Expression
  ignoreBlanks : Bool
  captures : Nat
  names : List String

namespace PatternReader

/-- The state before the first character. -/
def start : PatternReader := ⟨[], [], false, 0, []⟩

/-- Adds a finished part to the current run. -/
def push (reader : PatternReader) (part : Expression) : PatternReader :=
  { reader with parts := part :: reader.parts }

/-- The current run as one expression. -/
def run (reader : PatternReader) : Expression :=
  Expression.ofParts reader.parts.reverse

/-- Ends a branch of an alternation. -/
def endBranch (reader : PatternReader) : PatternReader :=
  match reader.stack with
  | .alternation branches :: outer =>
    { reader with stack := .alternation (reader.run :: branches) :: outer, parts := [] }
  | stack => { reader with stack := .alternation [reader.run] :: stack, parts := [] }

/-- Joins the current run with the alternation that it ends, if there is one. -/
def joinAlternation (reader : PatternReader) : Expression × List OpenPart :=
  match reader.stack with
  | .alternation branches :: outer =>
    (.alternation (reader.run :: branches).reverse, outer)
  | stack => (reader.run, stack)

/-- Closes the innermost group. -/
def closeGroup (reader : PatternReader) : Except PatternError PatternReader :=
  match reader.joinAlternation with
  | (body, .group kind parts ignoreBlanks :: outer) =>
    .ok { reader with
      stack := outer
      parts := .group kind body :: parts
      ignoreBlanks := ignoreBlanks }
  | _ => .error .groupUnopened

/-- The expression of a finished pattern. -/
def finish (reader : PatternReader) : Except PatternError Expression :=
  match reader.joinAlternation with
  | (body, []) => if body.depth ≤ maxNesting then .ok body else .error .nestedTooDeep
  | _ => .error .groupUnclosed

/-- Opens a group. -/
def openGroup (reader : PatternReader) (kind : GroupKind) (ignoreBlanks : Bool) :
    PatternReader :=
  { reader with
    stack := .group kind reader.parts reader.ignoreBlanks :: reader.stack
    parts := []
    ignoreBlanks := ignoreBlanks }

end PatternReader

/-- Whether a character may stand in the name of a group, at its start or later. -/
def isNameChar (first : Bool) (character : Char) : Bool :=
  if first then
    character = '_' || Unicode.BinaryProperty.alphabetic.mem character.toNat
  else
    character = '_' || character = '.' || character = '[' || character = ']' ||
      Unicode.BinaryProperty.alphanumeric.mem character.toNat

/-- Reads the name of a group up to its angle bracket. -/
def readGroupName : List Char → List Char → Except PatternError (Read String)
  | _, [] => .error .groupName
  | reversed, character :: rest =>
    if character = '>' then
      if reversed.isEmpty then .error .groupName
      else .ok (String.ofList reversed.reverse, rest)
    else if isNameChar reversed.isEmpty character then
      readGroupName (character :: reversed) rest
    else .error .groupName

/-- The flag of a letter. -/
def flag? : Char → Option Flag
  | 'i' => some .ignoreCase
  | 'm' => some .multiLine
  | 's' => some .dotMatchesNewline
  | 'U' => some .swapGreed
  | 'u' => some .unicode
  | 'R' => some .carriageReturn
  | 'x' => some .ignoreBlanks
  | _ => none

/-- Reads flags up to the colon or the parenthesis that ends them; the items so far
are kept last first. -/
def readFlags : List FlagItem → List Char → Except PatternError (Read (List FlagItem))
  | _, [] => .error .flagsUnclosed
  | items, character :: rest =>
    if character = ':' ∨ character = ')' then
      if items.head? = some .negation then .error .danglingNegation
      else .ok (items.reverse, character :: rest)
    else if character = '-' then
      if items.contains .negation then .error .repeatedFlag
      else readFlags (.negation :: items) rest
    else match flag? character with
      | none => .error .unknownFlag
      | some flag =>
        if items.contains (.flag flag) then .error .repeatedFlag
        else readFlags (.flag flag :: items) rest

/-- Whether what follows an opening parenthesis is a look-around. -/
def isLookAround (characters : List Char) : Bool :=
  match characters with
  | '?' :: '=' :: _ | '?' :: '!' :: _ => true
  | '?' :: '<' :: '=' :: _ | '?' :: '<' :: '!' :: _ => true
  | _ => false

/-- Opens a group with a name. -/
def readNamedGroup (reader : PatternReader) (rest : List Char) :
    Except PatternError (Read PatternReader) := do
  let (name, after) ← readGroupName [] rest
  if reader.names.contains name then .error .groupName
  else
    let opened := reader.openGroup (.capturing (reader.captures + 1)) reader.ignoreBlanks
    return ({ opened with
      captures := reader.captures + 1
      names := name :: reader.names }, after)

/-- Reads what follows an opening parenthesis. -/
def readGroup (reader : PatternReader) (rest : List Char) :
    Except PatternError (Read PatternReader) :=
  let characters := skip reader.ignoreBlanks rest
  if isLookAround characters then .error .lookAround
  else match characters with
    | '?' :: 'P' :: '<' :: body => readNamedGroup reader body
    | '?' :: '<' :: body => readNamedGroup reader body
    | '?' :: body =>
      if body.isEmpty then .error .groupUnclosed
      else do
        let (items, after) ← readFlags [] body
        let ignoreBlanks := (flagState .ignoreBlanks false items).getD reader.ignoreBlanks
        if after.head? = some ')' then
          if items.isEmpty then .error .repetitionMissing
          else
            let flagged := { reader.push (.flags items) with ignoreBlanks := ignoreBlanks }
            return (flagged, after.drop 1)
        else
          return (reader.openGroup (.plain items) ignoreBlanks, after.drop 1)
    | body =>
      let opened := reader.openGroup (.capturing (reader.captures + 1)) reader.ignoreBlanks
      .ok ({ opened with captures := reader.captures + 1 }, body)

/-- Takes the part that a repetition applies to. -/
def takeOperand (reader : PatternReader) :
    Except PatternError (Expression × PatternReader) :=
  match reader.parts with
  | [] | .empty :: _ | .flags _ :: _ => .error .repetitionMissing
  | operand :: others => .ok (operand, { reader with parts := others })

/-- The question mark behind a repetition makes it lazy. -/
def readGreed (rest : List Char) : Bool × List Char :=
  match rest with
  | '?' :: others => (false, others)
  | others => (true, others)

/-- Reads a repetition of one sign. -/
def readRepetition (reader : PatternReader) (least : Nat) (most : Option Nat)
    (rest : List Char) : Except PatternError (Read PatternReader) := do
  let (operand, others) ← takeOperand reader
  let (greedy, after) := readGreed rest
  return (others.push (.repetition least most greedy operand), after)

/-- The largest count of a repetition. -/
def maxCount : Nat := Nat.pow 2 32 - 1

/-- Reads digits; under the flag, blanks may stand between them. -/
def readDigits (ignoreBlanks : Bool) : Nat → List Char → List Char → List Char × List Char
  | 0, digits, rest => (digits.reverse, rest)
  | _ + 1, digits, [] => (digits.reverse, [])
  | fuel + 1, digits, character :: rest =>
    if Text.isAsciiDigit character then
      readDigits ignoreBlanks fuel (character :: digits) (skip ignoreBlanks rest)
    else (digits.reverse, character :: rest)

/-- Reads a count, with blanks around it. -/
def readCount (ignoreBlanks : Bool) (rest : List Char) : Except PatternError (Read Nat) :=
  let start := Text.trimStart rest
  let (digits, after) := readDigits ignoreBlanks (start.length + 1) [] start
  match Text.natOfDigits? digits with
  | none => .error .repetitionCount
  | some count =>
    if count ≤ maxCount then .ok (count, skip ignoreBlanks (Text.trimStart after))
    else .error .repetitionCount

/-- Reads a repetition with counts in braces. -/
def readCounted (reader : PatternReader) (rest : List Char) :
    Except PatternError (Read PatternReader) := do
  let ignoreBlanks := reader.ignoreBlanks
  let (operand, others) ← takeOperand reader
  let (least, after) ← readCount ignoreBlanks (skip ignoreBlanks rest)
  let (most, behind) ← match after with
    | ',' :: body =>
      match skip ignoreBlanks body with
      | '\x7d' :: _ => pure (none, skip ignoreBlanks body)
      | bound => do
        let (most, behind) ← readCount ignoreBlanks bound
        pure (some most, behind)
    | _ => pure (some least, after)
  match behind with
  | '\x7d' :: body =>
    let (greedy, final) := readGreed (skip ignoreBlanks body)
    if most.all (least ≤ ·) then
      return (others.push (.repetition least most greedy operand), final)
    else .error .repetitionCount
  | _ => .error .repetitionCount

/-- Reads one part of a pattern. -/
def readPart (reader : PatternReader) (characters : List Char) :
    Except PatternError (Read PatternReader) :=
  match characters with
  | [] => .ok (reader, [])
  | character :: rest =>
    match character with
    | '(' => readGroup reader rest
    | ')' => return (← reader.closeGroup, rest)
    | '|' => .ok (reader.endBranch, rest)
    | '[' => do
      let (bracketed, after) ← readClass reader.ignoreBlanks rest
      return (reader.push bracketed, after)
    | '?' => readRepetition reader 0 (some 1) rest
    | '*' => readRepetition reader 0 none rest
    | '+' => readRepetition reader 1 none rest
    | '\x7b' => readCounted reader rest
    | '\\' => do
      let (escaped, after) ← readEscape reader.ignoreBlanks rest
      return (reader.push escaped, after)
    | '.' => .ok (reader.push .dot, rest)
    | '^' => .ok (reader.push (.assertion .lineStart), rest)
    | '$' => .ok (reader.push (.assertion .lineEnd), rest)
    | _ => .ok (reader.push (plainLiteral character), rest)

/-- Reads parts to the end. Each takes at least one character, so the length of the
text is fuel enough. -/
def readParts : Nat → PatternReader → List Char → Except PatternError Expression
  | 0, _, _ => .error .nestedTooDeep
  | fuel + 1, reader, characters =>
    match skip reader.ignoreBlanks characters with
    | [] => reader.finish
    | rest =>
      match readPart reader rest with
      | .ok (next, after) => readParts fuel next after
      | .error error => .error error

/-- The expression of a pattern. -/
def Expression.ofText (pattern : String) : Except PatternError Expression :=
  let characters := pattern.toList
  readParts (characters.length + 1) .start characters

end Dashboard.Pattern
