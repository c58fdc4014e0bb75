import Dashboard.Pattern.Escape

/-!
# Bracketed classes

The reader of `[…]`. Classes nest, and between their items may stand the operators
`&&`, `--` and `~~`, which associate to the left with equal strength. The reader
keeps the classes that are still open, so that nesting needs no recursion.
-/

namespace Dashboard.Pattern

/-- A class that is still open: the items in front of it with the negation of its
bracket, or the operator that waits for its right-hand side. -/
inductive OpenClass where
  | bracket (negated : Bool) (outer : List ClassSet)
  | operator (operator : SetOperator) (left : ClassSet)

/-- The set of a run of items, given last first. -/
def unionOf (reversed : List ClassSet) : ClassSet :=
  match reversed with
  | [] => .empty
  | [item] => item
  | items => .union items.reverse

/-- Reads literal hyphens at the start of a class. -/
def readHyphens (ignoreBlanks : Bool) : Nat → List ClassSet → List Char →
    Except PatternError (Read (List ClassSet))
  | 0, _, _ => .error .classUnclosed
  | fuel + 1, items, rest =>
    match rest with
    | [] => .error .classUnclosed
    | '-' :: others =>
      readHyphens ignoreBlanks fuel (.literal ⟨'-', false⟩ :: items) (skip ignoreBlanks others)
    | characters => .ok (items, characters)

/-- Reads the start of a class behind its bracket: the negation, literal hyphens,
and a closing bracket that is a literal because it comes first. -/
def readClassStart (ignoreBlanks : Bool) (rest : List Char) :
    Except PatternError (Read (Bool × List ClassSet)) := do
  let characters := skip ignoreBlanks rest
  let (negated, body) := match characters with
    | '^' :: others => (true, skip ignoreBlanks others)
    | others => (false, others)
  let (items, after) ← readHyphens ignoreBlanks (body.length + 1) [] body
  match items, after with
  | [], ']' :: others =>
    match skip ignoreBlanks others with
    | [] => .error .classUnclosed
    | behind => .ok ((negated, [.literal ⟨']', false⟩]), behind)
  | _, _ => .ok ((negated, items), after)

/-- The ranges of a class with a name in `[:…:]`. -/
def namedRanges? : String → Option (List (Nat × Nat))
  | "alnum" => some [(0x30, 0x39), (0x41, 0x5A), (0x61, 0x7A)]
  | "alpha" => some [(0x41, 0x5A), (0x61, 0x7A)]
  | "ascii" => some [(0x00, 0x7F)]
  | "blank" => some [(0x09, 0x09), (0x20, 0x20)]
  | "cntrl" => some [(0x00, 0x1F), (0x7F, 0x7F)]
  | "digit" => some [(0x30, 0x39)]
  | "graph" => some [(0x21, 0x7E)]
  | "lower" => some [(0x61, 0x7A)]
  | "print" => some [(0x20, 0x7E)]
  | "punct" => some [(0x21, 0x2F), (0x3A, 0x40), (0x5B, 0x60), (0x7B, 0x7E)]
  | "space" => some [(0x09, 0x0D), (0x20, 0x20)]
  | "upper" => some [(0x41, 0x5A)]
  | "word" => some [(0x30, 0x39), (0x41, 0x5A), (0x5F, 0x5F), (0x61, 0x7A)]
  | "xdigit" => some [(0x30, 0x39), (0x41, 0x46), (0x61, 0x66)]
  | _ => none

/-- Reads a class of the form `[:name:]` behind its first bracket, if there is one. -/
def readNamedClass? (characters : List Char) : Option (ClassSet × List Char) :=
  match characters with
  | ':' :: rest =>
    let (negated, body) := match rest with
      | '^' :: others => (true, others)
      | others => (false, others)
    let name := body.takeWhile (· ≠ ':')
    match body.dropWhile (· ≠ ':') with
    | ':' :: ']' :: after =>
      (namedRanges? (String.ofList name)).map fun ranges => (.named negated ranges, after)
    | _ => none
  | _ => none

/-- Reads one character or escape of a class. -/
def readClassPart (ignoreBlanks : Bool) (characters : List Char) :
    Except PatternError (Read Expression) :=
  match characters with
  | [] => .error .classUnclosed
  | '\\' :: rest => readEscape ignoreBlanks rest
  | character :: rest => .ok (plainLiteral character, rest)

/-- The item that a part of a class stands for. -/
def itemOfPart : Expression → Except PatternError ClassSet
  | .literal literal => .ok (.literal literal)
  | .property negated name => .ok (.property negated name)
  | .short negated kind => .ok (.short negated kind)
  | _ => .error .classItem

/-- The literal that a part of a class stands for as an end of a range. -/
def literalOfPart : Expression → Except PatternError Literal
  | .literal literal => .ok literal
  | _ => .error .classRange

/-- The characters from the next one that is neither a blank nor the first sign of a
comment; the given ones when there is none. -/
def peekFrom (start : List Char) : Bool → List Char → List Char
  | _, [] => start
  | inComment, character :: rest =>
    if Text.isBlank character then peekFrom start inComment rest
    else if !inComment && character = '#' then peekFrom start true rest
    else character :: rest

/-- The character behind the current one, with ignored blanks passed over. -/
def peek? (ignoreBlanks : Bool) (behind : List Char) : Option Char :=
  if ignoreBlanks then (peekFrom behind false behind).head? else behind.head?

/-- Reads a single item or a range. A hyphen before a closing bracket or before
another hyphen does not make a range. -/
def readClassRange (ignoreBlanks : Bool) (characters : List Char) :
    Except PatternError (Read ClassSet) := do
  let (first, after) ← readClassPart ignoreBlanks characters
  match skip ignoreBlanks after with
  | [] => .error .classUnclosed
  | '-' :: behind =>
    let next := peek? ignoreBlanks behind
    if next = some ']' ∨ next = some '-' then
      return (← itemOfPart first, '-' :: behind)
    else
      match skip ignoreBlanks behind with
      | [] => .error .classUnclosed
      | body =>
        let (second, rest) ← readClassPart ignoreBlanks body
        let lower ← literalOfPart first
        let upper ← literalOfPart second
        if lower.character ≤ upper.character then return (.range lower upper, rest)
        else .error .classRange
  | rest => return (← itemOfPart first, rest)

/-- Joins a finished right-hand side with the operator that waits for it. -/
def joinOperator (right : ClassSet) : List OpenClass → ClassSet × List OpenClass
  | .operator operator left :: rest => (.binary operator left right, rest)
  | stack => (right, stack)

/-- Reads a class to the end of its outermost bracket. -/
def readClassBody (ignoreBlanks : Bool) : Nat → List OpenClass → List ClassSet → List Char →
    Except PatternError (Read Expression)
  | 0, _, _, _ => .error .classUnclosed
  | fuel + 1, stack, items, characters =>
    let operate (operator : SetOperator) (rest : List Char) :
        Except PatternError (Read Expression) :=
      let (left, outer) := joinOperator (unionOf items) stack
      readClassBody ignoreBlanks fuel (.operator operator left :: outer) [] rest
    match skip ignoreBlanks characters with
    | [] => .error .classUnclosed
    | '[' :: rest =>
      match readNamedClass? rest with
      | some (named, after) => readClassBody ignoreBlanks fuel stack (named :: items) after
      | none => do
        let ((negated, inner), after) ← readClassStart ignoreBlanks rest
        readClassBody ignoreBlanks fuel (.bracket negated items :: stack) inner after
    | ']' :: rest =>
      match joinOperator (unionOf items) stack with
      | (body, [.bracket negated _]) => .ok (.bracketed negated body, rest)
      | (body, .bracket negated outer :: others) =>
        readClassBody ignoreBlanks fuel others (.bracketed negated body :: outer) rest
      | _ => .error .classUnclosed
    | '&' :: '&' :: rest => operate .intersection rest
    | '-' :: '-' :: rest => operate .difference rest
    | '~' :: '~' :: rest => operate .symmetricDifference rest
    | rest => do
      let (item, after) ← readClassRange ignoreBlanks rest
      readClassBody ignoreBlanks fuel stack (item :: items) after

/-- Reads a class behind its bracket. -/
def readClass (ignoreBlanks : Bool) (rest : List Char) : Except PatternError (Read Expression) := do
  let ((negated, items), after) ← readClassStart ignoreBlanks rest
  readClassBody ignoreBlanks (after.length + 1) [.bracket negated []] items after

end Dashboard.Pattern
