import Dashboard.Pattern.Reader
import Dashboard.Unicode.CaseFold
import Dashboard.Unicode.Names

/-!
# The meaning of patterns

Flags are resolved into nodes: sets of characters, assertions, repetitions,
captures, runs and alternatives. A flag set inside a group holds to the end of
the group, also across its alternatives. Every node matches whole characters
only; a pattern that asks for a single octet beyond ASCII is refused.
-/

namespace Dashboard.Pattern

open Unicode (Charset)

/-- An assertion with its flags resolved. -/
inductive Look where
  | textStart
  | textEnd
  | lineStart (carriageReturn : Bool)
  | lineEnd (carriageReturn : Bool)
  | wordBoundary (unicode : Bool)
  | notWordBoundary (unicode : Bool)
  | wordStart (unicode : Bool)
  | wordEnd (unicode : Bool)
  | wordStartHalf (unicode : Bool)
  | wordEndHalf (unicode : Bool)
  deriving DecidableEq, Repr

/-- What a pattern means. -/
inductive Node where
  | empty
  | set (members : Charset)
  | look (look : Look)
  | repetition (least : Nat) (most : Option Nat) (greedy : Bool) (body : Node)
  | capture (index : Nat) (body : Node)
  | run (parts : List Node)
  | choice (branches : List Node)
  deriving Repr, Inhabited

/-- The flags in force at a place of a pattern. -/
structure Flags where
  ignoreCase : Bool
  multiLine : Bool
  dotMatchesNewline : Bool
  swapGreed : Bool
  unicode : Bool
  carriageReturn : Bool
  deriving DecidableEq, Repr

namespace Flags

/-- The flags at the start of a pattern. -/
def initial : Flags := ⟨false, false, false, false, true, false⟩

/-- The flags behind a list of flags. -/
def update (flags : Flags) (items : List FlagItem) : Flags :=
  let state (flag : Flag) (old : Bool) : Bool := (flagState flag false items).getD old
  { ignoreCase := state .ignoreCase flags.ignoreCase
    multiLine := state .multiLine flags.multiLine
    dotMatchesNewline := state .dotMatchesNewline flags.dotMatchesNewline
    swapGreed := state .swapGreed flags.swapGreed
    unicode := state .unicode flags.unicode
    carriageReturn := state .carriageReturn flags.carriageReturn }

/-- A set closed under case folding, where the flags ask for it. -/
def fold (flags : Flags) (set : Charset) : Charset :=
  if !flags.ignoreCase then set
  else if flags.unicode then set.closeUnderFolding
  else set.closeUnderAsciiFolding

/-- A set folded and then negated. Without the Unicode flag a negated set holds
single octets beyond ASCII. -/
def foldAndNegate (flags : Flags) (negated : Bool) (set : Charset) :
    Except PatternError Charset :=
  let folded := flags.fold set
  if !negated then .ok folded
  else if flags.unicode then .ok folded.negate
  else .error .notUtf8

/-- The character that a literal stands for. -/
def literal (flags : Flags) (written : Literal) : Except PatternError Char :=
  if !flags.unicode && written.isOctet && 0x80 ≤ written.character.toNat then .error .notUtf8
  else .ok written.character

/-- The character that a literal stands for inside a class. -/
def classLiteral (flags : Flags) (written : Literal) : Except PatternError Nat := do
  let character ← flags.literal written
  if !flags.unicode && 0x80 ≤ character.toNat then .error .notUnicode
  else .ok character.toNat

/-- The set of a one-letter class. -/
def shortClass (flags : Flags) (negated : Bool) (kind : ShortClass) :
    Except PatternError Charset :=
  if flags.unicode then
    let set := match kind with
      | .digit => Unicode.BinaryProperty.decimalDigit
      | .blank => Unicode.BinaryProperty.whiteSpace
      | .word => Unicode.BinaryProperty.word
    .ok (if negated then set.negate else set)
  else if negated then .error .notUtf8
  else
    let name := match kind with
      | .digit => "digit"
      | .blank => "space"
      | .word => "word"
    .ok (Charset.ofRanges ((namedRanges? name).getD []))

/-- The set of a property. -/
def property (flags : Flags) (negated : Bool) (name : PropertyName) :
    Except PatternError Charset :=
  if !flags.unicode then .error .notUnicode
  else
    let found := match name with
      | .alone name => Unicode.setOfName? name
      | .valued name value => Unicode.setOfValue? name value
    match found with
    | some set => flags.foldAndNegate negated set
    | none => .error .propertyName

mutual

/-- The set of a bracketed class without its bracket. -/
def classSet (flags : Flags) : ClassSet → Except PatternError Charset
  | .empty => .ok .empty
  | .literal written => do
    let code ← flags.classLiteral written
    return ⟨[(code, code)]⟩
  | .range lower upper => do
    let low ← flags.classLiteral lower
    let high ← flags.classLiteral upper
    return ⟨[(low, high)]⟩
  | .named negated ranges => flags.foldAndNegate negated (Charset.ofRanges ranges)
  | .property negated name => flags.property negated name
  | .short negated kind => flags.shortClass negated kind
  | .bracketed negated body => do
    let set ← classSet flags body
    flags.foldAndNegate negated set
  | .union members => do
    let sets ← classSets flags members
    return Charset.unions sets
  | .binary operator left right => do
    let first ← classSet flags left
    let second ← classSet flags right
    return match operator with
      | .intersection => (flags.fold first).intersect (flags.fold second)
      | .difference => (flags.fold first).difference (flags.fold second)
      | .symmetricDifference => (flags.fold first).symmetricDifference (flags.fold second)

/-- The sets of the items of a class. -/
def classSets (flags : Flags) : List ClassSet → Except PatternError (List Charset)
  | [] => .ok []
  | member :: rest => do
    let set ← classSet flags member
    let sets ← classSets flags rest
    return set :: sets

end

/-- The set that the dot matches. -/
def dot (flags : Flags) : Except PatternError Charset :=
  if !flags.unicode then .error .notUtf8
  else if flags.dotMatchesNewline then .ok .full
  else if flags.carriageReturn then .ok (Charset.ofChars ['\n', '\r']).negate
  else .ok (Charset.singleton '\n').negate

/-- An assertion under the flags. -/
def look (flags : Flags) : Assertion → Look
  | .lineStart => if flags.multiLine then .lineStart flags.carriageReturn else .textStart
  | .lineEnd => if flags.multiLine then .lineEnd flags.carriageReturn else .textEnd
  | .textStart => .textStart
  | .textEnd => .textEnd
  | .wordBoundary => .wordBoundary flags.unicode
  | .notWordBoundary => .notWordBoundary flags.unicode
  | .wordStart => .wordStart flags.unicode
  | .wordEnd => .wordEnd flags.unicode
  | .wordStartHalf => .wordStartHalf flags.unicode
  | .wordEndHalf => .wordEndHalf flags.unicode

end Flags

namespace Node

mutual

/-- The least number of characters that a node matches. -/
def minLength : Node → Nat
  | .empty | .look _ => 0
  | .set _ => 1
  | .repetition least _ _ body => least * body.minLength
  | .capture _ body => body.minLength
  | .run parts => minLengths parts
  | .choice branches => (leastLength branches).getD 0

/-- The least number of characters that nodes in a row match. -/
def minLengths : List Node → Nat
  | [] => 0
  | part :: rest => part.minLength + minLengths rest

/-- The least number of characters that one of some nodes matches. -/
def leastLength : List Node → Option Nat
  | [] => none
  | branch :: rest =>
    match leastLength rest with
    | none => some branch.minLength
    | some least => some (min branch.minLength least)

end

mutual

/-- Whether a node matches the empty text at most. -/
def matchesOnlyEmpty : Node → Bool
  | .empty | .look _ => true
  | .set _ => false
  | .repetition _ most _ body => most = some 0 || body.matchesOnlyEmpty
  | .capture _ body => body.matchesOnlyEmpty
  | .run parts | .choice parts => allMatchOnlyEmpty parts

/-- Whether all nodes match the empty text at most. -/
def allMatchOnlyEmpty : List Node → Bool
  | [] => true
  | part :: rest => part.matchesOnlyEmpty && allMatchOnlyEmpty rest

end

/-- A repetition. To repeat what only matches the empty text is to match it once. -/
def repeated (least : Nat) (most : Option Nat) (greedy : Bool) (body : Node) : Node :=
  let (low, high) :=
    if body.matchesOnlyEmpty then (min least 1, some (min (most.getD 1) 1)) else (least, most)
  if high = some 0 then .empty
  else if low = 1 ∧ high = some 1 then body
  else .repetition low high greedy body

mutual

/-- The node of an expression, and the flags behind it. -/
def ofExpression (flags : Flags) : Expression → Except PatternError (Node × Flags)
  | .empty => .ok (.empty, flags)
  | .flags items => .ok (.empty, flags.update items)
  | .literal written => do
    let character ← flags.literal written
    return (.set (flags.fold (Charset.singleton character)), flags)
  | .dot => do
    let set ← flags.dot
    return (.set set, flags)
  | .assertion assertion => .ok (.look (flags.look assertion), flags)
  | .property negated name => do
    let set ← flags.property negated name
    return (.set set, flags)
  | .short negated kind => do
    let set ← flags.shortClass negated kind
    return (.set set, flags)
  | .bracketed negated body => do
    let set ← flags.classSet body
    let final ← flags.foldAndNegate negated set
    return (.set final, flags)
  | .repetition least most greedy body => do
    let (node, after) ← ofExpression flags body
    return (repeated least most (greedy != after.swapGreed) node, after)
  | .group (.capturing index) body => do
    let (node, _) ← ofExpression flags body
    return (.capture index node, flags)
  | .group (.plain items) body => do
    let (node, _) ← ofExpression (flags.update items) body
    return (node, flags)
  | .alternation branches => do
    let (nodes, after) ← ofExpressions flags branches
    return (.choice nodes, after)
  | .concatenation parts => do
    let (nodes, after) ← ofExpressions flags parts
    return (.run nodes, after)

/-- The nodes of expressions from left to right, and the flags behind them. -/
def ofExpressions (flags : Flags) :
    List Expression → Except PatternError (List Node × Flags)
  | [] => .ok ([], flags)
  | part :: rest => do
    let (node, next) ← ofExpression flags part
    let (nodes, after) ← ofExpressions next rest
    return (node :: nodes, after)

end

end Node

end Dashboard.Pattern
