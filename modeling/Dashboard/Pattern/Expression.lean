/-!
# Pattern expressions

A search pattern as it is written: what each part is, before flags decide what
it means. Patterns have neither look-around nor back-references, so that a match
takes time linear in the text.
-/

namespace Dashboard.Pattern

/-- Why a text is not a pattern. -/
inductive PatternError where
  | lookAround
  | groupUnclosed
  | groupUnopened
  | groupName
  | unknownFlag
  | repeatedFlag
  | danglingNegation
  | flagsUnclosed
  | repetitionMissing
  | repetitionCount
  | escape
  | backReference
  | hexadecimal
  | propertyName
  | classUnclosed
  | classItem
  | classRange
  | wordBoundary
  | nestedTooDeep
  | notUtf8
  | notUnicode
  | tooLarge
  deriving DecidableEq, Repr

/-- What a pattern error says to a user. -/
def PatternError.message : PatternError → String
  | lookAround => "look-around is not supported"
  | groupUnclosed => "unclosed group"
  | groupUnopened => "unopened group"
  | groupName => "invalid capture group name"
  | unknownFlag => "unrecognized flag"
  | repeatedFlag => "duplicate flag"
  | danglingNegation => "dangling flag negation operator"
  | flagsUnclosed => "expected flag but got end of pattern"
  | repetitionMissing => "repetition operator missing expression"
  | repetitionCount => "invalid repetition count"
  | escape => "unrecognized escape sequence"
  | backReference => "backreferences are not supported"
  | hexadecimal => "invalid hexadecimal escape"
  | propertyName => "unknown character property"
  | classUnclosed => "unclosed character class"
  | classItem => "invalid item in character class"
  | classRange => "invalid character class range"
  | wordBoundary => "invalid word boundary assertion"
  | nestedTooDeep => "pattern nested too deeply"
  | notUtf8 => "pattern can match invalid UTF-8"
  | notUnicode => "Unicode not allowed here"
  | tooLarge => "compiled pattern exceeds the size limit"

/-- A flag of a pattern. -/
inductive Flag where
  | ignoreCase
  | multiLine
  | dotMatchesNewline
  | swapGreed
  | unicode
  | carriageReturn
  | ignoreBlanks
  deriving DecidableEq, Repr

/-- An item of a list of flags: a flag, or the sign behind which flags are unset. -/
inductive FlagItem where
  | negation
  | flag (flag : Flag)
  deriving DecidableEq, Repr

/-- What a list of flags says about one flag, if it names it. -/
def flagState (wanted : Flag) : Bool → List FlagItem → Option Bool
  | _, [] => none
  | _, .negation :: rest => flagState wanted true rest
  | negated, .flag flag :: rest =>
    if flag = wanted then some (!negated) else flagState wanted negated rest

/-- The classes with a one-letter escape. -/
inductive ShortClass where
  | digit
  | blank
  | word
  deriving DecidableEq, Repr

/-- A character as it is written: the octet forms `\xHH` may stand for a byte. -/
structure Literal where
  character : Char
  isOctet : Bool
  deriving DecidableEq, Repr

/-- A named property, alone or with a value. -/
inductive PropertyName where
  | alone (name : String)
  | valued (name : String) (value : String)
  deriving DecidableEq, Repr

/-- An assertion about a position. -/
inductive Assertion where
  | lineStart
  | lineEnd
  | textStart
  | textEnd
  | wordBoundary
  | notWordBoundary
  | wordStart
  | wordEnd
  | wordStartHalf
  | wordEndHalf
  deriving DecidableEq, Repr

/-- An operator between two sets of a bracketed class. -/
inductive SetOperator where
  | intersection
  | difference
  | symmetricDifference
  deriving DecidableEq, Repr

/-- The set of a bracketed class. -/
inductive ClassSet where
  | empty
  | literal (literal : Literal)
  | range (lower upper : Literal)
  | named (negated : Bool) (ranges : List (Nat × Nat))
  | property (negated : Bool) (name : PropertyName)
  | short (negated : Bool) (kind : ShortClass)
  | bracketed (negated : Bool) (body : ClassSet)
  | union (members : List ClassSet)
  | binary (operator : SetOperator) (left right : ClassSet)
  deriving Repr, Inhabited

/-- What a group is for. -/
inductive GroupKind where
  | capturing (index : Nat)
  | plain (flags : List FlagItem)
  deriving DecidableEq, Repr

/-- A pattern as it is written. -/
inductive Expression where
  | empty
  | flags (items : List FlagItem)
  | literal (literal : Literal)
  | dot
  | assertion (assertion : Assertion)
  | property (negated : Bool) (name : PropertyName)
  | short (negated : Bool) (kind : ShortClass)
  | bracketed (negated : Bool) (set : ClassSet)
  | repetition (least : Nat) (most : Option Nat) (greedy : Bool) (body : Expression)
  | group (kind : GroupKind) (body : Expression)
  | alternation (branches : List Expression)
  | concatenation (parts : List Expression)
  deriving Repr, Inhabited

mutual

/-- The nesting of a class: brackets, unions and operators count. -/
def ClassSet.depth : ClassSet → Nat
  | .bracketed _ body => body.depth + 1
  | .union members => ClassSet.depths members + 1
  | .binary _ left right => max left.depth right.depth + 1
  | _ => 0

/-- The deepest nesting in a list of classes. -/
def ClassSet.depths : List ClassSet → Nat
  | [] => 0
  | member :: rest => max member.depth (ClassSet.depths rest)

end

mutual

/-- The nesting of an expression: all that holds other expressions counts. -/
def Expression.depth : Expression → Nat
  | .bracketed _ set => set.depth + 1
  | .repetition _ _ _ body => body.depth + 1
  | .group _ body => body.depth + 1
  | .alternation branches => Expression.depths branches + 1
  | .concatenation parts => Expression.depths parts + 1
  | _ => 0

/-- The deepest nesting in a list of expressions. -/
def Expression.depths : List Expression → Nat
  | [] => 0
  | part :: rest => max part.depth (Expression.depths rest)

end

/-- The deepest nesting that a pattern may have. -/
def maxNesting : Nat := 250

namespace Expression

/-- A run of expressions; none is the empty one, and one stands for itself. -/
def ofParts : List Expression → Expression
  | [] => .empty
  | [part] => part
  | parts => .concatenation parts

end Expression

end Dashboard.Pattern
