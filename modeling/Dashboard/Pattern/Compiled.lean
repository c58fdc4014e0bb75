import Dashboard.Pattern.Engine
import Dashboard.Pattern.Footprint
import Dashboard.Pattern.Program

/-!
# The standard pattern engine

A pattern is compiled once from its text and then searched for anywhere in other
texts. Whether a text is a pattern, and what it matches, depend on nothing else.
-/

namespace Dashboard

namespace Pattern

/-- A matching program with the number of its captures. -/
structure Compiled where
  captures : Nat
  program : Array Instruction

mutual

/-- The largest index of a capture in an expression. -/
def Expression.captureCount : Expression → Nat
  | .group (.capturing index) body => max index body.captureCount
  | .group (.plain _) body | .repetition _ _ _ body => body.captureCount
  | .alternation parts | .concatenation parts => Expression.captureCounts parts
  | _ => 0

/-- The largest index of a capture in some expressions. -/
def Expression.captureCounts : List Expression → Nat
  | [] => 0
  | part :: rest => max part.captureCount (Expression.captureCounts rest)

end

namespace Compiled

/-- Compiles a text as a pattern. -/
def ofText (text : String) : Except PatternError Compiled := do
  let expression ← Expression.ofText text
  let (node, _) ← Node.ofExpression .initial expression
  if Footprint.bound node ≤ Footprint.limit / 2 || Footprint.isWithinLimit node then
    return ⟨expression.captureCount, Program.ofPattern node⟩
  else throw .tooLarge

/-- Whether a text contains a match. -/
def isMatch (pattern : Compiled) (text : String) : Bool :=
  (runFrom pattern.program 0 text.toList none 0 [] none).isSome

/-- The part of a text between two positions. -/
def part (characters : List Char) (start stop : Nat) : String :=
  String.ofList ((characters.drop start).take (stop - start))

/-- The captures of the first match in a text: the whole match, then the groups in
the order in which they open, each `none` when it took no part. -/
def firstMatch? (pattern : Compiled) (text : String) : Option (List (Option String)) :=
  let characters := text.toList
  (runFrom pattern.program (2 * (pattern.captures + 1)) characters none 0 [] none).map
    fun slots => (List.range (pattern.captures + 1)).map fun index =>
      match slots.getD (2 * index) none, slots.getD (2 * index + 1) none with
      | some start, some stop => some (part characters start stop)
      | _, _ => none

end Compiled

end Pattern

/-- Patterns as matching programs, found in time linear in the text. -/
def PatternEngine.standard : PatternEngine where
  compile text :=
    match Pattern.Compiled.ofText text with
    | .ok pattern => .ok ⟨text, pattern.isMatch, pattern.firstMatch?⟩
    | .error error => .error error.message

end Dashboard
