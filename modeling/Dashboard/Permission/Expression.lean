import Dashboard.Permission.Reasons
import Dashboard.Permission.Resolver
import Dashboard.Text.Quoted

/-!
# Permission expressions

Checks composed with "and" and "or". Both operands are always evaluated, so that
the caller learns every missing capability and not only the first.
-/

namespace Dashboard.Permission

/-- A check against a permission tree. -/
inductive Expression where
  /-- A path, with a way to obtain the values of its placeholders. -/
  | path (path : Path) (resolver : Option Resolver)
  | and (left right : Expression)
  | or (left right : Expression)

namespace Expression

/-- The check of a path given as text. -/
def ofPath (text : String) (resolver : Option Resolver) : Except PermissionError Expression :=
  match Path.parse text with
  | .ok parsed => .ok (.path parsed resolver)
  | .error fault => .error (.invalidPath text fault.message)

/-- The values for a path. A path without placeholders does not ask its resolver. -/
def valuesFor (target : Path) (resolver : Option Resolver) (context : RequestContext) :
    Except PermissionError Placeholders :=
  match resolver with
  | some resolve => if target.hasPlaceholders then resolve context else .ok []
  | none => .ok []

/-- Checks an expression against a tree. The sink is a state that takes reports; it
is returned also when the check fails, with all that was reported before. -/
def check {σ : Type} (report : σ → String → σ) (tree : Json) (context : RequestContext) :
    Expression → σ → Except PermissionError Bool × σ
  | .path target resolver, sink =>
    match valuesFor target resolver context with
    | .error error => (.error error, sink)
    | .ok values =>
      let outcome := target.evaluate tree values
      (.ok outcome.granted, (target.reports outcome).foldl report sink)
  | .and left right, sink =>
    match check report tree context left sink with
    | (.error error, reported) => (.error error, reported)
    | (.ok first, reported) =>
      match check report tree context right reported with
      | (.error error, final) => (.error error, final)
      | (.ok second, final) => (.ok (first && second), final)
  | .or left right, sink =>
    match check report tree context left sink with
    | (.error error, reported) => (.error error, reported)
    | (.ok first, reported) =>
      match check report tree context right reported with
      | (.error error, final) => (.error error, final)
      | (.ok second, final) => (.ok (first || second), final)

/-- The texts of the paths from left to right. -/
def paths : Expression → List String
  | .path target _ => [target.text]
  | .and left right | .or left right => left.paths ++ right.paths

/-- An expression with its operators between the operands. -/
def text : Expression → String
  | .path target _ => target.text
  | .and left right => "(" ++ left.text ++ " & " ++ right.text ++ ")"
  | .or left right => "(" ++ left.text ++ " | " ++ right.text ++ ")"

/-- An expression as a term of constructors, for diagnosis. -/
def structureText : Expression → String
  | .path target resolver =>
    "Path \x7b path: " ++ Text.quoted target.text ++ ", resolver: " ++
      (if resolver.isSome then "true" else "false") ++ " \x7d"
  | .and left right => "And(" ++ left.structureText ++ ", " ++ right.structureText ++ ")"
  | .or left right => "Or(" ++ left.structureText ++ ", " ++ right.structureText ++ ")"

end Expression

end Dashboard.Permission
