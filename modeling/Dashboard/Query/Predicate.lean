import Dashboard.Json.Printer
import Dashboard.Pattern.Engine
import Dashboard.Query.Reader

/-!
# Predicates on records

A query becomes a predicate: each term is a pattern that is searched for in the
text of the innermost field around it. Groups change nothing.
-/

namespace Dashboard

/-- A condition on a record. -/
inductive Predicate where
  /-- The text of the field contains a match of the pattern. -/
  | contains (field : String) (pattern : Pattern)
  /-- Every child holds. -/
  | all (children : List Predicate)
  /-- Some child holds. -/
  | any (children : List Predicate)

namespace Predicate

/-- The text of a field of a record. A missing field, a null and a value that is no
object have none; a string is taken as it is, and other values in compact form. -/
def fieldText? (record : Json) (field : String) : Option String :=
  match record.get? field with
  | none | some .null => none
  | some (.string text) => some text
  | some value => some value.render

mutual

/-- Whether a record satisfies a predicate. -/
def holds (record : Json) : Predicate → Bool
  | .contains field pattern => (fieldText? record field).any pattern.isMatch
  | .all children => allHold record children
  | .any children => someHolds record children

/-- Whether a record satisfies every predicate of a list. -/
def allHold (record : Json) : List Predicate → Bool
  | [] => true
  | child :: rest => holds record child && allHold record rest

/-- Whether a record satisfies some predicate of a list. -/
def someHolds (record : Json) : List Predicate → Bool
  | [] => false
  | child :: rest => holds record child || someHolds record rest

end

end Predicate

namespace Query

/-- The predicate of a term in a scope. A missing scope counts before a pattern that
cannot be compiled. -/
def compileTerm (engine : PatternEngine) (scope : Option String) (value : String) :
    Except SearchError Predicate :=
  match scope with
  | none => .error (.unscopedTerm value)
  | some name =>
    match engine.compile value with
    | .ok pattern => .ok (.contains name pattern)
    | .error reason => .error (.invalidPattern value reason)

mutual

/-- The predicate of a query below a field, if there is one around it. -/
def compileIn (engine : PatternEngine) (scope : Option String) :
    Query → Except SearchError Predicate
  | .term value => compileTerm engine scope value
  | .field name body => compileIn engine (some name) body
  | .group body => compileIn engine scope body
  | .all children =>
    match compileAllIn engine scope children with
    | .ok predicates => .ok (.all predicates)
    | .error error => .error error
  | .any children =>
    match compileAllIn engine scope children with
    | .ok predicates => .ok (.any predicates)
    | .error error => .error error

/-- The predicates of a list of queries; the first error from the left counts. -/
def compileAllIn (engine : PatternEngine) (scope : Option String) :
    List Query → Except SearchError (List Predicate)
  | [] => .ok []
  | child :: rest =>
    match compileIn engine scope child with
    | .error error => .error error
    | .ok predicate =>
      match compileAllIn engine scope rest with
      | .error error => .error error
      | .ok predicates => .ok (predicate :: predicates)

end

/-- The predicate of a query. -/
def compile (engine : PatternEngine) (query : Query) : Except SearchError Predicate :=
  compileIn engine none query

/-- The predicate of a search text; `none` when the text asks for no filter. -/
def compileSearch (engine : PatternEngine) (text : String) :
    Except SearchError (Option Predicate) :=
  match parse text with
  | .error error => .error (.malformed error)
  | .ok none => .ok none
  | .ok (some query) =>
    match query.compile engine with
    | .ok predicate => .ok (some predicate)
    | .error error => .error error

end Query

end Dashboard
