import Dashboard.Command.Error
import Dashboard.Permission.Expression
import Dashboard.Permission.Reasons
import Dashboard.Query.Predicate
import Dashboard.Query.Printer

/-!
# Diagnoses

Commands that answer without a server: what a query means, and whether a permission
tree grants a path.
-/

namespace Dashboard.Command

/-- The data of the diagnosis of a query. -/
def queryData (query : Json) (fields : List String) : Json :=
  Json.ofMembers [("query", query), ("fields", .ofStrings fields)]

/-- Shows the tree and the fields of a query that can be compiled. -/
def describeQuery (engine : PatternEngine) (text : String) : Except CommandError Json :=
  match Query.parse text with
  | .error error => .error (.input (.query (.malformed error)))
  | .ok none => .ok (queryData .null [])
  | .ok (some query) =>
    match query.compile engine with
    | .error error => .error (.input (.query error))
    | .ok _ => .ok (queryData query.toJson query.fields)

/-- Reads the values of placeholders; without a text there are none. -/
def readPlaceholders : Option String → Except InputFault Permission.Placeholders
  | none => .ok []
  | some text =>
    match Json.parse? text with
    | some (.object members) => .ok members
    | some _ => .error .placeholdersNotObject
    | none => .error .placeholders

/-- Reads the parts of a question about a tree: the tree, the path and the values. -/
def readQuestion (tree path : String) (placeholders : Option String) :
    Except InputFault (Json × Permission.Path × Permission.Placeholders) :=
  match Json.parse? tree with
  | none => .error .tree
  | some tree =>
    match Permission.Path.parse path with
    | .error fault => .error (.path (.invalidPath path fault.message))
    | .ok path => (readPlaceholders placeholders).map fun values => (tree, path, values)

/-- Tells whether a tree grants a path, and what is missing. -/
def evaluatePermission (tree path : String) (placeholders : Option String) :
    Except CommandError Json :=
  match readQuestion tree path placeholders with
  | .error fault => .error (.input fault)
  | .ok (tree, path, values) =>
    let outcome := path.evaluate tree values
    let reasons := (path.reports outcome).foldl Permission.DenialReasons.report .empty
    .ok (Json.ofMembers
      [("allowed", .bool outcome.granted), ("reasons", .ofStrings reasons.toList)])

end Dashboard.Command
