import Dashboard.Query.Predicate

/-!
# Queries as documents

The form in which a query is shown to a user: an object for each node that names its
type and holds its parts. A predicate is shown as its patterns with their fields.
-/

namespace Dashboard

namespace Query

mutual

/-- The form of a query in a document. -/
def toJson : Query → Json
  | .term value => Json.ofMembers [("type", .string "term"), ("value", .string value)]
  | .field name body =>
    Json.ofMembers [("type", .string "field"), ("name", .string name), ("expr", toJson body)]
  | .group body => Json.ofMembers [("type", .string "group"), ("expr", toJson body)]
  | .all children =>
    Json.ofMembers [("type", .string "and"), ("children", .array (allToJson children))]
  | .any children =>
    Json.ofMembers [("type", .string "or"), ("children", .array (allToJson children))]

/-- The forms of queries, in their order. -/
def allToJson : List Query → List Json
  | [] => []
  | child :: rest => toJson child :: allToJson rest

end

end Query

namespace Predicate

mutual

/-- The form of a predicate in a document. -/
def toJson : Predicate → Json
  | .contains field pattern =>
    Json.ofMembers [("match", Json.ofStrings [field, pattern.text])]
  | .all children => Json.ofMembers [("all", .array (allToJson children))]
  | .any children => Json.ofMembers [("any", .array (allToJson children))]

/-- The forms of predicates, in their order. -/
def allToJson : List Predicate → List Json
  | [] => []
  | child :: rest => toJson child :: allToJson rest

end

end Predicate

end Dashboard
