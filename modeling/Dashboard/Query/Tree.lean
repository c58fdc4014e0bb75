/-!
# Query trees

A query says which records match: terms are compared with the field in scope,
fields set the scope for their body, and groups keep the parentheses of the text.
-/

namespace Dashboard

/-- A parsed query. -/
inductive Query where
  /-- A pattern for the field in scope. -/
  | term (value : String)
  /-- Sets the field in scope for its body. -/
  | field (name : String) (body : Query)
  /-- A parenthesised query; it keeps the scope around it. -/
  | group (body : Query)
  /-- Every child must hold. -/
  | all (children : List Query)
  /-- Some child must hold. -/
  | any (children : List Query)
  deriving Repr, Inhabited

namespace Query

/-- A conjunction; a single child stands for itself. -/
def conjunction : List Query → Query
  | [child] => child
  | children => .all children

/-- A disjunction; a single child stands for itself. -/
def disjunction : List Query → Query
  | [child] => child
  | children => .any children

/-- Adds a name at the end unless it is there already. -/
def addName (names : List String) (name : String) : List String :=
  if names.contains name then names else names ++ [name]

mutual

/-- The names collected so far, followed by the new field names of a query in the
order in which a reader meets them. -/
def collectFields (names : List String) : Query → List String
  | .term _ => names
  | .field name body => collectFields (addName names name) body
  | .group body => collectFields names body
  | .all children | .any children => collectFieldsAll names children

/-- The same over a list of queries, from left to right. -/
def collectFieldsAll (names : List String) : List Query → List String
  | [] => names
  | child :: rest => collectFieldsAll (collectFields names child) rest

end

/-- The names of the fields of a query, each once, in order of first appearance. -/
def fields (query : Query) : List String := collectFields [] query

mutual

/-- Equality of queries is decided child by child. -/
def decideEq : (left right : Query) → Decidable (left = right)
  | .term left, .term right => decidable_of_iff (left = right) (by simp)
  | .field leftName left, .field rightName right =>
    match decEq leftName rightName, decideEq left right with
    | isTrue names, isTrue same => isTrue (by rw [names, same])
    | isFalse differ, _ => isFalse (by simp [differ])
    | _, isFalse differ => isFalse (by simp [differ])
  | .group left, .group right =>
    match decideEq left right with
    | isTrue same => isTrue (by rw [same])
    | isFalse differ => isFalse (by simpa using differ)
  | .all left, .all right =>
    match decideAllEq left right with
    | isTrue same => isTrue (by rw [same])
    | isFalse differ => isFalse (by simpa using differ)
  | .any left, .any right =>
    match decideAllEq left right with
    | isTrue same => isTrue (by rw [same])
    | isFalse differ => isFalse (by simpa using differ)
  | .term _, .field _ _ | .term _, .group _ | .term _, .all _ | .term _, .any _
  | .field _ _, .term _ | .field _ _, .group _ | .field _ _, .all _ | .field _ _, .any _
  | .group _, .term _ | .group _, .field _ _ | .group _, .all _ | .group _, .any _
  | .all _, .term _ | .all _, .field _ _ | .all _, .group _ | .all _, .any _
  | .any _, .term _ | .any _, .field _ _ | .any _, .group _ | .any _, .all _ =>
    isFalse (by simp)

/-- Equality of two lists of queries. -/
def decideAllEq : (left right : List Query) → Decidable (left = right)
  | [], [] => isTrue rfl
  | [], _ :: _ | _ :: _, [] => isFalse (by simp)
  | left :: lefts, right :: rights =>
    match decideEq left right, decideAllEq lefts rights with
    | isTrue same, isTrue others => isTrue (by rw [same, others])
    | isFalse differ, _ => isFalse (by simp [differ])
    | _, isFalse differ => isFalse (by simp [differ])

end

instance : DecidableEq Query := decideEq

end Query

end Dashboard
