import Dashboard.Query.Tree

/-!
# Terms and the fields around them

A query is a tree over its terms, and each term belongs to the innermost field around it.
`Query.terms` reads them off from left to right, and `Query.induction` is the principle by
which statements on queries go down to the children of a list.
-/

namespace Dashboard.Query

/-- A statement holds of every query when it holds of each as soon as it holds of its parts. -/
@[elab_as_elim]
theorem induction {motive : Query → Prop} (term : ∀ value, motive (.term value))
    (field : ∀ name body, motive body → motive (.field name body))
    (group : ∀ body, motive body → motive (.group body))
    (all : ∀ children, (∀ child ∈ children, motive child) → motive (.all children))
    (any : ∀ children, (∀ child ∈ children, motive child) → motive (.any children))
    (query : Query) : motive query :=
  Query.rec (motive_2 := fun children => ∀ child ∈ children, motive child)
    term field group all any (by simp)
    (fun _ _ first others => List.forall_mem_cons.mpr ⟨first, others⟩) query

/-- A term with the innermost field around it, if there is one. -/
structure ScopedTerm where
  scope : Option String
  value : String
  deriving DecidableEq, Repr

mutual

/-- The terms of a query from left to right, in a scope around the query. -/
def termsIn (scope : Option String) : Query → List ScopedTerm
  | .term value => [⟨scope, value⟩]
  | .field name body => termsIn (some name) body
  | .group body => termsIn scope body
  | .all children | .any children => termsOfAll scope children

/-- The terms of some queries, one query after the other. -/
def termsOfAll (scope : Option String) : List Query → List ScopedTerm
  | [] => []
  | child :: rest => termsIn scope child ++ termsOfAll scope rest

end

/-- The terms of a query from left to right. -/
def terms (query : Query) : List ScopedTerm := termsIn none query

theorem termsOfAll_eq_flatMap (scope : Option String) (children : List Query) :
    termsOfAll scope children = children.flatMap (termsIn scope) := by
  induction children with
  | nil => rfl
  | cons child rest inductionHypothesis => simp [termsOfAll, inductionHypothesis]

end Dashboard.Query
