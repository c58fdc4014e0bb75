import Dashboard.Proofs.Query.Scope
import Dashboard.Proofs.Query.Spelling

/-!
# The trees that queries can have

What `Query.parse` builds, apart from any text: every term has a field around it, each node
joins the kinds of parts that the grammar gives it, and the groups nest only so deep.
`wellFormedIn_iff` reduces all of that to a node and the parts directly below it, which is
how proofs go along a derivation and down a tree.
-/

namespace Dashboard.Query

/-- The parts directly below a query. -/
def children : Query → List Query
  | .term _ => []
  | .field _ body | .group body => [body]
  | .all children | .any children => children

/-- A query itself and everything below it. -/
inductive PartOf : Query → Query → Prop where
  | self {query} : PartOf query query
  | child {part child query} (isChild : child ∈ query.children) (inside : PartOf part child) :
      PartOf part query

/-- A way from a query down to a part that has nothing below it. -/
inductive WayDown : Query → List Query → Prop where
  | leaf {query} (noChild : query.children = []) : WayDown query [query]
  | down {query child way} (isChild : child ∈ query.children) (further : WayDown child way) :
      WayDown query (query :: way)

/-- Whether a query is a group. -/
def isGroup : Query → Bool
  | .group _ => true
  | .term _ | .field _ _ | .all _ | .any _ => false

/-- Whether a query sets the field in scope. -/
def isField : Query → Bool
  | .field _ _ => true
  | .term _ | .group _ | .all _ | .any _ => false

/-- What can follow a colon: a term or a group. -/
def IsOperand (query : Query) : Prop :=
  (∃ value, query = .term value) ∨ ∃ body, query = .group body

/-- What can stand between two `AND`: anything but a conjunction or a disjunction. -/
def IsUnary (query : Query) : Prop :=
  ∀ children, query ≠ .all children ∧ query ≠ .any children

/-- What can stand between two `OR`: anything but a disjunction. -/
def IsConjunction (query : Query) : Prop := ∀ children, query ≠ .any children

/-- A node joins parts as the grammar does. -/
inductive NodeFormed : Query → Prop where
  | term {value} : NodeFormed (.term value)
  | field {name body} (isName : IsName name) (operand : body.IsOperand) :
      NodeFormed (.field name body)
  | group {body} : NodeFormed (.group body)
  | all {children} (several : 2 ≤ children.length) (unary : ∀ child ∈ children, child.IsUnary) :
      NodeFormed (.all children)
  | any {children} (several : 2 ≤ children.length)
      (conjunction : ∀ child ∈ children, child.IsConjunction) : NodeFormed (.any children)

/-- A tree that a text can have: each term has a field around it, each node joins parts as the
grammar does, and no way down goes through more than `maxDepth` groups. -/
structure WellFormed (query : Query) : Prop where
  terms : ∀ term ∈ query.terms, term.scope ≠ none
  nodes : ∀ part, PartOf part query → part.NodeFormed
  depth : ∀ way, WayDown query way → way.countP isGroup ≤ maxDepth

/-- The same of a part of a tree, inside a field or not and inside a number of groups. -/
structure WellFormedIn (inField : Bool) (opened : Nat) (query : Query) : Prop where
  terms : inField = false → ∀ term ∈ query.terms, term.scope ≠ none
  nodes : ∀ part, PartOf part query → part.NodeFormed
  depth : ∀ way, WayDown query way → opened + way.countP isGroup ≤ maxDepth

/-- A query is well-formed when it is so outside of fields and groups. -/
theorem wellFormedIn_false_iff {query : Query} :
    query.WellFormedIn false 0 ↔ query.WellFormed := by
  constructor
  · rintro ⟨terms, nodes, depth⟩
    exact ⟨terms rfl, nodes, by simpa using depth⟩
  · rintro ⟨terms, nodes, depth⟩
    exact ⟨fun _ => terms, nodes, by simpa using depth⟩

section Below

variable {scope : Option String} {inField : Bool} {opened : Nat} {query part : Query}

/-- The scope that a query gives to the parts below it. -/
def scopeBelow (scope : Option String) : Query → Option String
  | .field name _ => some name
  | .term _ | .group _ | .all _ | .any _ => scope

/-- The parts of a query are itself and the parts of its children. -/
theorem partOf_iff :
    PartOf part query ↔ part = query ∨ ∃ child ∈ query.children, PartOf part child := by
  constructor
  · intro isPart
    cases isPart with
    | self => exact .inl rfl
    | child isChild inside => exact .inr ⟨_, isChild, inside⟩
  · rintro (rfl | ⟨child, isChild, inside⟩)
    · exact .self
    · exact .child isChild inside

/-- The terms of a query are itself, if it is one, and the terms of its children. -/
theorem mem_termsIn_iff {term : ScopedTerm} :
    term ∈ query.termsIn scope ↔ (∃ value, query = .term value ∧ term = ⟨scope, value⟩) ∨
      ∃ child ∈ query.children, term ∈ child.termsIn (query.scopeBelow scope) := by
  cases query <;> simp [termsIn, termsOfAll_eq_flatMap, children, scopeBelow]

/-- Below a field every term is in scope. -/
theorem scope_ne_none_of_mem_termsIn (inScope : scope ≠ none) {term : ScopedTerm}
    (isTerm : term ∈ query.termsIn scope) : term.scope ≠ none := by
  induction query using Query.induction generalizing scope with
  | term value =>
    cases List.mem_singleton.mp isTerm
    exact inScope
  | field name body inductionHypothesis => exact inductionHypothesis (by simp) isTerm
  | group body inductionHypothesis => exact inductionHypothesis inScope isTerm
  | all children inductionHypothesis | any children inductionHypothesis =>
    rw [termsIn, termsOfAll_eq_flatMap] at isTerm
    obtain ⟨child, isChild, isBelow⟩ := List.mem_flatMap.mp isTerm
    exact inductionHypothesis child isChild inScope isBelow

/-- Every query has a way down. -/
theorem exists_wayDown (query : Query) : ∃ way, WayDown query way := by
  induction query using Query.induction with
  | term value => exact ⟨_, .leaf rfl⟩
  | field _ body inductionHypothesis | group body inductionHypothesis =>
    obtain ⟨way, further⟩ := inductionHypothesis
    exact ⟨_, .down (List.mem_singleton_self body) further⟩
  | all children inductionHypothesis | any children inductionHypothesis =>
    cases children with
    | nil => exact ⟨_, .leaf rfl⟩
    | cons first rest =>
      obtain ⟨way, further⟩ := inductionHypothesis first (by simp)
      exact ⟨_, .down (by simp [Query.children]) further⟩

/-- There is room for the groups that are open around a well-formed part. -/
theorem WellFormedIn.room (wellFormed : query.WellFormedIn inField opened) : opened ≤ maxDepth := by
  obtain ⟨way, isWay⟩ := exists_wayDown query
  have bound := wellFormed.depth way isWay
  omega

/-- A query without children is no group. -/
theorem isGroup_of_leaf (noChild : query.children = []) : query.isGroup = false := by
  cases query with
  | group body => cases noChild
  | term _ | field _ _ | all _ | any _ => rfl

/-- A query that is no field keeps the terms below it as they are. -/
theorem mem_terms_of_child (noField : query.isField = false) {child : Query}
    (isChild : child ∈ query.children) {term : ScopedTerm} (isTerm : term ∈ child.terms) :
    term ∈ query.terms := by
  refine mem_termsIn_iff.mpr (.inr ⟨child, isChild, ?_⟩)
  cases query with
  | field name body => cases noField
  | term _ | group _ | all _ | any _ => exact isTerm

/-- A tree is well formed when its root is and the parts directly below it are. -/
theorem wellFormedIn_iff :
    query.WellFormedIn inField opened ↔
      (∀ value, query = .term value → inField = true) ∧ query.NodeFormed ∧ opened ≤ maxDepth ∧
        ∀ child ∈ query.children,
          child.WellFormedIn (inField || query.isField) (opened + query.isGroup.toNat) := by
  constructor
  · intro wellFormed
    refine ⟨?_, wellFormed.nodes query .self, wellFormed.room, fun child isChild => ⟨?_, ?_, ?_⟩⟩
    · rintro value rfl
      cases inField with
      | true => rfl
      | false => exact absurd rfl (wellFormed.terms rfl ⟨none, value⟩ (by simp [terms, termsIn]))
    · intro unscoped term isTerm
      obtain ⟨outside, noField⟩ := Bool.or_eq_false_iff.mp unscoped
      exact wellFormed.terms outside term (mem_terms_of_child noField isChild isTerm)
    · intro part isPart
      exact wellFormed.nodes part (.child isChild isPart)
    · intro way isWay
      have bound := wellFormed.depth (query :: way) (.down isChild isWay)
      rw [List.countP_cons] at bound
      cases isGroup : query.isGroup <;> simp [isGroup] at bound ⊢ <;> omega
  · rintro ⟨ofTerm, ofRoot, room, ofChildren⟩
    refine ⟨fun outside term isTerm => ?_, fun part isPart => ?_, fun way isWay => ?_⟩
    · rcases mem_termsIn_iff.mp isTerm with ⟨value, isRoot, rfl⟩ | ⟨child, isChild, isBelow⟩
      · simp [ofTerm value isRoot] at outside
      · -- A field is a scope for everything below it; other roots leave the scope as it is.
        have ofChild := (ofChildren child isChild).terms
        cases query with
        | field name body => exact scope_ne_none_of_mem_termsIn (by simp [scopeBelow]) isBelow
        | term _ | group _ | all _ | any _ =>
          exact ofChild (by simp [outside, isField]) term isBelow
    · rcases partOf_iff.mp isPart with rfl | ⟨child, isChild, isBelow⟩
      · exact ofRoot
      · exact (ofChildren child isChild).nodes part isBelow
    · cases isWay with
      | leaf noChild => simpa [isGroup_of_leaf noChild] using room
      | @down _ child way isChild further =>
        have bound := (ofChildren child isChild).depth way further
        rw [List.countP_cons]
        cases isGroup : query.isGroup <;> simp [isGroup] at bound ⊢ <;> omega

/-- A term needs a field around it. -/
theorem wellFormedIn_term_iff {value : String} :
    WellFormedIn inField opened (.term value) ↔ inField = true ∧ opened ≤ maxDepth := by
  rw [wellFormedIn_iff]
  constructor
  · rintro ⟨ofTerm, -, room, -⟩
    exact ⟨ofTerm value rfl, room⟩
  · rintro ⟨inside, room⟩
    exact ⟨fun _ _ => inside, .term, room, by simp [children]⟩

/-- A field is a scope for its operand, wherever it stands. -/
theorem wellFormedIn_field_iff {name : String} {body : Query} :
    WellFormedIn inField opened (.field name body) ↔
      IsName name ∧ body.IsOperand ∧ body.WellFormedIn true opened := by
  rw [wellFormedIn_iff]
  constructor
  · rintro ⟨-, formed, -, ofChildren⟩
    cases formed with
    | field isName operand =>
      have ofBody := ofChildren body (List.mem_singleton_self body)
      exact ⟨isName, operand, by simpa [isField, isGroup] using ofBody⟩
  · rintro ⟨isName, operand, ofBody⟩
    refine ⟨by simp, .field isName operand, ofBody.room, fun child isChild => ?_⟩
    cases List.mem_singleton.mp isChild
    simpa [isField, isGroup] using ofBody

/-- A group keeps the scope and takes one place of the depth. -/
theorem wellFormedIn_group_iff {body : Query} :
    WellFormedIn inField opened (.group body) ↔ body.WellFormedIn inField (opened + 1) := by
  rw [wellFormedIn_iff]
  constructor
  · rintro ⟨-, -, -, ofChildren⟩
    have ofBody := ofChildren body (List.mem_singleton_self body)
    simpa [isField, isGroup] using ofBody
  · intro ofBody
    have room := ofBody.room
    refine ⟨by simp, .group, by omega, fun child isChild => ?_⟩
    cases List.mem_singleton.mp isChild
    simpa [isField, isGroup] using ofBody

/-- A conjunction has at least two parts, none of them a conjunction or a disjunction. -/
theorem wellFormedIn_all_iff {children : List Query} :
    WellFormedIn inField opened (.all children) ↔
      2 ≤ children.length ∧
        ∀ child ∈ children, child.IsUnary ∧ child.WellFormedIn inField opened := by
  rw [wellFormedIn_iff, isField, Bool.or_false]
  constructor
  · rintro ⟨-, formed, -, ofChildren⟩
    cases formed with
    | all several unary =>
      exact ⟨several, fun child isChild => ⟨unary child isChild, ofChildren child isChild⟩⟩
  · rintro ⟨several, each⟩
    obtain ⟨first, isFirst⟩ := List.exists_mem_of_length_pos (by omega : 0 < children.length)
    exact ⟨by simp, .all several fun child isChild => (each child isChild).1,
      (each first isFirst).2.room, fun child isChild => (each child isChild).2⟩

/-- A disjunction has at least two parts, none of them a disjunction. -/
theorem wellFormedIn_any_iff {children : List Query} :
    WellFormedIn inField opened (.any children) ↔
      2 ≤ children.length ∧
        ∀ child ∈ children, child.IsConjunction ∧ child.WellFormedIn inField opened := by
  rw [wellFormedIn_iff, isField, Bool.or_false]
  constructor
  · rintro ⟨-, formed, -, ofChildren⟩
    cases formed with
    | any several conjunction =>
      exact ⟨several,
        fun child isChild => ⟨conjunction child isChild, ofChildren child isChild⟩⟩
  · rintro ⟨several, each⟩
    obtain ⟨first, isFirst⟩ := List.exists_mem_of_length_pos (by omega : 0 < children.length)
    exact ⟨by simp, .any several fun child isChild => (each child isChild).1,
      (each first isFirst).2.room, fun child isChild => (each child isChild).2⟩

end Below

end Dashboard.Query
