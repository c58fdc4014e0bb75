import Dashboard.Query.Token
import Dashboard.Query.Tree

/-!
# The grammar of queries

The derivations of the grammar, apart from any reader: which runs of token kinds
stand for which trees.

```text
or      := and ("OR" and)*
and     := unary ("AND" unary)*
unary   := WORD ":" operand | "(" or ")" | WORD | QUOTED
operand := WORD | QUOTED | "(" or ")"
```

A bare value is a unary only where a field is in scope. `Sentence` is the language
of whole queries; `Sentence.joinedByAnd` and `Sentence.joinedByOr` say that groups
beside each other never use up the nesting that one of them may have.
-/

namespace Dashboard.Query

/-- What a run of tokens stands for. `inField` says that a field is in scope; the
children of a run of operands are kept apart until its one tree is built. -/
inductive Phrase where
  | operand (query : Query)
  | unary (inField : Bool) (query : Query)
  | conjuncts (inField : Bool) (children : List Query)
  | conjunction (inField : Bool) (query : Query)
  | clauses (inField : Bool) (children : List Query)
  | disjunction (inField : Bool) (query : Query)

/-- `Derives opened phrase kinds`: inside `opened` open parentheses the kinds stand for
the phrase. Only a parenthesis opens one more level, and only below `maxDepth`. -/
inductive Derives : Nat → Phrase → List TokenKind → Prop where
  | operandWord {opened text} : Derives opened (.operand (.term text)) [.word text]
  | operandQuoted {opened text} : Derives opened (.operand (.term text)) [.quoted text]
  | operandGroup {opened query kinds} (room : opened < maxDepth)
      (body : Derives (opened + 1) (.disjunction true query) kinds) :
      Derives opened (.operand (.group query))
        (.openParenthesis :: kinds ++ [.closeParenthesis])
  | word {opened text} : Derives opened (.unary true (.term text)) [.word text]
  | quoted {opened text} : Derives opened (.unary true (.term text)) [.quoted text]
  | field {opened inField name query kinds} (body : Derives opened (.operand query) kinds) :
      Derives opened (.unary inField (.field name query)) (.word name :: .colon :: kinds)
  | group {opened inField query kinds} (room : opened < maxDepth)
      (body : Derives (opened + 1) (.disjunction inField query) kinds) :
      Derives opened (.unary inField (.group query))
        (.openParenthesis :: kinds ++ [.closeParenthesis])
  | firstConjunct {opened inField query kinds}
      (only : Derives opened (.unary inField query) kinds) :
      Derives opened (.conjuncts inField [query]) kinds
  | nextConjunct {opened inField children query kinds more}
      (prior : Derives opened (.conjuncts inField children) kinds)
      (last : Derives opened (.unary inField query) more) :
      Derives opened (.conjuncts inField (children ++ [query])) (kinds ++ .and :: more)
  | loneConjunct {opened inField query kinds}
      (only : Derives opened (.conjuncts inField [query]) kinds) :
      Derives opened (.conjunction inField query) kinds
  | manyConjuncts {opened inField first second others kinds}
      (run : Derives opened (.conjuncts inField (first :: second :: others)) kinds) :
      Derives opened (.conjunction inField (.all (first :: second :: others))) kinds
  | firstClause {opened inField query kinds}
      (only : Derives opened (.conjunction inField query) kinds) :
      Derives opened (.clauses inField [query]) kinds
  | nextClause {opened inField children query kinds more}
      (prior : Derives opened (.clauses inField children) kinds)
      (last : Derives opened (.conjunction inField query) more) :
      Derives opened (.clauses inField (children ++ [query])) (kinds ++ .or :: more)
  | loneClause {opened inField query kinds}
      (only : Derives opened (.clauses inField [query]) kinds) :
      Derives opened (.disjunction inField query) kinds
  | manyClauses {opened inField first second others kinds}
      (run : Derives opened (.clauses inField (first :: second :: others)) kinds) :
      Derives opened (.disjunction inField (.any (first :: second :: others))) kinds

/-- The kinds of a whole query: no parenthesis is open around it and no field is in
scope. -/
def Sentence (kinds : List TokenKind) (query : Query) : Prop :=
  Derives 0 (.disjunction false query) kinds

namespace Derives

variable {opened : Nat} {inField : Bool} {children : List Query} {query : Query}
  {kinds : List TokenKind}

/-- A run of conjuncts is never empty. -/
theorem conjuncts_ne_nil (run : Derives opened (.conjuncts inField children) kinds) :
    children ≠ [] := by
  cases run with
  | firstConjunct _ => simp
  | nextConjunct _ _ => simp

/-- A run of clauses is never empty. -/
theorem clauses_ne_nil (run : Derives opened (.clauses inField children) kinds) :
    children ≠ [] := by
  cases run with
  | firstClause _ => simp
  | nextClause _ _ => simp

/-- The tree of a run of conjuncts is the conjunction that the reader builds. -/
theorem toConjunction (run : Derives opened (.conjuncts inField children) kinds) :
    Derives opened (.conjunction inField (Query.conjunction children)) kinds := by
  cases children with
  | nil => exact absurd rfl run.conjuncts_ne_nil
  | cons first rest =>
    cases rest with
    | nil => exact .loneConjunct run
    | cons second others => exact .manyConjuncts run

/-- The tree of a run of clauses is the disjunction that the reader builds. -/
theorem toDisjunction (run : Derives opened (.clauses inField children) kinds) :
    Derives opened (.disjunction inField (Query.disjunction children)) kinds := by
  cases children with
  | nil => exact absurd rfl run.clauses_ne_nil
  | cons first rest =>
    cases rest with
    | nil => exact .loneClause run
    | cons second others => exact .manyClauses run

/-- A run of one conjunct is that conjunct. -/
theorem ofSingleConjunct (run : Derives opened (.conjuncts inField children) kinds)
    (single : children = [query]) : Derives opened (.unary inField query) kinds := by
  cases run with
  | firstConjunct only =>
    cases single
    exact only
  | nextConjunct prior _ =>
    have lengths := congrArg List.length single
    simp only [List.length_append, List.length_singleton, Nat.add_eq_right,
      List.length_eq_zero_iff] at lengths
    exact absurd lengths prior.conjuncts_ne_nil

/-- A run of one clause is that clause. -/
theorem ofSingleClause (run : Derives opened (.clauses inField children) kinds)
    (single : children = [query]) : Derives opened (.conjunction inField query) kinds := by
  cases run with
  | firstClause only =>
    cases single
    exact only
  | nextClause prior _ =>
    have lengths := congrArg List.length single
    simp only [List.length_append, List.length_singleton, Nat.add_eq_right,
      List.length_eq_zero_iff] at lengths
    exact absurd lengths prior.clauses_ne_nil

/-- A whole phrase whose tree is a group is one parenthesised unary. -/
theorem unaryOfGroup (tree : Derives opened (.disjunction inField (.group query)) kinds) :
    Derives opened (.unary inField (.group query)) kinds := by
  cases tree with
  | loneClause clause =>
    cases clause.ofSingleClause rfl with
    | loneConjunct conjunct => exact conjunct.ofSingleConjunct rfl

/-- More conjuncts behind a run, each behind its own `AND`. -/
theorem conjuncts_append (run : Derives opened (.conjuncts inField children) kinds)
    (others : List (List TokenKind × Query))
    (each : ∀ other ∈ others, Derives opened (.unary inField other.2) other.1) :
    Derives opened (.conjuncts inField (children ++ others.map Prod.snd))
      (kinds ++ others.flatMap fun other => .and :: other.1) := by
  induction others generalizing children kinds with
  | nil => simpa using run
  | cons other rest inductionHypothesis =>
    have longer := Derives.nextConjunct run (each other (by simp))
    have all := inductionHypothesis longer fun next member => each next (by simp [member])
    simpa [List.append_assoc] using all

/-- More clauses behind a run, each behind its own `OR`. -/
theorem clauses_append (run : Derives opened (.clauses inField children) kinds)
    (others : List (List TokenKind × Query))
    (each : ∀ other ∈ others, Derives opened (.conjunction inField other.2) other.1) :
    Derives opened (.clauses inField (children ++ others.map Prod.snd))
      (kinds ++ others.flatMap fun other => .or :: other.1) := by
  induction others generalizing children kinds with
  | nil => simpa using run
  | cons other rest inductionHypothesis =>
    have longer := Derives.nextClause run (each other (by simp))
    have all := inductionHypothesis longer fun next member => each next (by simp [member])
    simpa [List.append_assoc] using all

end Derives

/-- Runs of kinds, each with the tree it stands for, joined by an operator. -/
def joinedBy (operator : TokenKind) (first : List TokenKind × Query)
    (others : List (List TokenKind × Query)) : List TokenKind :=
  first.1 ++ others.flatMap fun other => operator :: other.1

/-- The trees of some runs of kinds, each as a group. -/
def groupsOf (runs : List (List TokenKind × Query)) : List Query :=
  runs.map fun run => .group run.2

namespace Sentence

/-- Any number of groups joined by `AND` is a sentence: each group has the whole depth
for itself. -/
theorem joinedByAnd (first : List TokenKind × Query) (others : List (List TokenKind × Query))
    (groups : ∀ group ∈ first :: others, Sentence group.1 (.group group.2)) :
    Sentence (joinedBy .and first others)
      (Query.conjunction (groupsOf (first :: others))) := by
  have start := Derives.firstConjunct (groups first (by simp)).unaryOfGroup
  have run := start.conjuncts_append (others.map fun other => (other.1, .group other.2)) (by
    intro other member
    obtain ⟨group, inOthers, rfl⟩ := List.mem_map.mp member
    exact (groups group (by simp [inOthers])).unaryOfGroup)
  have tree := Derives.loneClause (.firstClause run.toConjunction)
  simpa [Sentence, joinedBy, groupsOf, List.flatMap_map, Function.comp_def] using tree

/-- Any number of groups joined by `OR` is a sentence: each group has the whole depth for
itself. -/
theorem joinedByOr (first : List TokenKind × Query) (others : List (List TokenKind × Query))
    (groups : ∀ group ∈ first :: others, Sentence group.1 (.group group.2)) :
    Sentence (joinedBy .or first others)
      (Query.disjunction (groupsOf (first :: others))) := by
  have conjunction (group) (member : group ∈ first :: others) :
      Derives 0 (.conjunction false (.group group.2)) group.1 :=
    .loneConjunct (.firstConjunct (groups group member).unaryOfGroup)
  have start := Derives.firstClause (conjunction first (by simp))
  have run := start.clauses_append (others.map fun other => (other.1, .group other.2)) (by
    intro other member
    obtain ⟨group, inOthers, rfl⟩ := List.mem_map.mp member
    exact conjunction group (by simp [inOthers]))
  simpa [Sentence, joinedBy, groupsOf, List.flatMap_map, Function.comp_def] using run.toDisjunction

end Sentence

end Dashboard.Query
