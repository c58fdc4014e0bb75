import Dashboard.Pattern.Compiled
import Dashboard.Proofs.Query.Scope
import Dashboard.Query.Predicate

/-!
# What a query asks of a record

The meaning of a query, read off its tree: a term asks for a match of its pattern in the
text of the innermost field around it, fields and groups only set or keep that scope, and
the operators ask for all or some of their children. A predicate holds of the records that
its query is satisfied by, and only a term can keep a query from becoming one.
-/

namespace Dashboard

/-- The text that a record has for a field: a string as it is, any other value but null in
compact form. Only objects have fields. -/
inductive Json.HasText : Json → String → String → Prop where
  | string {members field text} (found : lookup field members = some (.string text)) :
      HasText (.object members) field text
  | other {members field value} (found : lookup field members = some value)
      (notNull : value ≠ .null) (notString : ∀ text, value ≠ .string text) :
      HasText (.object members) field value.render

namespace PatternEngine

/-- A text is a pattern. -/
def IsPattern (engine : PatternEngine) (text : String) : Prop :=
  ∃ pattern, engine.compile text = .ok pattern

/-- A text is a pattern that another text contains a match of. -/
def FoundIn (engine : PatternEngine) (text content : String) : Prop :=
  ∃ pattern, engine.compile text = .ok pattern ∧ pattern.isMatch content = true

end PatternEngine

namespace Query

/-- What a record satisfies in a scope, the field that a term without another one asks for. -/
inductive Satisfied (engine : PatternEngine) (record : Json) : Option String → Query → Prop where
  | term {name value text} (hasText : record.HasText name text)
      (found : engine.FoundIn value text) : Satisfied engine record (some name) (.term value)
  | field {scope name body} (inside : Satisfied engine record (some name) body) :
      Satisfied engine record scope (.field name body)
  | group {scope body} (inside : Satisfied engine record scope body) :
      Satisfied engine record scope (.group body)
  | all {scope children} (each : ∀ child ∈ children, Satisfied engine record scope child) :
      Satisfied engine record scope (.all children)
  | any {scope children child} (member : child ∈ children)
      (one : Satisfied engine record scope child) : Satisfied engine record scope (.any children)

/-- A term has a field around it and is a pattern. -/
def ScopedTerm.Compiles (engine : PatternEngine) (term : ScopedTerm) : Prop :=
  term.scope ≠ none ∧ engine.IsPattern term.value

/-- Why a term does not become a predicate: it has no field around it, or it has one and is
no pattern. -/
inductive ScopedTerm.Fails (engine : PatternEngine) : ScopedTerm → SearchError → Prop where
  | unscoped {value} : Fails engine ⟨none, value⟩ (.unscopedTerm value)
  | noPattern {name value reason} (refused : engine.compile value = .error reason) :
      Fails engine ⟨some name, value⟩ (.invalidPattern value reason)

end Query

namespace Predicate

/-- The text of a field is read exactly where the record has it. -/
theorem fieldText?_eq_some_iff {record : Json} {field text : String} :
    fieldText? record field = some text ↔ record.HasText field text := by
  constructor
  · intro isText
    unfold fieldText? at isText
    cases record with
    | object members =>
      split at isText
      · cases isText
      · cases isText
      · rename_i held found
        cases isText
        exact .string found
      · rename_i value notNull notString found
        cases isText
        exact .other found notNull notString
    | null | bool _ | number _ | string _ | array _ => cases isText
  · intro hasText
    cases hasText with
    | string found => simp [fieldText?, Json.get?, found]
    | @other members _ value found notNull notString =>
      cases value with
      | null => exact absurd rfl notNull
      | string held => exact absurd rfl (notString held)
      | bool _ | number _ | array _ | object _ => simp [fieldText?, Json.get?, found]

/-- A field contains a pattern when its text matches. -/
theorem holds_contains_iff {record : Json} {field : String} {pattern : Pattern} :
    holds record (.contains field pattern) = true ↔
      ∃ text, record.HasText field text ∧ pattern.isMatch text = true := by
  simp only [holds, Option.any_eq_true, fieldText?_eq_some_iff]

end Predicate

namespace Query

section Meaning

variable {engine : PatternEngine} {record : Json} {scope : Option String}

/-- A term is satisfied by the text of the field it stands below. -/
theorem satisfied_term_iff {value : String} :
    Satisfied engine record scope (.term value) ↔
      ∃ name text, scope = some name ∧ record.HasText name text ∧
        engine.FoundIn value text := by
  constructor
  · intro satisfied
    cases satisfied with
    | term hasText found => exact ⟨_, _, rfl, hasText, found⟩
  · rintro ⟨name, text, rfl, hasText, found⟩
    exact .term hasText found

theorem satisfied_field_iff {name : String} {body : Query} :
    Satisfied engine record scope (.field name body) ↔
      Satisfied engine record (some name) body := by
  constructor
  · intro satisfied
    cases satisfied with
    | field inside => exact inside
  · exact .field

theorem satisfied_group_iff {body : Query} :
    Satisfied engine record scope (.group body) ↔ Satisfied engine record scope body := by
  constructor
  · intro satisfied
    cases satisfied with
    | group inside => exact inside
  · exact .group

/-- A conjunction is satisfied when all of its children are. -/
theorem satisfied_all_iff {children : List Query} :
    Satisfied engine record scope (.all children) ↔
      ∀ child ∈ children, Satisfied engine record scope child := by
  constructor
  · intro satisfied
    cases satisfied with
    | all each => exact each
  · exact .all

theorem satisfied_any_iff {children : List Query} :
    Satisfied engine record scope (.any children) ↔
      ∃ child ∈ children, Satisfied engine record scope child := by
  constructor
  · intro satisfied
    cases satisfied with
    | any member one => exact ⟨_, member, one⟩
  · rintro ⟨child, member, one⟩
    exact .any member one

/-- The predicate of a term in a scope searches for its pattern there. -/
theorem compileTerm_eq_ok_iff {value : String} {predicate : Predicate} :
    compileTerm engine scope value = .ok predicate ↔
      ∃ name pattern, scope = some name ∧ engine.compile value = .ok pattern ∧
        predicate = .contains name pattern := by
  cases scope with
  | none => simp [compileTerm]
  | some name =>
    cases compiled : engine.compile value with
    | error error => simp [compileTerm, compiled]
    | ok pattern => simp [compileTerm, compiled, eq_comm]

/-- The predicate of a term holds of the records that satisfy the term. -/
theorem holds_compileTerm_iff {value : String} {predicate : Predicate}
    (compiled : compileTerm engine scope value = .ok predicate) :
    predicate.holds record = true ↔ Satisfied engine record scope (.term value) := by
  obtain ⟨name, pattern, rfl, isPattern, rfl⟩ := compileTerm_eq_ok_iff.mp compiled
  rw [Predicate.holds_contains_iff, satisfied_term_iff]
  simp [PatternEngine.FoundIn, isPattern]

/-- Several queries compile when the first one and the others do. -/
theorem compileAllIn_cons_eq_ok_iff {child : Query} {rest : List Query}
    {predicates : List Predicate} :
    compileAllIn engine scope (child :: rest) = .ok predicates ↔
      ∃ first others, compileIn engine scope child = .ok first ∧
        compileAllIn engine scope rest = .ok others ∧ predicates = first :: others := by
  rw [compileAllIn]
  cases compileIn engine scope child with
  | error error => simp
  | ok first =>
    cases compileAllIn engine scope rest with
    | error error => simp
    | ok others => simp [eq_comm]

/-- What the predicate of a query in a scope means. -/
abbrev MeansIn (engine : PatternEngine) (record : Json) (scope : Option String)
    (query : Query) : Prop :=
  ∀ predicate, compileIn engine scope query = .ok predicate →
    (predicate.holds record = true ↔ Satisfied engine record scope query)

/-- The conjunction of predicates holds of the records that satisfy all queries. -/
theorem allHold_iff {children : List Query} {predicates : List Predicate}
    (each : ∀ child ∈ children, MeansIn engine record scope child)
    (compiled : compileAllIn engine scope children = .ok predicates) :
    Predicate.allHold record predicates = true ↔
      ∀ child ∈ children, Satisfied engine record scope child := by
  induction children generalizing predicates with
  | nil =>
    cases compiled
    simp [Predicate.allHold]
  | cons child rest inductionHypothesis =>
    obtain ⟨meansFirst, meanRest⟩ := List.forall_mem_cons.mp each
    obtain ⟨first, others, compiledFirst, compiledRest, rfl⟩ :=
      compileAllIn_cons_eq_ok_iff.mp compiled
    rw [Predicate.allHold, Bool.and_eq_true, meansFirst first compiledFirst,
      inductionHypothesis meanRest compiledRest, List.forall_mem_cons]

theorem someHolds_iff {children : List Query} {predicates : List Predicate}
    (each : ∀ child ∈ children, MeansIn engine record scope child)
    (compiled : compileAllIn engine scope children = .ok predicates) :
    Predicate.someHolds record predicates = true ↔
      ∃ child ∈ children, Satisfied engine record scope child := by
  induction children generalizing predicates with
  | nil =>
    cases compiled
    simp [Predicate.someHolds]
  | cons child rest inductionHypothesis =>
    obtain ⟨meansFirst, meanRest⟩ := List.forall_mem_cons.mp each
    obtain ⟨first, others, compiledFirst, compiledRest, rfl⟩ :=
      compileAllIn_cons_eq_ok_iff.mp compiled
    rw [Predicate.someHolds, Bool.or_eq_true, meansFirst first compiledFirst,
      inductionHypothesis meanRest compiledRest]
    simp

/-- In every scope, the predicate of a query holds of the records that satisfy the query. -/
theorem meansIn (engine : PatternEngine) (record : Json) (scope : Option String) (query : Query) :
    MeansIn engine record scope query := by
  induction query using Query.induction generalizing scope with
  | term value =>
    intro predicate compiled
    exact holds_compileTerm_iff compiled
  | field name body inductionHypothesis =>
    intro predicate compiled
    rw [satisfied_field_iff]
    exact inductionHypothesis (some name) predicate compiled
  | group body inductionHypothesis =>
    intro predicate compiled
    rw [satisfied_group_iff]
    exact inductionHypothesis scope predicate compiled
  | all children inductionHypothesis =>
    intro predicate compiled
    unfold compileIn at compiled
    split at compiled
    · rename_i predicates compiledAll
      cases compiled
      rw [satisfied_all_iff, Predicate.holds]
      exact allHold_iff (fun child member => inductionHypothesis child member scope) compiledAll
    · cases compiled
  | any children inductionHypothesis =>
    intro predicate compiled
    unfold compileIn at compiled
    split at compiled
    · rename_i predicates compiledAll
      cases compiled
      rw [satisfied_any_iff, Predicate.holds]
      exact someHolds_iff (fun child member => inductionHypothesis child member scope) compiledAll
    · cases compiled

end Meaning

section Failure

variable {engine : PatternEngine} {scope : Option String}

/-- The error of a computation that fails. -/
def errorOf? {α : Type} : Except SearchError α → Option SearchError
  | .ok _ => none
  | .error error => some error

/-- The error of a term that does not become a predicate. -/
def ScopedTerm.error? (engine : PatternEngine) (term : ScopedTerm) : Option SearchError :=
  errorOf? (compileTerm engine term.scope term.value)

/-- The error of a term is the one that it fails with. -/
theorem ScopedTerm.error?_eq_some_iff {term : ScopedTerm} {error : SearchError} :
    term.error? engine = some error ↔ term.Fails engine error := by
  obtain ⟨_ | name, value⟩ := term
  · constructor
    · intro failed
      cases failed
      exact .unscoped
    · rintro ⟨⟩
      rfl
  · cases compiled : engine.compile value with
    | ok pattern =>
      simp only [error?, compileTerm, compiled, errorOf?, reduceCtorEq, false_iff]
      rintro ⟨⟩
      rename_i refused
      simp [compiled] at refused
    | error cause =>
      simp only [error?, compileTerm, compiled, errorOf?, Option.some.injEq]
      constructor
      · rintro rfl
        exact .noPattern compiled
      · rintro ⟨⟩
        rename_i refused
        simp [Except.error.inj (compiled.symm.trans refused)]

theorem ScopedTerm.error?_eq_none_iff {term : ScopedTerm} :
    term.error? engine = none ↔ term.Compiles engine := by
  obtain ⟨_ | name, value⟩ := term
  · simp [error?, compileTerm, errorOf?, Compiles]
  · cases compiled : engine.compile value <;>
      simp [error?, compileTerm, errorOf?, Compiles, PatternEngine.IsPattern, compiled]

/-- A term fails exactly when it does not compile. -/
theorem ScopedTerm.exists_fails_iff {term : ScopedTerm} :
    (∃ error, term.Fails engine error) ↔ ¬ term.Compiles engine := by
  simp only [← error?_eq_some_iff, ← error?_eq_none_iff, ← Option.isSome_iff_exists,
    Option.isSome_iff_ne_none, ne_eq]

/-- A list of queries fails as the first of its terms that does. -/
theorem errorOf?_compileAllIn {children : List Query}
    (each : ∀ child ∈ children,
      errorOf? (compileIn engine scope child) =
        (termsIn scope child).findSome? (ScopedTerm.error? engine)) :
    errorOf? (compileAllIn engine scope children) =
      (termsOfAll scope children).findSome? (ScopedTerm.error? engine) := by
  induction children with
  | nil => rfl
  | cons child rest inductionHypothesis =>
    obtain ⟨first, others⟩ := List.forall_mem_cons.mp each
    rw [termsOfAll, List.findSome?_append, ← first, ← inductionHypothesis others, compileAllIn]
    cases compileIn engine scope child with
    | error error => rfl
    | ok predicate => cases compileAllIn engine scope rest <;> rfl

/-- A query fails as the first of its terms that does. -/
theorem errorOf?_compileIn (engine : PatternEngine) (scope : Option String) (query : Query) :
    errorOf? (compileIn engine scope query) =
      (termsIn scope query).findSome? (ScopedTerm.error? engine) := by
  induction query using Query.induction generalizing scope with
  | term value => simp [compileIn, termsIn, ScopedTerm.error?]
  | field name body inductionHypothesis => exact inductionHypothesis (some name)
  | group body inductionHypothesis => exact inductionHypothesis scope
  | all children inductionHypothesis | any children inductionHypothesis =>
    rw [termsIn, ← errorOf?_compileAllIn fun child member => inductionHypothesis child member scope,
      compileIn]
    cases compileAllIn engine scope children <;> rfl

/-- A query fails with the error of the first of its terms that fails. -/
theorem compile_eq_error_iff {query : Query} {error : SearchError} :
    query.compile engine = .error error ↔
      ∃ before term after, query.terms = before ++ term :: after ∧
        (∀ earlier ∈ before, earlier.Compiles engine) ∧ term.Fails engine error := by
  have isError : query.compile engine = .error error ↔
      errorOf? (query.compile engine) = some error := by
    cases query.compile engine <;> simp [errorOf?]
  rw [isError, compile, errorOf?_compileIn, List.findSome?_eq_some_iff]
  simp only [ScopedTerm.error?_eq_some_iff, ScopedTerm.error?_eq_none_iff, terms, and_comm]

/-- A query fails exactly when one of its terms does. -/
theorem exists_compile_eq_error_iff {query : Query} :
    (∃ error, query.compile engine = .error error) ↔
      ∃ term ∈ query.terms, ∃ error, term.Fails engine error := by
  have isError : (∃ error, query.compile engine = .error error) ↔
      (errorOf? (query.compile engine)).isSome := by
    cases query.compile engine <;> simp [errorOf?]
  rw [isError, compile, errorOf?_compileIn, List.findSome?_isSome_iff]
  simp only [Option.isSome_iff_exists, ScopedTerm.error?_eq_some_iff, terms]

end Failure

/-- The predicate of a query holds of exactly the records that satisfy the query. A query has
one unless some term has no field around it or is no pattern, and then the first such term
from the left gives the error. -/
theorem compile_means_query (engine : PatternEngine) (query : Query) :
    (∀ predicate, query.compile engine = .ok predicate →
      ∀ record, predicate.holds record = true ↔ Satisfied engine record none query) ∧
    ((∃ error, query.compile engine = .error error) ↔
      ∃ term ∈ query.terms, term.scope = none ∨ ¬ engine.IsPattern term.value) ∧
    (∀ error, query.compile engine = .error error ↔
      ∃ before term after, query.terms = before ++ term :: after ∧
        (∀ earlier ∈ before, earlier.scope ≠ none ∧ engine.IsPattern earlier.value) ∧
        term.Fails engine error) := by
  refine ⟨fun predicate compiled record => meansIn engine record none query predicate compiled, ?_,
    fun error => compile_eq_error_iff⟩
  rw [exists_compile_eq_error_iff]
  simp only [ScopedTerm.exists_fails_iff, ScopedTerm.Compiles, ne_eq,
    Classical.not_and_iff_not_or_not, Classical.not_not]

/-- The inner field counts for the term below it, and a truth value is searched as it is
written. Of two terms that are no patterns the left one is told, although only the right
one lacks a field. -/
theorem compile_means_query_of_two_fields :
    let query : Query := .field "image" (.group (.all
      [.term "^web", .any [.field "ready" (.term "tr")]]))
    let record : Json := .object [("image", .string "web:rc-12"), ("ready", .bool true)]
    let refused : Query := .all [.field "image" (.term "rc-("), .term "*"]
    (∃ predicate, query.compile .standard = .ok predicate ∧ Satisfied .standard record none query) ∧
    ∃ error, refused.compile .standard = .error error ∧
      ∃ before term after, refused.terms = before ++ term :: after ∧
        (∀ earlier ∈ before, earlier.scope ≠ none ∧
          PatternEngine.standard.IsPattern earlier.value) ∧
        term.Fails .standard error := by
  intro query record refused
  have means := (compile_means_query .standard query).1
  have fails := (compile_means_query .standard refused).2.2
  exact ⟨⟨_, rfl, (means _ rfl record).mp (by decide +kernel)⟩, _, rfl, (fails _).mp rfl⟩

end Query

end Dashboard
