import Dashboard.Permission.Expression
import Dashboard.Proofs.Permission.Walk
import Mathlib.Data.List.Basic

/-!
# Checks of combined paths

An expression is a tree of operators over leaves, each a path with a way to obtain its
values. A check visits the leaves from left to right, whatever they decide, and stops
only at a leaf whose values cannot be obtained. So what it decides is the truth value of
the tree, and what its sink receives is what the leaves visited report, one after another.
-/

namespace Dashboard.Permission

/-- A path of an expression, with a way to obtain the values of its placeholders. -/
structure Leaf where
  path : Path
  resolver : Option Resolver

namespace Leaf

/-- The path has placeholders, and the values for them cannot be obtained. -/
def Fails (context : RequestContext) (error : PermissionError) (leaf : Leaf) : Prop :=
  leaf.path.hasPlaceholders = true ∧
    ∃ resolve, leaf.resolver = some resolve ∧ resolve context = .error error

/-- The path can be checked: either nothing is asked for its values, or they are there. -/
def Succeeds (context : RequestContext) (leaf : Leaf) : Prop :=
  leaf.path.hasPlaceholders = true → ∀ resolve, leaf.resolver = some resolve →
    ∃ values, resolve context = .ok values

/-- The values that the resolver gives; a path without placeholders has none. -/
def values (context : RequestContext) (leaf : Leaf) : Placeholders :=
  match leaf.resolver with
  | some resolve =>
    if leaf.path.hasPlaceholders then (resolve context).toOption.getD [] else []
  | none => []

/-- The evaluation of the path by itself. -/
def outcome (tree : Json) (context : RequestContext) (leaf : Leaf) : Outcome :=
  leaf.path.evaluate tree (leaf.values context)

/-- Whether the path by itself is granted. -/
def grants (tree : Json) (context : RequestContext) (leaf : Leaf) : Bool :=
  (leaf.outcome tree context).granted

/-- What the path by itself reports. -/
def reports (tree : Json) (context : RequestContext) (leaf : Leaf) : List String :=
  leaf.path.reports (leaf.outcome tree context)

end Leaf

namespace Expression

/-- The leaves from left to right. -/
def leaves : Expression → List Leaf
  | .path target resolver => [⟨target, resolver⟩]
  | .and left right | .or left right => left.leaves ++ right.leaves

/-- The truth value of an expression, given that of each leaf. -/
def truth (value : Leaf → Bool) : Expression → Bool
  | .path target resolver => value ⟨target, resolver⟩
  | .and left right => left.truth value && right.truth value
  | .or left right => left.truth value || right.truth value

end Expression

section Leaves

variable {tree : Json} {context : RequestContext} {leaf : Leaf}

/-- A leaf succeeds exactly when it does not fail. -/
theorem Leaf.succeeds_iff_not_fails :
    leaf.Succeeds context ↔ ¬ ∃ error, leaf.Fails context error := by
  constructor
  · rintro succeeds ⟨error, asked, resolve, isResolver, failed⟩
    obtain ⟨values, resolved⟩ := succeeds asked resolve isResolver
    simp [failed] at resolved
  · intro noFailure asked resolve isResolver
    cases resolved : resolve context with
    | error error => exact absurd ⟨error, asked, resolve, isResolver, resolved⟩ noFailure
    | ok values => exact ⟨values, rfl⟩

/-- A leaf that succeeds is checked with its own values. -/
theorem Expression.valuesFor_of_succeeds (succeeds : leaf.Succeeds context) :
    valuesFor leaf.path leaf.resolver context = .ok (leaf.values context) := by
  unfold valuesFor Leaf.values
  cases isResolver : leaf.resolver with
  | none => rfl
  | some resolve =>
    by_cases asked : leaf.path.hasPlaceholders
    · obtain ⟨values, resolved⟩ := succeeds asked resolve isResolver
      simp [asked, resolved, Except.toOption]
    · simp [asked]

/-- A leaf that fails has no values, but its error. -/
theorem Expression.valuesFor_of_fails {error : PermissionError}
    (fails : leaf.Fails context error) :
    valuesFor leaf.path leaf.resolver context = .error error := by
  obtain ⟨asked, resolve, isResolver, failed⟩ := fails
  simp [valuesFor, isResolver, asked, failed]

/-- A leaf reports nothing exactly when it is granted. -/
theorem Leaf.reports_eq_nil_iff :
    leaf.reports tree context = [] ↔ leaf.grants tree context = true := by
  rw [Leaf.reports, Path.reports, List.map_eq_nil_iff]
  exact (consistent_walk leaf.path.segments tree).symm

/-- The leftmost of the leaves that fail, if some of them does. -/
theorem Leaf.exists_leftmost_failing {leaves : List Leaf}
    (someFails : ∃ leaf ∈ leaves, ∃ error, leaf.Fails context error) :
    ∃ before leaf after error, leaves = before ++ leaf :: after ∧
      (∀ earlier ∈ before, earlier.Succeeds context) ∧ leaf.Fails context error := by
  induction leaves with
  | nil => simp at someFails
  | cons first rest inductionHypothesis =>
    by_cases failsFirst : ∃ error, first.Fails context error
    · obtain ⟨error, fails⟩ := failsFirst
      exact ⟨[], first, rest, error, rfl, by simp, fails⟩
    · obtain ⟨before, leaf, after, error, rfl, earlier, fails⟩ :=
        inductionHypothesis (by simpa [failsFirst] using someFails)
      have succeeds := Leaf.succeeds_iff_not_fails.mpr failsFirst
      exact ⟨first :: before, leaf, after, error, rfl,
        List.forall_mem_cons.mpr ⟨succeeds, earlier⟩, fails⟩

end Leaves

namespace Expression

section Checks

variable {σ : Type} {report : σ → String → σ} {tree : Json} {context : RequestContext}

/-- Two checks, one after the other on the same sink. The second is carried out whatever
the first decides, unless the first fails. -/
def inTurn (combine : Bool → Bool → Bool)
    (first second : σ → Except PermissionError Bool × σ) (sink : σ) :
    Except PermissionError Bool × σ :=
  match first sink with
  | (.error error, reported) => (.error error, reported)
  | (.ok decision, reported) =>
    match second reported with
    | (.error error, final) => (.error error, final)
    | (.ok other, final) => (.ok (combine decision other), final)

/-- A conjunction checks its parts in turn, the right one also behind a refusal of the left. -/
theorem check_and (left right : Expression) :
    (left.and right).check report tree context =
      inTurn (· && ·) (left.check report tree context) (right.check report tree context) :=
  rfl

/-- A disjunction checks its parts in turn, the right one also behind a grant of the left. -/
theorem check_or_eq_inTurn (left right : Expression) :
    (left.or right).check report tree context =
      inTurn (· || ·) (left.check report tree context) (right.check report tree context) :=
  rfl

/-- What a sink holds after the reports of some leaves. -/
abbrev receive (report : σ → String → σ) (tree : Json) (context : RequestContext)
    (leaves : List Leaf) (sink : σ) : σ :=
  (leaves.flatMap (Leaf.reports tree context)).foldl report sink

theorem receive_append (first second : List Leaf) (sink : σ) :
    receive report tree context (first ++ second) sink =
      receive report tree context second (receive report tree context first sink) := by
  simp [receive]

/-- When no leaf fails, the check decides the truth value of the expression, and the sink
receives the reports of all leaves. -/
theorem check_of_succeeds {expression : Expression}
    (succeed : ∀ leaf ∈ expression.leaves, leaf.Succeeds context) (sink : σ) :
    expression.check report tree context sink =
      (.ok (expression.truth (Leaf.grants tree context)),
        receive report tree context expression.leaves sink) := by
  induction expression generalizing sink with
  | path target resolver =>
    have resolved := valuesFor_of_succeeds (succeed ⟨target, resolver⟩ (by simp [leaves]))
    simp only [check, resolved]
    simp [truth, leaves, receive, Leaf.grants, Leaf.reports, Leaf.outcome]
  | and left right leftHypothesis rightHypothesis
  | or left right leftHypothesis rightHypothesis =>
    obtain ⟨succeedLeft, succeedRight⟩ := List.forall_mem_append.mp succeed
    simp only [check_and, check_or_eq_inTurn, inTurn, leftHypothesis succeedLeft,
      rightHypothesis succeedRight, leaves, receive_append, truth]

/-- A leaf among those of two expressions is among the first ones, or behind them. -/
theorem leaf_of_append {first second before after : List Leaf} {leaf : Leaf}
    (split : first ++ second = before ++ leaf :: after) :
    (∃ between, first = before ++ leaf :: between) ∨
      ∃ earlier, before = first ++ earlier ∧ second = earlier ++ leaf :: after := by
  rcases List.append_eq_append_iff.mp split with
    ⟨earlier, isBefore, isSecond⟩ | ⟨later, isFirst, isAfter⟩
  · exact .inr ⟨earlier, isBefore, isSecond⟩
  · cases later with
    | nil => exact .inr ⟨[], by simpa using isFirst.symm, isAfter.symm⟩
    | cons head between =>
      cases isAfter
      exact .inl ⟨between, isFirst⟩

/-- At a leaf that fails behind others that do not, the check ends with its error, and the
sink has received the reports of the others. -/
theorem check_of_fails {expression : Expression} {before after : List Leaf} {leaf : Leaf}
    {error : PermissionError} (split : expression.leaves = before ++ leaf :: after)
    (succeed : ∀ earlier ∈ before, earlier.Succeeds context)
    (fails : leaf.Fails context error) (sink : σ) :
    expression.check report tree context sink =
      (.error error, receive report tree context before sink) := by
  induction expression generalizing before after sink with
  | path target resolver =>
    obtain ⟨rfl, isLeaf⟩ : before = [] ∧ ⟨target, resolver⟩ = leaf := by
      cases before <;> simp_all [leaves]
    subst isLeaf
    have failed := valuesFor_of_fails fails
    simp only [check, failed]
    rfl
  | and left right leftHypothesis rightHypothesis
  | or left right leftHypothesis rightHypothesis =>
    rcases leaf_of_append split with ⟨between, inLeft⟩ | ⟨earlier, rfl, inRight⟩
    · simp only [check_and, check_or_eq_inTurn, inTurn, leftHypothesis inLeft succeed]
    · obtain ⟨succeedLeft, succeedEarlier⟩ := List.forall_mem_append.mp succeed
      simp only [check_and, check_or_eq_inTurn, inTurn, check_of_succeeds succeedLeft,
        rightHypothesis inRight succeedEarlier, receive_append]

end Checks

/-- The leaves of an expression have its paths, from left to right. -/
theorem texts_leaves (expression : Expression) :
    expression.leaves.map (fun leaf => leaf.path.text) = expression.paths := by
  induction expression with
  | path target resolver => rfl
  | and left right leftHypothesis rightHypothesis
  | or left right leftHypothesis rightHypothesis =>
    simp only [leaves, paths, List.map_append, leftHypothesis, rightHypothesis]

end Expression

/-- A list of all reports takes the reports of a check behind those it has. -/
theorem foldl_appendReport (reports received : List String) :
    reports.foldl appendReport received = received ++ reports := by
  induction reports generalizing received with
  | nil => simp
  | cons reason rest inductionHypothesis =>
    rw [List.foldl_cons, inductionHypothesis, appendReport, List.append_assoc,
      List.singleton_append]

namespace DenialReasons

/-- A reason is added to a set of reasons unless it is one of them. -/
theorem report_eraseDups (reports : List String) (reason : String) :
    report ⟨reports.eraseDups⟩ reason = ⟨(reports ++ [reason]).eraseDups⟩ := by
  rw [List.eraseDups_append]
  by_cases known : reason ∈ reports
  · simp [report, contains, known, List.removeAll]
  · simp [report, contains, known, List.removeAll, List.eraseDups_cons]

/-- A set of reasons that takes reports one by one keeps the first of each. -/
theorem foldl_report (earlier reports : List String) :
    reports.foldl report ⟨earlier.eraseDups⟩ = ⟨(earlier ++ reports).eraseDups⟩ := by
  induction reports generalizing earlier with
  | nil => simp
  | cons reason rest inductionHypothesis =>
    rw [List.foldl_cons, report_eraseDups, inductionHypothesis, List.append_assoc,
      List.singleton_append]

/-- Reasons that are reported one after the other are kept once each, in the order of their first
reports. -/
theorem foldl_report_empty (reports : List String) :
    reports.foldl report empty = ⟨reports.eraseDups⟩ :=
  foldl_report [] reports

theorem report_report (set : DenialReasons) (reason : String) :
    (set.report reason).report reason = set.report reason := by
  by_cases known : reason ∈ set.reasons <;> simp [report, contains, known]

/-- A reason that is reported any number of times is kept once. -/
theorem foldl_report_again {α : Type} (set : DenialReasons) (reason : String) (more : List α) :
    (more.map fun _ => reason).foldl report (set.report reason) = set.report reason := by
  rw [List.foldl_map]
  exact List.foldl_fixed' (fun _ => report_report set reason) more

/-- The reports of a leaf leave one reason, or none when it is granted. -/
theorem foldl_report_leaf (tree : Json) (context : RequestContext) (leaf : Leaf)
    (set : DenialReasons) :
    (leaf.reports tree context).foldl report set =
      if leaf.grants tree context then set else set.report leaf.path.text := by
  split
  · rename_i granted
    rw [Leaf.reports_eq_nil_iff.mpr granted, List.foldl_nil]
  · rename_i denied
    obtain ⟨first, more, someDenials⟩ : ∃ first more,
        (leaf.outcome tree context).denials = first :: more := by
      apply List.exists_cons_of_ne_nil
      intro noDenials
      exact denied (Leaf.reports_eq_nil_iff.mp (by simp [Leaf.reports, Path.reports, noDenials]))
    rw [Leaf.reports, Path.reports, someDenials, List.map_cons, List.foldl_cons,
      foldl_report_again]

/-- The reasons that some leaves leave are the distinct texts of those that are denied, in
the order of the first of each. -/
theorem foldl_report_leaves (tree : Json) (context : RequestContext) (leaves : List Leaf)
    (set : DenialReasons) :
    (leaves.flatMap (Leaf.reports tree context)).foldl report set =
      ((leaves.filter fun leaf => !leaf.grants tree context).map
        fun leaf => leaf.path.text).foldl report set := by
  induction leaves generalizing set with
  | nil => rfl
  | cons leaf rest inductionHypothesis =>
    rw [List.flatMap_cons, List.foldl_append, inductionHypothesis, foldl_report_leaf]
    cases granted : leaf.grants tree context <;> simp [granted]

end DenialReasons

/-- A check decides the truth value of its expression over all leaves, and reports what they
report from left to right, to the last one; a set of reasons keeps the first of each, which
are the paths of the leaves denied. Only a leaf whose values cannot be obtained ends a check:
the leftmost one does, with its error and what the leaves before it reported. -/
theorem Expression.check_visits_leaves_in_order (expression : Expression) (tree : Json)
    (context : RequestContext) :
    expression.leaves.map (fun leaf => leaf.path.text) = expression.paths ∧
    ((∀ leaf ∈ expression.leaves, leaf.Succeeds context) →
      let decision := expression.truth (Leaf.grants tree context)
      let reports := expression.leaves.flatMap (Leaf.reports tree context)
      let denied := expression.leaves.filter fun leaf => !leaf.grants tree context
      (∀ (σ : Type) (report : σ → String → σ) (sink : σ),
        expression.check report tree context sink =
          (.ok decision, reports.foldl report sink)) ∧
      (∀ received, expression.check appendReport tree context received =
        (.ok decision, received ++ reports)) ∧
      expression.check DenialReasons.report tree context .empty =
        (.ok decision, ⟨reports.eraseDups⟩) ∧
      reports.eraseDups = (denied.map fun leaf => leaf.path.text).eraseDups) ∧
    ((∃ leaf ∈ expression.leaves, ∃ error, leaf.Fails context error) →
      ∃ before leaf after error, expression.leaves = before ++ leaf :: after ∧
        (∀ earlier ∈ before, earlier.Succeeds context) ∧ leaf.Fails context error ∧
        let reports := before.flatMap (Leaf.reports tree context)
        (∀ (σ : Type) (report : σ → String → σ) (sink : σ),
          expression.check report tree context sink =
            (.error error, reports.foldl report sink)) ∧
        (∀ received, expression.check appendReport tree context received =
          (.error error, received ++ reports)) ∧
        expression.check DenialReasons.report tree context .empty =
          (.error error, ⟨reports.eraseDups⟩)) := by
  refine ⟨texts_leaves expression, ?_, ?_⟩
  · intro succeed
    have checked (σ : Type) (report : σ → String → σ) (sink : σ) :
        expression.check report tree context sink =
          (.ok (expression.truth (Leaf.grants tree context)),
            receive report tree context expression.leaves sink) :=
      check_of_succeeds succeed sink
    refine ⟨checked, fun received => ?_, ?_, ?_⟩
    · rw [checked, receive, foldl_appendReport]
    · rw [checked, receive, DenialReasons.foldl_report_empty]
    · have same := DenialReasons.foldl_report_leaves tree context expression.leaves .empty
      rw [DenialReasons.foldl_report_empty, DenialReasons.foldl_report_empty] at same
      exact congrArg DenialReasons.reasons same
  · intro someFails
    obtain ⟨before, leaf, after, error, split, succeed, fails⟩ :=
      Leaf.exists_leftmost_failing someFails
    have checked (σ : Type) (report : σ → String → σ) (sink : σ) :
        expression.check report tree context sink =
          (.error error, receive report tree context before sink) :=
      check_of_fails split succeed fails sink
    refine ⟨before, leaf, after, error, split, succeed, fails, checked, fun received => ?_, ?_⟩
    · rw [checked, receive, foldl_appendReport]
    · rw [checked, receive, DenialReasons.foldl_report_empty]

/-- A path whose values come from the body, asked for twice. Behind a blank body it is denied
twice and kept as one reason, in spite of the grant; a body that is no JSON ends the check
at the first time, behind the report of the path before it. -/
theorem Expression.check_visits_leaves_of_body :
    let missing : Expression := .path ⟨"a.c", [.literal "a", .literal "c"]⟩ none
    let granted : Expression := .path ⟨"a.b", [.literal "a", .literal "b"]⟩ none
    let each : Expression := .path ⟨"$each.x", [.placeholder "each", .literal "x"]⟩
      (some (Resolver.bodyFields [("each", "each")]))
    let expression : Expression := .or (.or missing each) (.or granted each)
    let tree : Json := .object [("a", .array [.string "b"])]
    let malformed : RequestContext := ⟨[0x5B], []⟩
    let refusal : PermissionError :=
      .unresolved "request body is not valid JSON: malformed text"
    ((∀ leaf ∈ expression.leaves, leaf.Succeeds .empty) ∧
      expression.check appendReport tree .empty [] =
        (.ok true, ["a.c", "$each.x", "$each.x"]) ∧
      expression.check DenialReasons.report tree .empty .empty =
        (.ok true, ⟨["a.c", "$each.x"]⟩)) ∧
    (∃ leaf ∈ expression.leaves, ∃ error, leaf.Fails malformed error) ∧
      (∃ before leaf after error, expression.leaves = before ++ leaf :: after ∧
        (∀ earlier ∈ before, earlier.Succeeds malformed) ∧ leaf.Fails malformed error) ∧
      expression.check appendReport tree malformed [] = (.error refusal, ["a.c"]) := by
  intro missing granted each expression tree malformed refusal
  have succeed : ∀ leaf ∈ expression.leaves, leaf.Succeeds .empty := by
    intro leaf isLeaf asked resolve isResolver
    simp only [expression, missing, granted, each, leaves, List.cons_append, List.nil_append,
      List.mem_cons, List.not_mem_nil, or_false] at isLeaf
    rcases isLeaf with rfl | rfl | rfl | rfl
    · cases isResolver
    · cases isResolver
      exact ⟨[], rfl⟩
    · cases isResolver
    · cases isResolver
      exact ⟨[], rfl⟩
  have someFails : ∃ leaf ∈ expression.leaves, ∃ error, leaf.Fails malformed error :=
    ⟨⟨_, some (Resolver.bodyFields [("each", "each")])⟩, .tail _ (.head _), refusal, rfl, _, rfl,
      by decide⟩
  obtain ⟨_, appended, kept, _⟩ :=
    (check_visits_leaves_in_order expression tree .empty).2.1 succeed
  obtain ⟨before, leaf, after, error, split, earlier, fails, _⟩ :=
    (check_visits_leaves_in_order expression tree malformed).2.2 someFails
  exact ⟨⟨succeed, (appended []).trans rfl, kept.trans (by decide)⟩, someFails,
    ⟨before, leaf, after, error, split, earlier, fails⟩, by decide⟩

end Dashboard.Permission
