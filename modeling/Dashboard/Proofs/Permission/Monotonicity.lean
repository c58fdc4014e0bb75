import Dashboard.Proofs.Json.Extension
import Dashboard.Proofs.Permission.Combination
import Dashboard.Proofs.Permission.Grant

/-!
# Larger trees and smaller requests

A check never turns against a tree that has more, nor against values that ask for less. So
what is granted stays granted, and only a path that was denied before can be reported; the
order and the repetitions of what an array asks for play no part.
-/

namespace Dashboard.Permission

/-- What a bound value asks for: every element of an array, else the value itself. -/
def asked : Json → List Json
  | .array items => items
  | value => [value]

/-- Values that differ from others in arrays only, each without further elements. -/
def AsksNoMore (fewer values : Placeholders) : Prop :=
  ∀ name, Json.lookup name fewer = Json.lookup name values ∨
    ∃ items others, Json.lookup name values = some (.array items) ∧
      Json.lookup name fewer = some (.array others) ∧ ∀ item ∈ others, item ∈ items

/-- Values that differ in arrays only, each with the same elements in any order and number. -/
def AsksTheSame (left right : Placeholders) : Prop :=
  ∀ name, Json.lookup name left = Json.lookup name right ∨
    ∃ items others, Json.lookup name left = some (.array items) ∧
      Json.lookup name right = some (.array others) ∧ ∀ item, item ∈ items ↔ item ∈ others

section Requests

variable {values fewer others : Placeholders} {name : String} {bound : Json}

theorem asksNoMore_refl (values : Placeholders) : AsksNoMore values values :=
  fun _ => .inl rfl

/-- Values that ask the same ask no more. -/
theorem AsksTheSame.asksNoMore (same : AsksTheSame values others) : AsksNoMore values others := by
  intro name
  rcases same name with equal | ⟨items, otherItems, isItems, isOthers, sameItems⟩
  · exact .inl equal
  · exact .inr ⟨otherItems, items, isOthers, isItems, fun item => (sameItems item).mp⟩

theorem AsksTheSame.symm (same : AsksTheSame values others) : AsksTheSame others values := by
  intro name
  rcases same name with equal | ⟨items, otherItems, isItems, isOthers, sameItems⟩
  · exact .inl equal.symm
  · exact .inr ⟨otherItems, items, isOthers, isItems, fun item => (sameItems item).symm⟩

/-- A name that is bound stays bound by values that ask no more, to elements that were asked
before. -/
theorem AsksNoMore.exists_bound (noMore : AsksNoMore fewer values)
    (isBound : Json.lookup name values = some bound) :
    ∃ other, Json.lookup name fewer = some other ∧ ∀ item ∈ asked other, item ∈ asked bound := by
  rcases noMore name with equal | ⟨items, otherItems, isItems, isOthers, noFurther⟩
  · exact ⟨bound, equal.trans isBound, fun _ isAsked => isAsked⟩
  · cases isItems.symm.trans isBound
    exact ⟨.array otherItems, isOthers, noFurther⟩

end Requests

section Walks

variable {values fewer : Placeholders} {node larger value : Json} {leaf : String}
  {rest : List Segment}

/-- A step by a value is granted when the key of the value leads to a child that grants what
follows. -/
theorem granted_stepByValue_iff {next : Json → Outcome} :
    (stepByValue node value next).granted = true ↔
      ∃ key child, scalarKey? value = some key ∧ node.get? key = some child ∧
        (next child).granted = true := by
  unfold stepByValue
  cases scalarKey? value with
  | none => simp [Outcome.deny]
  | some key => simp [granted_step_iff]

/-- Behind a placeholder, a walk needs the child of everything that is asked for. -/
theorem granted_placeholder_iff {name : String} (more : rest ≠ []) :
    (walk values (.placeholder name :: rest) node).granted = true ↔
      ∃ bound, Json.lookup name values = some bound ∧ ∀ item ∈ asked bound,
        ∃ key child, scalarKey? item = some key ∧ node.get? key = some child ∧
          (walk values rest child).granted = true := by
  obtain ⟨segment, others, rfl⟩ := List.exists_cons_of_ne_nil more
  rw [walk]
  cases Json.lookup name values with
  | none => simp [Outcome.deny]
  | some bound =>
    cases bound with
    | array items =>
      simp only [granted_all_iff, List.forall_mem_map, granted_stepByValue_iff, asked,
        Option.some.injEq, exists_eq_left']
    | null | bool _ | number _ | string _ | object _ =>
      simp only [granted_stepByValue_iff, asked, List.mem_singleton, forall_eq,
        Option.some.injEq, exists_eq_left']

/-- A leaf that a node grants is granted by every extension of it. -/
theorem granted_leaf_of_extendedBy (extended : node.ExtendedBy larger)
    (granted : (walk values [.literal leaf] node).granted = true) :
    (walk fewer [.literal leaf] larger).granted = true := by
  obtain ⟨items, rfl, isMember⟩ := granted_leaf_iff.mp granted
  apply granted_leaf_iff.mpr
  cases extended with
  | array strings => exact ⟨_, rfl, strings leaf isMember⟩
  | scalar isScalar => exact absurd rfl (isScalar.2 items)

/-- A walk that is granted is granted on a larger tree and for no more than was asked. -/
theorem granted_walk_of_extendedBy (noMore : AsksNoMore fewer values) (segments : List Segment)
    (extended : node.ExtendedBy larger)
    (granted : (walk values segments node).granted = true) :
    (walk fewer segments larger).granted = true := by
  induction segments generalizing node larger with
  | nil => cases granted
  | cons segment rest inductionHypothesis =>
    cases rest with
    | nil =>
      cases segment with
      | placeholder name => cases granted
      | literal leaf => exact granted_leaf_of_extendedBy extended granted
    | cons second rest =>
      cases segment with
      | literal key =>
        obtain ⟨child, found, further⟩ := (granted_literal_iff (by simp)).mp granted
        obtain ⟨other, isOther, childExtended⟩ := extended.get? found
        exact (granted_literal_iff (by simp)).mpr
          ⟨other, isOther, inductionHypothesis childExtended further⟩
      | placeholder name =>
        obtain ⟨bound, isBound, each⟩ := (granted_placeholder_iff (by simp)).mp granted
        obtain ⟨fewerBound, isFewer, noFurther⟩ := noMore.exists_bound isBound
        refine (granted_placeholder_iff (by simp)).mpr ⟨fewerBound, isFewer, fun item isAsked => ?_⟩
        obtain ⟨key, child, isKey, found, further⟩ := each item (noFurther item isAsked)
        obtain ⟨other, isOther, childExtended⟩ := extended.get? found
        exact ⟨key, other, isKey, isOther, inductionHypothesis childExtended further⟩

end Walks

section Checks

variable {tree larger : Json} {context : RequestContext}

/-- A leaf that a tree grants is granted by every extension of it. -/
theorem Leaf.grants_of_extendedBy (extended : tree.ExtendedBy larger) {leaf : Leaf}
    (granted : leaf.grants tree context = true) : leaf.grants larger context = true :=
  granted_walk_of_extendedBy (asksNoMore_refl _) leaf.path.segments extended granted

/-- A leaf reports its path as it is written, and only when it is denied. -/
theorem Leaf.mem_reports_iff {leaf : Leaf} {reason : String} :
    reason ∈ leaf.reports tree context ↔
      reason = leaf.path.text ∧ leaf.grants tree context = false := by
  constructor
  · intro isReported
    obtain ⟨_, _, rfl⟩ := List.mem_map.mp isReported
    refine ⟨rfl, Bool.eq_false_iff.mpr fun granted => ?_⟩
    rw [reports_eq_nil_iff.mpr granted] at isReported
    cases isReported
  · rintro ⟨rfl, denied⟩
    have someReport : leaf.reports tree context ≠ [] := by
      rw [Ne, reports_eq_nil_iff, denied]
      exact Bool.false_ne_true
    obtain ⟨reason, isReported⟩ := List.exists_mem_of_ne_nil _ someReport
    obtain ⟨_, _, rfl⟩ := List.mem_map.mp isReported
    exact isReported

namespace Expression

variable {expression : Expression}

/-- When more leaves are true, an expression that was true stays so. -/
theorem truth_mono {value other : Leaf → Bool}
    (each : ∀ leaf, value leaf = true → other leaf = true)
    (holds : expression.truth value = true) : expression.truth other = true := by
  induction expression with
  | path target resolver => exact each _ holds
  | and left right leftHypothesis rightHypothesis =>
    simp only [truth, Bool.and_eq_true] at holds ⊢
    exact ⟨leftHypothesis holds.1, rightHypothesis holds.2⟩
  | or left right leftHypothesis rightHypothesis =>
    simp only [truth, Bool.or_eq_true] at holds ⊢
    exact holds.imp leftHypothesis rightHypothesis

/-- A check that grants on a tree grants on a larger one, whatever takes its reports. -/
theorem check_of_extendedBy (extended : tree.ExtendedBy larger) {σ : Type}
    {report : σ → String → σ} {sink : σ}
    (granted : (expression.check report tree context sink).1 = .ok true) :
    (expression.check report larger context sink).1 = .ok true := by
  by_cases someFails : ∃ leaf ∈ expression.leaves, ∃ error, leaf.Fails context error
  · obtain ⟨before, leaf, after, error, split, succeed, fails⟩ :=
      Leaf.exists_leftmost_failing someFails
    rw [check_of_fails split succeed fails] at granted
    cases granted
  · have succeed : ∀ leaf ∈ expression.leaves, leaf.Succeeds context := fun leaf isLeaf =>
      Leaf.succeeds_iff_not_fails.mpr fun fails => someFails ⟨leaf, isLeaf, fails⟩
    rw [check_of_succeeds succeed] at granted ⊢
    have holds := Except.ok.inj granted
    exact congrArg Except.ok (truth_mono (fun _ => Leaf.grants_of_extendedBy extended) holds)

/-- The leaves that a check visits depend on the request alone: the reasons are what those
leaves report, whatever the tree. -/
theorem exists_visited (expression : Expression) (context : RequestContext) :
    ∃ visited : List Leaf, ∀ tree reason,
      reason ∈ (expression.check DenialReasons.report tree context .empty).2.reasons ↔
        ∃ leaf ∈ visited, reason ∈ leaf.reports tree context := by
  by_cases someFails : ∃ leaf ∈ expression.leaves, ∃ error, leaf.Fails context error
  · obtain ⟨before, leaf, after, error, split, succeed, fails⟩ :=
      Leaf.exists_leftmost_failing someFails
    refine ⟨before, fun tree reason => ?_⟩
    rw [check_of_fails split succeed fails, receive, DenialReasons.foldl_report_empty,
      List.mem_eraseDups, List.mem_flatMap]
  · have succeed : ∀ leaf ∈ expression.leaves, leaf.Succeeds context := fun leaf isLeaf =>
      Leaf.succeeds_iff_not_fails.mpr fun fails => someFails ⟨leaf, isLeaf, fails⟩
    refine ⟨expression.leaves, fun tree reason => ?_⟩
    rw [check_of_succeeds succeed, receive, DenialReasons.foldl_report_empty,
      List.mem_eraseDups, List.mem_flatMap]

/-- An extension of a tree gives no reason of denial that the tree did not give. -/
theorem mem_reasons_of_extendedBy (extended : tree.ExtendedBy larger) {reason : String}
    (isReason :
      reason ∈ (expression.check DenialReasons.report larger context .empty).2.reasons) :
    reason ∈ (expression.check DenialReasons.report tree context .empty).2.reasons := by
  obtain ⟨visited, reasons⟩ := exists_visited expression context
  obtain ⟨leaf, isVisited, isReported⟩ := (reasons larger reason).mp isReason
  obtain ⟨isText, denied⟩ := Leaf.mem_reports_iff.mp isReported
  have deniedBefore : leaf.grants tree context = false := by
    rw [Bool.eq_false_iff] at denied ⊢
    exact fun granted => denied (Leaf.grants_of_extendedBy extended granted)
  exact (reasons tree reason).mpr
    ⟨leaf, isVisited, Leaf.mem_reports_iff.mpr ⟨isText, deniedBefore⟩⟩

end Expression

end Checks

/-- A check that grants on a tree grants on every larger one, and on a larger tree it gives no
new reason of denial. A path that is granted for some values is granted for values that ask
for no more, so that asking for more never leads to a grant; and order and repetitions of
what is asked decide nothing. -/
theorem Expression.check_is_monotone :
    (∀ (expression : Expression) (context : RequestContext) (tree larger : Json),
      tree.ExtendedBy larger →
        (∀ (σ : Type) (report : σ → String → σ) (sink : σ),
          (expression.check report tree context sink).1 = .ok true →
            (expression.check report larger context sink).1 = .ok true) ∧
        ∀ reason ∈ (expression.check DenialReasons.report larger context .empty).2.reasons,
          reason ∈ (expression.check DenialReasons.report tree context .empty).2.reasons) ∧
    (∀ (path : Path) (tree : Json) (values fewer : Placeholders), AsksNoMore fewer values →
      (path.evaluate tree values).granted = true →
        (path.evaluate tree fewer).granted = true) ∧
    (∀ (path : Path) (tree : Json) (values others : Placeholders), AsksTheSame values others →
      (path.evaluate tree values).granted = (path.evaluate tree others).granted) := by
  have fewerGranted (path : Path) (tree : Json) {values fewer : Placeholders}
      (noMore : AsksNoMore fewer values) (granted : (path.evaluate tree values).granted = true) :
      (path.evaluate tree fewer).granted = true :=
    granted_walk_of_extendedBy noMore path.segments (.refl tree) granted
  refine ⟨fun expression context tree larger extended => ⟨fun σ report sink granted => ?_,
    fun reason isReason => ?_⟩, fun path tree values fewer => fewerGranted path tree, ?_⟩
  · exact check_of_extendedBy extended granted
  · exact mem_reasons_of_extendedBy extended isReason
  · intro path tree values others same
    exact Bool.eq_iff_iff.mpr
      ⟨fewerGranted path tree same.symm.asksNoMore, fewerGranted path tree same.asksNoMore⟩

/-- A tree that gets one more right keeps its grant and loses its only reason of denial, and
what was granted for two environments is granted for one of them and for both in turn. -/
theorem Expression.check_is_monotone_in_rights_and_environments :
    let services : Path := ⟨"$each.service", [.placeholder "each", .literal "service"]⟩
    let expression : Expression :=
      .or (.path ⟨"prod.service", [.literal "prod", .literal "service"]⟩ none)
        (.path ⟨"prod.webhook", [.literal "prod", .literal "webhook"]⟩ none)
    let tree : Json := .object [("prod", .array [.string "service"])]
    let larger : Json := .object
      [("prod", .array [.string "service", .string "webhook"]),
        ("test", .array [.string "service"])]
    let each (names : List String) : Placeholders := [("each", Json.ofStrings names)]
    (tree.ExtendedBy larger ∧
      (expression.check appendReport tree .empty []).1 = .ok true ∧
      (expression.check appendReport larger .empty []).1 = .ok true) ∧
    (AsksNoMore (each ["test"]) (each ["prod", "test"]) ∧
      (services.evaluate larger (each ["prod", "test"])).granted = true ∧
      (services.evaluate larger (each ["test"])).granted = true) ∧
    AsksTheSame (each ["prod", "test"]) (each ["test", "prod", "test"]) ∧
      (services.evaluate larger (each ["prod", "test"])).granted =
        (services.evaluate larger (each ["test", "prod", "test"])).granted := by
  intro services expression tree larger each
  have extended : tree.ExtendedBy larger := by
    refine .object (fun key isPresent => ?_) fun key child other found isOther => ?_
    · by_cases isProd : key = "prod" <;> simp_all [Json.lookup]
    · by_cases isProd : key = "prod"
      · simp only [Json.lookup, isProd, if_true, Option.some.injEq] at found isOther
        subst found isOther
        exact .array (by simp)
      · simp [Json.lookup, isProd] at found
  have noMore : AsksNoMore (each ["test"]) (each ["prod", "test"]) := by
    intro name
    by_cases isEach : name = "each" <;> simp [each, Json.lookup, Json.ofStrings, isEach]
  have same : AsksTheSame (each ["prod", "test"]) (each ["test", "prod", "test"]) := by
    intro name
    by_cases isEach : name = "each" <;> simp [each, Json.lookup, Json.ofStrings, isEach]
  obtain ⟨inLarger, forFewer, forTheSame⟩ := check_is_monotone
  exact ⟨⟨extended, rfl, (inLarger expression .empty tree larger extended).1 _ _ _ rfl⟩,
    ⟨noMore, rfl, forFewer services larger _ _ noMore rfl⟩,
    same, forTheSame services larger _ _ same⟩

end Dashboard.Permission
