import Dashboard.Proofs.Permission.Walk

/-!
# Denials and their walks

The failing walks that a check meets are exactly the walks that fail, each met once. So
a path is granted when no walk fails, and it is reported once for each one that does.
-/

namespace Dashboard.Permission

/-- A value becomes a key when it is a text, a number or a truth value. -/
theorem scalarKey?_eq_some_iff {value : Json} {key : String} :
    scalarKey? value = some key ↔ KeyText value key := by
  constructor
  · intro isKey
    cases value with
    | string text =>
      cases isKey
      exact .string
    | number value =>
      cases isKey
      exact .number
    | bool value =>
      cases isKey
      exact .bool
    | null | array _ | object _ => cases isKey
  · intro text
    cases text <;> rfl

theorem scalarKey?_eq_none_iff {value : Json} :
    scalarKey? value = none ↔ NoScalar value := by
  cases value <;> simp [scalarKey?, NoScalar]

theorem grantsLeaf_iff {node : Json} {leaf : String} :
    grantsLeaf node leaf = true ↔ ∃ items, node = .array items ∧ .string leaf ∈ items := by
  cases node <;> simp [grantsLeaf]

section Choices

variable {values : Placeholders} {segment second : Segment} {rest : List Segment}
  {node : Json} {choices made : List Choice} {denial : Denial}

/-- A walk that fails behind a segment fails there, or behind the key that it followed. -/
theorem walk_cons_iff :
    Walk values (segment :: second :: rest) node choices (some denial) ↔
      Selects values segment choices (.error denial) ∨
      ∃ made key, Selects values segment made (.ok key) ∧
        ((node.get? key = none ∧ choices = made ∧ denial = .absent key) ∨
          ∃ child later, node.get? key = some child ∧ choices = made ++ later ∧
            Walk values (second :: rest) child later (some denial)) := by
  constructor
  · intro walk
    cases walk with
    | refused selects => exact .inl selects
    | absent selects noChild => exact .inr ⟨_, _, selects, .inl ⟨noChild, rfl, rfl⟩⟩
    | onward selects isChild further =>
      exact .inr ⟨_, _, selects, .inr ⟨_, _, isChild, rfl, further⟩⟩
  · rintro (refusal | ⟨made, key, selects, ⟨noChild, rfl, rfl⟩ |
      ⟨child, later, isChild, rfl, further⟩⟩)
    · exact .refused refusal
    · exact .absent selects noChild
    · exact .onward selects isChild further

/-- A step by a key fails where the key is absent, or where what follows it fails. -/
theorem mem_failuresUnder {key : String} {next : Json → List Failure} :
    (choices, denial) ∈ failuresUnder node key made next ↔
      (node.get? key = none ∧ choices = made ∧ denial = .absent key) ∨
        ∃ child later, node.get? key = some child ∧ choices = made ++ later ∧
          (later, denial) ∈ next child := by
  unfold failuresUnder
  cases node.get? key with
  | none => simp
  | some child =>
    simp only [List.mem_map, Prod.mk.injEq, Prod.exists, Option.some.injEq, reduceCtorEq,
      false_and, false_or]
    constructor
    · rintro ⟨later, _, member, rfl, rfl⟩
      exact ⟨child, later, rfl, rfl, member⟩
    · rintro ⟨_, later, rfl, rfl, member⟩
      exact ⟨later, denial, member, rfl, rfl⟩

/-- A step by a value fails where the value is no key, or where the step by its key does. -/
theorem mem_failuresBy {value : Json} {choice : Choice} {next : Json → List Failure} :
    (choices, denial) ∈ failuresBy node value choice next ↔
      (NoScalar value ∧ choices = [choice] ∧ denial = .notScalar value) ∨
        ∃ key, KeyText value key ∧
          (choices, denial) ∈ failuresUnder node key [choice] next := by
  unfold failuresBy
  split
  · rename_i key isKey
    have scalar : ¬ NoScalar value := by simp [← scalarKey?_eq_none_iff, isKey]
    simp [← scalarKey?_eq_some_iff, isKey, scalar]
  · rename_i noKey
    simp [← scalarKey?_eq_some_iff, ← scalarKey?_eq_none_iff, noKey]

/-- The failing walks behind some choice of a bound value, in terms of that choice. -/
theorem walk_placeholder_iff {name : String} {bound : Json}
    (isBound : Json.lookup name values = some bound) {next : Json → List Failure}
    (each : ∀ child later, (later, denial) ∈ next child ↔
      Walk values (second :: rest) child later (some denial)) :
    Walk values (.placeholder name :: second :: rest) node choices (some denial) ↔
      ∃ choice value, Takes bound choice value ∧
        (choices, denial) ∈ failuresBy node value choice next := by
  simp only [walk_cons_iff, mem_failuresBy, mem_failuresUnder, each]
  constructor
  · rintro (refusal | ⟨made, key, selects, outcome⟩)
    · cases refusal with
      | unbound missing => simp [isBound] at missing
      | noScalar found takes noText =>
        cases isBound.symm.trans found
        exact ⟨_, _, takes, .inl ⟨noText, rfl, rfl⟩⟩
    · cases selects with
      | scalar found takes text =>
        cases isBound.symm.trans found
        exact ⟨_, _, takes, .inr ⟨key, text, outcome⟩⟩
  · rintro ⟨choice, value, takes, ⟨noText, rfl, rfl⟩ | ⟨key, text, outcome⟩⟩
    · exact .inl (.noScalar isBound takes noText)
    · exact .inr ⟨[choice], key, .scalar isBound takes text, outcome⟩

end Choices

/-- A path that ends in a leaf. -/
def EndsInLeaf (segments : List Segment) : Prop :=
  ∃ leaf, segments.getLast? = some (.literal leaf)

/-- A text has one piece at least. -/
theorem pieces_ne_nil (separator : Char) (current characters : List Char) :
    Text.piecesFrom separator current characters ≠ [] := by
  induction characters generalizing current with
  | nil => simp [Text.piecesFrom]
  | cons character rest inductionHypothesis =>
    unfold Text.piecesFrom
    split
    · simp
    · exact inductionHypothesis _

/-- Every part is read as one segment. -/
theorem Segment.length_ofParts {parts : List (List Char)} {segments : List Segment}
    (read : Segment.ofParts parts = .ok segments) : segments.length = parts.length := by
  induction parts generalizing segments with
  | nil =>
    cases read
    rfl
  | cons part rest inductionHypothesis =>
    unfold Segment.ofParts at read
    split at read
    · cases read
    · split at read
      · cases read
      · rename_i others readOthers
        cases read
        simp [inductionHypothesis readOthers]

/-- A path that is read is kept as it is written, and has a leaf at its end. -/
theorem Path.endsInLeaf_of_parse {text : String} {path : Path}
    (parsed : Path.parse text = .ok path) : path.text = text ∧ EndsInLeaf path.segments := by
  unfold Path.parse at parsed
  split at parsed
  · cases parsed
  · split at parsed
    · cases parsed
    · rename_i segments read
      split at parsed
      · cases parsed
      · rename_i noPlaceholder
        cases parsed
        refine ⟨rfl, ?_⟩
        cases last : segments.getLast? with
        | none =>
          have lengths := Segment.length_ofParts read
          rw [List.getLast?_eq_none_iff.mp last] at lengths
          exact absurd (List.length_eq_zero_iff.mp lengths.symm) (pieces_ne_nil '.' [] _)
        | some segment =>
          cases segment with
          | literal leaf => exact ⟨leaf, last⟩
          | placeholder name => exact absurd last (noPlaceholder name)

/-- At the leaf, the failures that are met are the last steps of failing walks. -/
theorem mem_failures_leaf_iff {values : Placeholders} {leaf : String} {node : Json}
    {choices : List Choice} {denial : Denial} :
    (choices, denial) ∈ failures values [.literal leaf] node ↔
      Walk values [.literal leaf] node choices (some denial) := by
  unfold failures
  constructor
  · intro member
    split at member
    · cases member
    · rename_i noGrant
      simp only [List.mem_singleton, Prod.mk.injEq] at member
      obtain ⟨rfl, rfl⟩ := member
      apply Walk.notGranted
      intro items isArray isMember
      exact noGrant (grantsLeaf_iff.mpr ⟨items, isArray, isMember⟩)
  · intro walk
    cases walk with
    | notGranted noMember =>
      have noGrant : ¬ grantsLeaf node leaf = true := by
        rw [grantsLeaf_iff]
        rintro ⟨items, isArray, isMember⟩
        exact noMember items isArray isMember
      simp [noGrant]

section Steps

variable {values : Placeholders} {second : Segment} {rest : List Segment} {node : Json}
  {choices : List Choice} {denial : Denial}

/-- By a literal key, the failures that are met are the failing walks that step by it. -/
theorem mem_failures_literal_iff {key : String}
    (further : ∀ child later, (later, denial) ∈ failures values (second :: rest) child ↔
      Walk values (second :: rest) child later (some denial)) :
    (choices, denial) ∈ failures values (.literal key :: second :: rest) node ↔
      Walk values (.literal key :: second :: rest) node choices (some denial) := by
  rw [walk_cons_iff, failures, mem_failuresUnder]
  simp only [further]
  constructor
  · intro outcome
    exact .inr ⟨[], key, .literal, outcome⟩
  · rintro (refusal | ⟨made, _, selects, outcome⟩)
    · cases refusal
    · cases selects
      exact outcome

/-- A walk at a placeholder without a value fails there, with no choice made. -/
theorem walk_unbound_iff {name : String} (missing : Json.lookup name values = none) :
    Walk values (.placeholder name :: second :: rest) node choices (some denial) ↔
      choices = [] ∧ denial = .unbound name := by
  rw [walk_cons_iff]
  constructor
  · rintro (refusal | ⟨made, key, selects, _⟩)
    · cases refusal with
      | unbound _ => exact ⟨rfl, rfl⟩
      | noScalar isBound _ _ => simp [missing] at isBound
    · cases selects with
      | scalar isBound _ _ => simp [missing] at isBound
  · rintro ⟨rfl, rfl⟩
    exact .inl (.unbound missing)

/-- By a placeholder, the failures that are met are the failing walks that choose an element. -/
theorem mem_failures_placeholder_iff {name : String}
    (further : ∀ child later, (later, denial) ∈ failures values (second :: rest) child ↔
      Walk values (second :: rest) child later (some denial)) :
    (choices, denial) ∈ failures values (.placeholder name :: second :: rest) node ↔
      Walk values (.placeholder name :: second :: rest) node choices (some denial) := by
  unfold failures
  split
  · rename_i missing
    rw [walk_unbound_iff missing, List.mem_singleton, Prod.mk.injEq]
  · rename_i items isBound
    rw [walk_placeholder_iff isBound further, List.mem_flatMap]
    constructor
    · rintro ⟨⟨item, position⟩, isItem, member⟩
      exact ⟨_, item, .element (List.mem_zipIdx_iff_getElem?.mp isItem), member⟩
    · rintro ⟨choice, item, takes, member⟩
      cases takes with
      | element found => exact ⟨(item, _), List.mem_zipIdx_iff_getElem?.mpr found, member⟩
      | itself single => exact absurd rfl (single items)
  · rename_i value single isBound
    rw [walk_placeholder_iff isBound further]
    constructor
    · intro member
      exact ⟨.itself, value, .itself single, member⟩
    · rintro ⟨choice, item, takes, member⟩
      cases takes with
      | element _ => exact absurd rfl (single _)
      | itself _ => exact member

end Steps

/-- The failing walks that a check meets are the walks that fail. -/
theorem mem_failures_iff {values : Placeholders} {segments : List Segment}
    (leaf : EndsInLeaf segments) {node : Json} {choices : List Choice} {denial : Denial} :
    (choices, denial) ∈ failures values segments node ↔
      Walk values segments node choices (some denial) := by
  induction segments generalizing node choices with
  | nil => simp [EndsInLeaf] at leaf
  | cons segment rest inductionHypothesis =>
    cases rest with
    | nil =>
      obtain ⟨text, isLeaf⟩ := leaf
      cases isLeaf
      exact mem_failures_leaf_iff
    | cons second rest =>
      have tail : EndsInLeaf (second :: rest) := by simpa [EndsInLeaf] using leaf
      have further (child : Json) (later : List Choice) :
          (later, denial) ∈ failures values (second :: rest) child ↔
            Walk values (second :: rest) child later (some denial) := inductionHypothesis tail
      cases segment with
      | literal key => exact mem_failures_literal_iff further
      | placeholder name => exact mem_failures_placeholder_iff further

section Distinct

variable {node : Json}

/-- The choices that some failing walks made. -/
abbrev choicesOf (failing : List Failure) : List (List Choice) := failing.map Prod.fst

/-- A step by a key repeats no choices when what follows repeats none. -/
theorem nodup_failuresUnder (key : String) (made : List Choice) {next : Json → List Failure}
    (each : ∀ child, (choicesOf (next child)).Nodup) :
    (choicesOf (failuresUnder node key made next)).Nodup := by
  unfold failuresUnder
  cases node.get? key with
  | none => simp
  | some child =>
    have after : choicesOf ((next child).map fun failure => (made ++ failure.1, failure.2)) =
        (choicesOf (next child)).map (made ++ ·) := by simp
    rw [after]
    apply List.pairwise_map.mpr
    apply (each child).imp
    intro first second differ same
    exact differ (List.append_cancel_left same)

/-- A step by a value repeats no choices when what follows repeats none. -/
theorem nodup_failuresBy (value : Json) (choice : Choice) {next : Json → List Failure}
    (each : ∀ child, (choicesOf (next child)).Nodup) :
    (choicesOf (failuresBy node value choice next)).Nodup := by
  unfold failuresBy
  cases scalarKey? value with
  | some key => exact nodup_failuresUnder key [choice] each
  | none => simp

/-- Behind a choice, every failing walk made that choice first. -/
theorem head_of_mem_failuresBy {value : Json} {choice : Choice} {next : Json → List Failure}
    {choices : List Choice} (member : choices ∈ choicesOf (failuresBy node value choice next)) :
    choices.head? = some choice := by
  obtain ⟨⟨_, denial⟩, failing, rfl⟩ := List.mem_map.mp member
  obtain ⟨_, rfl, _⟩ | ⟨key, _, further⟩ := mem_failuresBy.mp failing
  · rfl
  · obtain ⟨_, rfl, _⟩ | ⟨_, later, _, rfl, _⟩ := mem_failuresUnder.mp further
    · rfl
    · rfl

/-- No two failing walks make the same choices. -/
theorem nodup_failures (values : Placeholders) (segments : List Segment) (node : Json) :
    (choicesOf (failures values segments node)).Nodup := by
  induction segments generalizing node with
  | nil => simp [failures]
  | cons segment rest inductionHypothesis =>
    cases rest with
    | nil =>
      cases segment with
      | placeholder name => simp [failures]
      | literal leaf =>
        unfold failures
        split <;> simp
    | cons second rest =>
      cases segment with
      | literal key => exact nodup_failuresUnder key [] inductionHypothesis
      | placeholder name =>
        unfold failures
        split
        · simp
        · rename_i items _
          rw [choicesOf, List.map_flatMap]
          apply List.pairwise_flatMap.mpr
          refine ⟨fun entry _ => nodup_failuresBy _ _ inductionHypothesis, ?_⟩
          have positions : (items.zipIdx.map Prod.snd).Nodup := by
            rw [List.zipIdx_map_snd]
            exact List.nodup_range'
          apply (List.pairwise_map.mp positions).imp
          intro first second differ firstChoices firstMember secondChoices secondMember same
          have firstHead := head_of_mem_failuresBy firstMember
          have secondHead := head_of_mem_failuresBy secondMember
          rw [same, secondHead] at firstHead
          exact differ (Choice.element.inj (Option.some.inj firstHead)).symm
        · exact nodup_failuresBy _ _ inductionHypothesis

end Distinct

/-- A check of a path grants exactly when no walk fails, and otherwise reports the path
as it is written once for each walk that fails, told apart by the choices made. -/
theorem Path.evaluate_reports_failing_walks {text : String} {path : Path}
    (parsed : Path.parse text = .ok path) (tree : Json) (values : Placeholders) :
    ((path.evaluate tree values).granted = true ↔
        ∀ choices outcome, Walk values path.segments tree choices outcome → outcome = none) ∧
      (∃ failing : List (List Choice × Denial),
        (failing.map Prod.fst).Nodup ∧
        (∀ choices denial, (choices, denial) ∈ failing ↔
          Walk values path.segments tree choices (some denial)) ∧
        (path.evaluate tree values).denials = failing.map Prod.snd ∧
        path.reports (path.evaluate tree values) = failing.map fun _ => text) ∧
      ((path.evaluate tree values).granted = false ↔
        path.reports (path.evaluate tree values) ≠ []) := by
  obtain ⟨written, leaf⟩ := Path.endsInLeaf_of_parse parsed
  have denials : (path.evaluate tree values).denials =
      (failures values path.segments tree).map Prod.snd := denials_walk path.segments tree
  have consistent : (path.evaluate tree values).Consistent := consistent_walk path.segments tree
  have isFailure (choices : List Choice) (denial : Denial) :
      (choices, denial) ∈ failures values path.segments tree ↔
        Walk values path.segments tree choices (some denial) := mem_failures_iff leaf
  have grantedIff : (path.evaluate tree values).granted = true ↔
      failures values path.segments tree = [] := by
    rw [← List.map_eq_nil_iff (f := Prod.snd), ← denials]
    exact consistent
  have noTwice := nodup_failures values path.segments tree
  refine ⟨?_, ⟨failures values path.segments tree, noTwice, isFailure, denials, ?_⟩, ?_⟩
  · rw [grantedIff]
    constructor
    · intro noFailure choices outcome walk
      cases outcome with
      | none => rfl
      | some denial =>
        have member := (isFailure choices denial).mpr walk
        simp [noFailure] at member
    · intro noneFails
      apply List.eq_nil_iff_forall_not_mem.mpr
      intro ⟨choices, denial⟩ member
      cases noneFails choices _ ((isFailure choices denial).mp member)
  · rw [Path.reports, denials, written, List.map_map]
    rfl
  · have noReport : path.reports (path.evaluate tree values) = [] ↔
        (path.evaluate tree values).granted = true := by
      rw [Path.reports, List.map_eq_nil_iff]
      exact consistent.symm
    rw [Ne, noReport, Bool.not_eq_true]

/-- Of three environments the tree grants one, and the path is reported twice. -/
theorem Path.evaluate_reports_two_environments :
    let path : Path := ⟨"$each.service", [.placeholder "each", .literal "service"]⟩
    let tree : Json := .object
      [("prod", .array [.string "service"]), ("test", .array [.string "webhook"])]
    let values : Placeholders :=
      [("each", .array [.string "prod", .string "test", .string "demo"])]
    Path.parse "$each.service" = .ok path ∧
      (∃ failing : List (List Choice × Denial),
        (failing.map Prod.fst).Nodup ∧
        (∀ choices denial, (choices, denial) ∈ failing ↔
          Walk values path.segments tree choices (some denial)) ∧
        (path.evaluate tree values).denials = failing.map Prod.snd ∧
        path.reports (path.evaluate tree values) = failing.map fun _ => "$each.service") ∧
      path.reports (path.evaluate tree values) = ["$each.service", "$each.service"] :=
  ⟨rfl, (Path.evaluate_reports_failing_walks rfl _ _).2.1, rfl⟩

end Dashboard.Permission
