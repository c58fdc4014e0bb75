import Dashboard.Permission.Expression

/-!
# What a grant requires

The conditions under which a check grants, read off the tree: keys that lead through
objects to an array with the leaf. A literal path asks for one such way, a placeholder
bound to texts for one way by each of them.
-/

namespace Dashboard.Permission

/-- Keys lead from a node through objects to an array that has a leaf. -/
def Holds (leaf : String) : List String → Json → Prop
  | [], node => ∃ items, node = .array items ∧ .string leaf ∈ items
  | key :: rest, node => ∃ child, node.get? key = some child ∧ Holds leaf rest child

/-- A path given as text is granted by a tree. -/
def Grants (tree : Json) (text : String) (values : Placeholders) : Prop :=
  ∃ path, Path.parse text = .ok path ∧ (path.evaluate tree values).granted = true

section Walks

variable {values : Placeholders} {node : Json} {leaf : String} {rest : List Segment}

/-- A step is granted when its key leads to a child that grants what follows. -/
theorem granted_step_iff {key : String} {next : Json → Outcome} :
    (step node key next).granted = true ↔
      ∃ child, node.get? key = some child ∧ (next child).granted = true := by
  unfold step
  cases node.get? key with
  | none => simp [Outcome.deny]
  | some child => simp

/-- Of several outcomes all must be granted. -/
theorem granted_all_iff {outcomes : List Outcome} :
    (Outcome.all outcomes).granted = true ↔
      ∀ outcome ∈ outcomes, outcome.granted = true := by
  induction outcomes with
  | nil => simp [Outcome.all, Outcome.grant]
  | cons outcome rest inductionHypothesis =>
    simp [Outcome.all, Outcome.both, inductionHypothesis]

/-- Behind a literal key, a walk needs the child of the key. -/
theorem granted_literal_iff {key : String} (more : rest ≠ []) :
    (walk values (.literal key :: rest) node).granted = true ↔
      ∃ child, node.get? key = some child ∧ (walk values rest child).granted = true := by
  obtain ⟨segment, others, rfl⟩ := List.exists_cons_of_ne_nil more
  rw [walk]
  exact granted_step_iff

/-- Behind a placeholder that is bound to texts, a walk needs the child of each. -/
theorem granted_texts_iff {name : String} {texts : List String} (more : rest ≠ [])
    (bound : Json.lookup name values = some (Json.ofStrings texts)) :
    (walk values (.placeholder name :: rest) node).granted = true ↔
      ∀ text ∈ texts, ∃ child, node.get? text = some child ∧
        (walk values rest child).granted = true := by
  obtain ⟨segment, others, rfl⟩ := List.exists_cons_of_ne_nil more
  rw [walk, bound]
  simp only [Json.ofStrings, List.map_map, granted_all_iff, List.forall_mem_map]
  constructor
  · intro each text isText
    exact granted_step_iff.mp (each text isText)
  · intro each text isText
    exact granted_step_iff.mpr (each text isText)

/-- A placeholder without a value is denied wherever a walk meets it. -/
theorem not_granted_of_unbound {name : String}
    (missing : Json.lookup name values = none) :
    (walk values (.placeholder name :: rest) node).granted = false := by
  cases rest with
  | nil => rfl
  | cons segment others =>
    rw [walk, missing]
    rfl

/-- A leaf is granted exactly where the node holds it. -/
theorem granted_leaf_iff :
    (walk values [.literal leaf] node).granted = true ↔ Holds leaf [] node := by
  unfold walk Holds
  split
  · rename_i holds
    cases node with
    | array items => simpa [grantsLeaf, Outcome.grant] using holds
    | null | bool _ | number _ | string _ | object _ => cases holds
  · rename_i lacks
    cases node with
    | array items => simpa [grantsLeaf, Outcome.deny] using lacks
    | null | bool _ | number _ | string _ | object _ => simp [Outcome.deny]

/-- A path of literals is granted where its keys lead to its leaf. -/
theorem granted_literals_iff {keys : List String} :
    (walk values (keys.map .literal ++ [.literal leaf]) node).granted = true ↔
      Holds leaf keys node := by
  induction keys generalizing node with
  | nil => exact granted_leaf_iff
  | cons key rest inductionHypothesis =>
    rw [List.map_cons, List.cons_append, granted_literal_iff (by simp)]
    simp only [inductionHypothesis, Holds]

/-- A path that fans out over texts is granted only where the tree holds the leaf by the
way of each text, used as one key whatever it is. -/
theorem holds_of_granted_texts {keys more texts : List String} {name : String}
    (bound : Json.lookup name values = some (Json.ofStrings texts))
    (granted : (walk values (keys.map .literal ++
      .placeholder name :: (more.map .literal ++ [.literal leaf])) node).granted = true) :
    ∀ text ∈ texts, Holds leaf (keys ++ text :: more) node := by
  induction keys generalizing node with
  | nil =>
    intro text isText
    obtain ⟨child, isChild, further⟩ :=
      (granted_texts_iff (by simp) bound).mp granted text isText
    exact ⟨child, isChild, granted_literals_iff.mp further⟩
  | cons key rest inductionHypothesis =>
    intro text isText
    obtain ⟨child, isChild, further⟩ := (granted_literal_iff (by simp)).mp granted
    exact ⟨child, isChild, inductionHypothesis further text isText⟩

/-- A path with a placeholder before its leaf is granted only when that has a value. -/
theorem bound_of_granted {keys : List String} {name : String}
    (granted : (walk values (keys.map .literal ++ .placeholder name :: rest) node).granted
      = true) : ∃ value, Json.lookup name values = some value := by
  induction keys generalizing node with
  | nil =>
    cases bound : Json.lookup name values with
    | none => simp [not_granted_of_unbound bound] at granted
    | some value => exact ⟨value, rfl⟩
  | cons key others inductionHypothesis =>
    obtain ⟨child, _, further⟩ := (granted_literal_iff (by simp)).mp granted
    exact inductionHypothesis further

end Walks

namespace Expression

variable {σ : Type} {report : σ → String → σ} {tree : Json} {context : RequestContext}
  {sink reported : σ}

/-- The check of a path decides by the path alone, with the values of its resolver. -/
theorem check_path {target : Path} {resolver : Option Resolver} {decision : Bool}
    (checked : (path target resolver).check report tree context sink = (.ok decision, reported)) :
    ∃ values, valuesFor target resolver context = .ok values ∧
      (target.evaluate tree values).granted = decision := by
  unfold check at checked
  split at checked
  · cases checked
  · rename_i values resolved
    cases checked
    exact ⟨values, resolved, rfl⟩

/-- The check of a path without a resolver grants what the path grants without values. -/
theorem grants_of_check {target : Path} {text : String}
    (parsed : Path.parse text = .ok target)
    (checked : (path target none).check report tree context sink = (.ok true, reported)) :
    Grants tree text [] := by
  obtain ⟨values, resolved, granted⟩ := check_path checked
  cases resolved
  exact ⟨target, parsed, granted⟩

/-- A check of either of two expressions that grants has granted one of them. -/
theorem check_or {left right : Expression}
    (checked : (left.or right).check report tree context sink = (.ok true, reported)) :
    (∃ between, left.check report tree context sink = (.ok true, between)) ∨
      ∃ between, right.check report tree context between = (.ok true, reported) := by
  unfold check at checked
  split at checked
  · cases checked
  · rename_i first between checkedLeft
    split at checked
    · cases checked
    · rename_i second final checkedRight
      cases first with
      | true => exact .inl ⟨between, checkedLeft⟩
      | false =>
        cases checked
        exact .inr ⟨between, checkedRight⟩

end Expression

end Dashboard.Permission
