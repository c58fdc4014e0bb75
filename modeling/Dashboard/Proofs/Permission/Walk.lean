import Dashboard.Permission.Path

/-!
# Walks along a path

A check of a path is a fan of walks: each placeholder that a walk meets offers it the
elements of an array, or the one value that is bound. `Walk` says which walks there are
and where each of them fails; `Path.evaluate` grants when none fails, and its reports
count the failing walks one by one.
-/

namespace Dashboard.Permission

/-- What a walk takes at a placeholder: an element of an array by its position, or the
value itself when it is no array. -/
inductive Choice where
  | element (position : Nat)
  | itself
  deriving DecidableEq, Repr

/-- The value that a choice takes of what is bound. -/
inductive Takes : Json → Choice → Json → Prop where
  | element {items position item} (found : items[position]? = some item) :
      Takes (.array items) (.element position) item
  | itself {value} (single : ∀ items, value ≠ .array items) : Takes value .itself value

/-- The key that a scalar is used as: a string as it is, a number or a truth value by
its JSON text. -/
inductive KeyText : Json → String → Prop where
  | string {text} : KeyText (.string text) text
  | number {value} : KeyText (.number value) (Json.number value).render
  | bool {value} : KeyText (.bool value) (Json.bool value).render

/-- Null, arrays and objects stand for no key. -/
def NoScalar (value : Json) : Prop :=
  value = .null ∨ (∃ items, value = .array items) ∨ ∃ members, value = .object members

/-- The key that a walk follows at a segment, with the choice it made there, or the
denial at which it fails before it has one. -/
inductive Selects (values : Placeholders) :
    Segment → List Choice → Except Denial String → Prop where
  | literal {key} : Selects values (.literal key) [] (.ok key)
  | unbound {name} (missing : Json.lookup name values = none) :
      Selects values (.placeholder name) [] (.error (.unbound name))
  | scalar {name bound choice value key} (isBound : Json.lookup name values = some bound)
      (takes : Takes bound choice value) (text : KeyText value key) :
      Selects values (.placeholder name) [choice] (.ok key)
  | noScalar {name bound choice value} (isBound : Json.lookup name values = some bound)
      (takes : Takes bound choice value) (noText : NoScalar value) :
      Selects values (.placeholder name) [choice] (.error (.notScalar value))

/-- The walks from a node along the rest of a path: the choices made, and the denial at
which a walk fails. A placeholder that occurs again offers its choices again, and a walk
that meets an empty array has nothing to ask for. -/
inductive Walk (values : Placeholders) :
    List Segment → Json → List Choice → Option Denial → Prop where
  | granted {leaf items} (member : Json.string leaf ∈ items) :
      Walk values [.literal leaf] (.array items) [] none
  | notGranted {leaf node} (noMember : ∀ items, node = .array items → .string leaf ∉ items) :
      Walk values [.literal leaf] node [] (some (.notGranted leaf))
  | nothingAsked {name next rest node}
      (empty : Json.lookup name values = some (.array [])) :
      Walk values (.placeholder name :: next :: rest) node [] none
  | refused {segment next rest node made denial}
      (selects : Selects values segment made (.error denial)) :
      Walk values (segment :: next :: rest) node made (some denial)
  | absent {segment next rest node made key} (selects : Selects values segment made (.ok key))
      (noChild : node.get? key = none) :
      Walk values (segment :: next :: rest) node made (some (.absent key))
  | onward {segment next rest node made key child later outcome}
      (selects : Selects values segment made (.ok key)) (isChild : node.get? key = some child)
      (further : Walk values (next :: rest) child later outcome) :
      Walk values (segment :: next :: rest) node (made ++ later) outcome

/-- A walk that fails, by the choices it made, with its denial. -/
abbrev Failure := List Choice × Denial

/-- The failing walks behind a key, after some choices. -/
def failuresUnder (node : Json) (key : String) (made : List Choice)
    (next : Json → List Failure) : List Failure :=
  match node.get? key with
  | some child => (next child).map fun failure => (made ++ failure.1, failure.2)
  | none => [(made, .absent key)]

/-- The failing walks behind a chosen value. -/
def failuresBy (node value : Json) (choice : Choice) (next : Json → List Failure) :
    List Failure :=
  match scalarKey? value with
  | some key => failuresUnder node key [choice] next
  | none => [([choice], .notScalar value)]

/-- The failing walks along the rest of a path, in the order in which they are met. -/
def failures (values : Placeholders) : List Segment → Json → List Failure
  | [], _ => [([], .noLeaf)]
  | [.placeholder _], _ => [([], .noLeaf)]
  | [.literal leaf], node => if grantsLeaf node leaf then [] else [([], .notGranted leaf)]
  | .literal key :: second :: rest, node =>
    failuresUnder node key [] (failures values (second :: rest))
  | .placeholder name :: second :: rest, node =>
    match Json.lookup name values with
    | none => [([], .unbound name)]
    | some (.array items) => items.zipIdx.flatMap fun entry =>
        failuresBy node entry.1 (.element entry.2) (failures values (second :: rest))
    | some value => failuresBy node value .itself (failures values (second :: rest))

namespace Outcome

/-- An outcome grants exactly when nothing is denied. -/
def Consistent (outcome : Outcome) : Prop := outcome.granted = true ↔ outcome.denials = []

theorem consistent_grant : grant.Consistent := by simp [Consistent, grant]

theorem consistent_deny (denial : Denial) : (deny denial).Consistent := by
  simp [Consistent, deny]

/-- Two consistent outcomes are consistent together. -/
theorem Consistent.both {first second : Outcome} (left : first.Consistent)
    (right : second.Consistent) : (first.both second).Consistent := by
  unfold Consistent at left right ⊢
  simp [Outcome.both, left, right]

theorem consistent_all {outcomes : List Outcome}
    (each : ∀ outcome ∈ outcomes, outcome.Consistent) : (all outcomes).Consistent := by
  induction outcomes with
  | nil => exact consistent_grant
  | cons outcome rest inductionHypothesis =>
    have others := inductionHypothesis fun other member => each other (by simp [member])
    exact (each outcome (by simp)).both others

/-- Several outcomes together have the denials of each, in their order. -/
theorem denials_all (outcomes : List Outcome) :
    (all outcomes).denials = outcomes.flatMap Outcome.denials := by
  induction outcomes with
  | nil => rfl
  | cons outcome rest inductionHypothesis => simp [all, both, inductionHypothesis]

end Outcome

section Evaluation

variable {values : Placeholders}

/-- A step is consistent when what follows is. -/
theorem consistent_step (node : Json) (key : String) {next : Json → Outcome}
    (each : ∀ child, (next child).Consistent) : (step node key next).Consistent := by
  unfold step
  cases node.get? key with
  | some child => exact each child
  | none => exact Outcome.consistent_deny _

theorem consistent_stepByValue (node value : Json) {next : Json → Outcome}
    (each : ∀ child, (next child).Consistent) :
    (stepByValue node value next).Consistent := by
  unfold stepByValue
  cases scalarKey? value with
  | some key => exact consistent_step node key each
  | none => exact Outcome.consistent_deny _

/-- Whatever the segments, a walk grants exactly when it denies nothing. -/
theorem consistent_walk (segments : List Segment) (node : Json) :
    (walk values segments node).Consistent := by
  induction segments generalizing node with
  | nil => exact Outcome.consistent_deny _
  | cons segment rest inductionHypothesis =>
    cases rest with
    | nil =>
      cases segment with
      | placeholder name => exact Outcome.consistent_deny _
      | literal leaf =>
        unfold walk
        split
        · exact Outcome.consistent_grant
        · exact Outcome.consistent_deny _
    | cons second rest =>
      cases segment with
      | literal key => exact consistent_step node key inductionHypothesis
      | placeholder name =>
        unfold walk
        split
        · exact Outcome.consistent_deny _
        · apply Outcome.consistent_all
          intro outcome member
          obtain ⟨item, _, rfl⟩ := List.mem_map.mp member
          exact consistent_stepByValue node item inductionHypothesis
        · exact consistent_stepByValue node _ inductionHypothesis

/-- The denials of a step are those of its failures. -/
theorem denials_step (node : Json) (key : String) (made : List Choice)
    {next : Json → Outcome} {failing : Json → List Failure}
    (each : ∀ child, (next child).denials = (failing child).map Prod.snd) :
    (step node key next).denials = (failuresUnder node key made failing).map Prod.snd := by
  unfold step failuresUnder
  cases node.get? key with
  | some child => simp [each]
  | none => rfl

theorem denials_stepByValue (node value : Json) (choice : Choice)
    {next : Json → Outcome} {failing : Json → List Failure}
    (each : ∀ child, (next child).denials = (failing child).map Prod.snd) :
    (stepByValue node value next).denials =
      (failuresBy node value choice failing).map Prod.snd := by
  unfold stepByValue failuresBy
  cases scalarKey? value with
  | some key => exact denials_step node key [choice] each
  | none => rfl

/-- The denials of a check are those of the failing walks, in the same order. -/
theorem denials_walk (segments : List Segment) (node : Json) :
    (walk values segments node).denials = (failures values segments node).map Prod.snd := by
  induction segments generalizing node with
  | nil => rfl
  | cons segment rest inductionHypothesis =>
    cases rest with
    | nil =>
      cases segment with
      | placeholder name => rfl
      | literal leaf =>
        unfold walk failures
        split <;> rfl
    | cons second rest =>
      cases segment with
      | literal key => exact denials_step node key [] inductionHypothesis
      | placeholder name =>
        unfold walk failures
        cases Json.lookup name values with
        | none => rfl
        | some bound =>
          cases bound with
          | array items =>
            let onward := walk values (second :: rest)
            let failing := failures values (second :: rest)
            calc (Outcome.all (items.map fun item => stepByValue node item onward)).denials
              _ = items.flatMap fun item => (stepByValue node item onward).denials := by
                simp only [Outcome.denials_all, List.flatMap_map]
              _ = (items.zipIdx.map Prod.fst).flatMap fun item =>
                  (stepByValue node item onward).denials := by rw [List.zipIdx_map_fst]
              _ = items.zipIdx.flatMap fun entry =>
                  (failuresBy node entry.1 (.element entry.2) failing).map Prod.snd := by
                rw [List.flatMap_map]
                congr 1
                funext entry
                exact denials_stepByValue node entry.1 _ inductionHypothesis
              _ = _ := List.map_flatMap.symm
          | _ => exact denials_stepByValue node _ .itself inductionHypothesis

end Evaluation

end Dashboard.Permission
