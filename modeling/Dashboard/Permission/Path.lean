import Dashboard.Json.Printer
import Dashboard.Permission.Error
import Dashboard.Text.Split

/-!
# Permission paths

A path names a capability in a tree: every segment but the last selects a key of
a nested object, and the last must be a member of the array reached. A segment
that starts with `$` is a placeholder, whose value is given when the path is
checked; a placeholder bound to an array asks for every element of it.
-/

namespace Dashboard.Permission

/-- One step of a path. -/
inductive Segment where
  | literal (key : String)
  | placeholder (name : String)
  deriving DecidableEq, Repr

/-- A segment as it is written. -/
def Segment.text : Segment → String
  | literal key => key
  | placeholder name => "$" ++ name

/-- A path with its segments. -/
structure Path where
  text : String
  segments : List Segment
  deriving DecidableEq, Repr

/-- The values of placeholders, each name once. -/
abbrev Placeholders := List (String × Json)

/-- The segment of one part. -/
def Segment.ofPart : List Char → Except PathFault Segment
  | [] => .error .emptySegment
  | ['$'] => .error .unnamedPlaceholder
  | '$' :: name => .ok (.placeholder (String.ofList name))
  | key => .ok (.literal (String.ofList key))

/-- The segments of some parts; the first fault counts. -/
def Segment.ofParts : List (List Char) → Except PathFault (List Segment)
  | [] => .ok []
  | part :: rest =>
    match Segment.ofPart part with
    | .error fault => .error fault
    | .ok segment =>
      match Segment.ofParts rest with
      | .error fault => .error fault
      | .ok segments => .ok (segment :: segments)

namespace Path

/-- Reads a path. -/
def parse (text : String) : Except PathFault Path :=
  if text.toList.isEmpty then .error .empty
  else match Segment.ofParts (Text.pieces '.' text.toList) with
    | .error fault => .error fault
    | .ok segments =>
      match segments.getLast? with
      | some (.placeholder _) => .error .placeholderLeaf
      | _ => .ok ⟨text, segments⟩

/-- The names of the placeholders, in order and with repetitions. -/
def placeholderNames (path : Path) : List String :=
  path.segments.filterMap fun segment =>
    match segment with
    | .placeholder name => some name
    | .literal _ => none

/-- Whether a path has placeholders. -/
def hasPlaceholders (path : Path) : Bool :=
  path.segments.any fun segment =>
    match segment with
    | .placeholder _ => true
    | .literal _ => false

end Path

/-- Why one walk along a path failed. -/
inductive Denial where
  /-- The placeholder has no value. -/
  | unbound (name : String)
  /-- The chosen value of the placeholder is null, an array or an object. -/
  | notScalar (value : Json)
  /-- The node is no object with the key. -/
  | absent (key : String)
  /-- The node reached is no array with the leaf. -/
  | notGranted (leaf : String)
  /-- The path ends in a placeholder, or has no segments. -/
  | noLeaf
  deriving DecidableEq, Repr

/-- The outcome of walking along a path: whether all is granted, and the walks that
failed, in the order in which they were met. -/
structure Outcome where
  granted : Bool
  denials : List Denial
  deriving DecidableEq, Repr

namespace Outcome

/-- A walk that reached its end. -/
def grant : Outcome := ⟨true, []⟩

/-- A walk that failed. -/
def deny (denial : Denial) : Outcome := ⟨false, [denial]⟩

/-- Two outcomes that must both grant. -/
def both (first second : Outcome) : Outcome :=
  ⟨first.granted && second.granted, first.denials ++ second.denials⟩

/-- Outcomes that must all grant; none of them denies nothing. -/
def all : List Outcome → Outcome
  | [] => grant
  | outcome :: rest => outcome.both (all rest)

end Outcome

/-- The key that a scalar value stands for. -/
def scalarKey? : Json → Option String
  | .string text => some text
  | .number value => some value.text
  | .bool value => some (if value then "true" else "false")
  | .null | .array _ | .object _ => none

/-- Whether a node is an array with a string as a member. -/
def grantsLeaf (node : Json) (leaf : String) : Bool :=
  match node with
  | .array items => items.any fun item => item = .string leaf
  | _ => false

/-- The child of a node under a key, or the denial that it is absent. -/
def step (node : Json) (key : String) (next : Json → Outcome) : Outcome :=
  match node.get? key with
  | some child => next child
  | none => .deny (.absent key)

/-- The same for the key that a value stands for. -/
def stepByValue (node : Json) (value : Json) (next : Json → Outcome) : Outcome :=
  match scalarKey? value with
  | some key => step node key next
  | none => .deny (.notScalar value)

/-- Walks from a node along the rest of a path. Every element of an array is walked,
also behind one that fails. -/
def walk (values : Placeholders) : List Segment → Json → Outcome
  | [], _ => .deny .noLeaf
  | [.placeholder _], _ => .deny .noLeaf
  | [.literal leaf], node =>
    if grantsLeaf node leaf then .grant else .deny (.notGranted leaf)
  | .literal key :: second :: rest, node => step node key (walk values (second :: rest))
  | .placeholder name :: second :: rest, node =>
    match Json.lookup name values with
    | none => .deny (.unbound name)
    | some (.array items) =>
      .all (items.map fun item => stepByValue node item (walk values (second :: rest)))
    | some value => stepByValue node value (walk values (second :: rest))

/-- Checks a path against a tree. -/
def Path.evaluate (path : Path) (tree : Json) (values : Placeholders) : Outcome :=
  walk values path.segments tree

/-- What is reported of an outcome: the path as written, once for every failed walk. -/
def Path.reports (path : Path) (outcome : Outcome) : List String :=
  outcome.denials.map fun _ => path.text

end Dashboard.Permission
