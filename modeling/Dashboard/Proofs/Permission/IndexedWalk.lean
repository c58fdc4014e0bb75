import Dashboard.Proofs.Permission.Spelling

/-!
# Walks by index

A walk may be told by the index of the segment that it has come to, with the last index known from
the number of segments. Each look at the segments can then go wrong: there may be no last index,
the index may be behind the last segment, and the leaf may be a placeholder. Along a path that was
read none of this happens, and the walk by index is the walk along the rest of the path.
-/

namespace Dashboard.Permission

/-- What may go wrong in a walk by index. -/
inductive WalkFault where
  /-- There is no segment, and so no last index. -/
  | noLastIndex
  /-- The index is behind the last segment. -/
  | behindLast (index : Nat)
  /-- The last segment is a placeholder. -/
  | placeholderLeaf (name : String)
  deriving DecidableEq, Repr

/-- One less than the number of segments. -/
def lastIndex : List Segment → Except WalkFault Nat
  | [] => .error .noLastIndex
  | _ :: rest => .ok rest.length

/-- The segment of an index. -/
def segmentAt (segments : List Segment) (index : Nat) : Except WalkFault Segment :=
  match segments[index]? with
  | some segment => .ok segment
  | none => .error (.behindLast index)

/-- What a node grants at the last segment. -/
def leafOutcome (node : Json) : Segment → Except WalkFault Outcome
  | .placeholder name => .error (.placeholderLeaf name)
  | .literal leaf => .ok (if grantsLeaf node leaf then .grant else .deny (.notGranted leaf))

/-- The child of a node under a key, from which a walk that may go wrong goes on. -/
def stepAt (node : Json) (key : String) (next : Json → Except WalkFault Outcome) :
    Except WalkFault Outcome :=
  match node.get? key with
  | some child => next child
  | none => .ok (.deny (.absent key))

/-- The same for the key that a value stands for. -/
def stepByValueAt (node value : Json) (next : Json → Except WalkFault Outcome) :
    Except WalkFault Outcome :=
  match scalarKey? value with
  | some key => stepAt node key next
  | none => .ok (.deny (.notScalar value))

/-- The same for every value that a placeholder offers. -/
def chooseAt (values : Placeholders) (node : Json) (name : String)
    (next : Json → Except WalkFault Outcome) : Except WalkFault Outcome :=
  match Json.lookup name values with
  | none => .ok (.deny (.unbound name))
  | some (.array items) => do
    let outcomes ← items.mapM fun item => stepByValueAt node item next
    return .all outcomes
  | some value => stepByValueAt node value next

/-- A segment is found only within the path. -/
theorem lt_length_of_segmentAt {segments : List Segment} {index : Nat} {segment : Segment}
    (found : segmentAt segments index = .ok segment) : index < segments.length := by
  unfold segmentAt at found
  split at found
  · rename_i isAt
    exact (List.getElem?_eq_some_iff.mp isAt).1
  · cases found

/-- Walks from a node along the segments from an index on. -/
def walkAt (values : Placeholders) (segments : List Segment) (index : Nat) (node : Json) :
    Except WalkFault Outcome :=
  match lastIndex segments with
  | .error fault => .error fault
  | .ok last =>
    if index = last then (segmentAt segments last).bind (leafOutcome node)
    else match _found : segmentAt segments index with
      | .error fault => .error fault
      | .ok (.literal key) => stepAt node key fun child => walkAt values segments (index + 1) child
      | .ok (.placeholder name) =>
        chooseAt values node name fun child => walkAt values segments (index + 1) child
termination_by segments.length - index
decreasing_by
  all_goals
    have inside := lt_length_of_segmentAt _found
    omega

section Walks

variable {values : Placeholders} {segments rest : List Segment} {segment second : Segment}
  {index : Nat}

/-- A step whose continuation never faults is the step of the walk. -/
theorem stepAt_ok (node : Json) (key : String) (next : Json → Outcome) :
    stepAt node key (fun child => .ok (next child)) = .ok (step node key next) := by
  unfold stepAt step
  cases node.get? key <;> rfl

/-- A step by a value whose continuation never faults is that of the walk. -/
theorem stepByValueAt_ok (node value : Json) (next : Json → Outcome) :
    stepByValueAt node value (fun child => .ok (next child)) =
      .ok (stepByValue node value next) := by
  unfold stepByValueAt stepByValue
  cases scalarKey? value with
  | some key => exact stepAt_ok node key next
  | none => rfl

/-- A choice of elements whose continuation never faults is that of the walk. -/
theorem chooseAt_ok (node : Json) (name : String) :
    chooseAt values node name (fun child => .ok (walk values (second :: rest) child)) =
      .ok (walk values (.placeholder name :: second :: rest) node) := by
  rw [chooseAt, walk]
  generalize walk values (second :: rest) = next
  cases Json.lookup name values with
  | none => rfl
  | some bound =>
    cases bound with
    | array items =>
      have total : items.mapM (fun item => stepByValueAt node item fun child => .ok (next child)) =
          .ok (items.map fun item => stepByValue node item next) := by
        simp only [stepByValueAt_ok]
        exact List.mapM_pure
      exact congrArg (fun outcomes => outcomes.map Outcome.all) total
    | null | bool _ | number _ | string _ | object _ => exact stepByValueAt_ok node _ next

/-- The first segment behind those that were dropped is the one at the index. -/
theorem segmentAt_of_drop (onward : segments.drop index = segment :: rest) :
    segmentAt segments index = .ok segment := by
  rw [segmentAt, ← List.head?_drop, onward]
  rfl

/-- The last index is told by the segments that are left. -/
theorem lastIndex_of_drop (onward : segments.drop index = segment :: rest) :
    lastIndex segments = .ok (index + rest.length) := by
  have lengths := congrArg List.length onward
  rw [List.length_drop, List.length_cons] at lengths
  cases segments with
  | nil =>
    rw [List.length_nil] at lengths
    omega
  | cons first others =>
    rw [lastIndex]
    rw [List.length_cons] at lengths
    exact congrArg Except.ok (by omega)

/-- Along segments that end in a leaf, a walk by index meets no fault and is the walk along the
segments from the index on. -/
theorem walkAt_of_drop (leaf : EndsInLeaf segments) (onward : segments.drop index = rest)
    (further : rest ≠ []) (node : Json) :
    walkAt values segments index node = .ok (walk values rest node) := by
  induction rest generalizing index node with
  | nil => exact absurd rfl further
  | cons segment rest inductionHypothesis =>
    have last := lastIndex_of_drop onward
    have here := segmentAt_of_drop onward
    rw [walkAt, last]
    dsimp only
    cases rest with
    | nil =>
      obtain ⟨text, isLeaf⟩ := leaf
      have isLast : segments = segments.take index ++ [segment] := by
        rw [← onward, List.take_append_drop]
      rw [isLast, List.getLast?_concat] at isLeaf
      cases isLeaf
      rw [List.length_nil, Nat.add_zero, if_pos rfl, here]
      rfl
    | cons second rest =>
      have behind : segments.drop (index + 1) = second :: rest := by
        rw [← List.tail_drop, onward]
        rfl
      have each : ∀ child, walkAt values segments (index + 1) child =
          .ok (walk values (second :: rest) child) :=
        inductionHypothesis behind (List.cons_ne_nil _ _)
      rw [if_neg (by simp)]
      simp only [each]
      split
      · rename_i found
        cases here.symm.trans found
      · rename_i key found
        cases here.symm.trans found
        exact stepAt_ok node key _
      · rename_i name found
        cases here.symm.trans found
        exact chooseAt_ok node name

/-- No walk fails for want of a leaf. -/
theorem Walk.ne_noLeaf {node : Json} {choices : List Choice} {denial : Denial}
    (walk : Walk values segments node choices (some denial)) : denial ≠ .noLeaf := by
  generalize failing : some denial = outcome at walk
  induction walk with
  | granted | nothingAsked => cases failing
  | notGranted | absent =>
    cases failing
    exact nofun
  | refused selects =>
    cases failing
    cases selects <;> exact nofun
  | onward selects isChild further inductionHypothesis => exact inductionHypothesis failing

end Walks

/-- Reading and writing paths are inverse to each other. A text is read exactly when it has
characters, no part of it between dots is empty or the sign of a placeholder alone, and its last
part does not begin with that sign. What is read is written as the text, and well formed segments
are read from what they are written as. So a walk by index along a path that was read always has a
last index, never comes behind it, and finds a leaf there, whatever the tree and the values. -/
theorem path_reading_inverts_writing :
    (∀ text, (∃ path, Path.parse text = .ok path) ↔
      text ≠ "" ∧ (∀ part ∈ text.toList.splitOn '.', part ≠ [] ∧ part ≠ ['$']) ∧
        ∀ last, (text.toList.splitOn '.').getLast? = some last → last.head? ≠ some '$') ∧
    (∀ text path, Path.parse text = .ok path →
      path.text = text ∧ written path.segments = text ∧ WellFormed path.segments) ∧
    (∀ segments, WellFormed segments →
      Path.parse (written segments) = .ok ⟨written segments, segments⟩) ∧
    ∀ text path, Path.parse text = .ok path → ∀ tree values,
      walkAt values path.segments 0 tree = .ok (path.evaluate tree values) ∧
        Denial.noLeaf ∉ (path.evaluate tree values).denials := by
  refine ⟨fun _ => Path.exists_parse_iff, fun text path parsed => ?_,
    fun segments wellFormed => Path.parse_eq_ok_iff.mpr ⟨rfl, rfl, wellFormed⟩,
    fun text path parsed tree values => ?_⟩
  · obtain ⟨isText, spelled, wellFormed⟩ := Path.parse_eq_ok_iff.mp parsed
    exact ⟨isText, spelled.symm, wellFormed⟩
  · obtain ⟨-, leaf⟩ := Path.endsInLeaf_of_parse parsed
    refine ⟨walkAt_of_drop leaf List.drop_zero (ne_nil_of_endsInLeaf leaf) tree, fun noLeaf => ?_⟩
    rw [Path.evaluate, denials_walk] at noLeaf
    obtain ⟨⟨choices, denial⟩, failing, isNoLeaf⟩ := List.mem_map.mp noLeaf
    exact Walk.ne_noLeaf ((mem_failures_iff leaf).mp failing) isNoLeaf

/-- A path whose placeholder has a name that begins like a placeholder. -/
def signedPath : List Segment := [.literal "cion", .placeholder "$env", .literal "service"]

/-- Such a path is read from what it is written as and walked by index, while a walk by index
along no segments and one to a placeholder at the end go wrong. -/
theorem signed_path_is_read_back :
    let tree : Json := .object [("cion", .object [("prod", .array [.string "service"])])]
    let values : Placeholders := [("$env", .string "prod")]
    WellFormed signedPath ∧ Path.parse "cion.$$env.service" = .ok ⟨written signedPath, signedPath⟩ ∧
    walkAt values signedPath 0 tree = .ok .grant ∧
    walkAt values [] 0 tree = .error .noLastIndex ∧
    walkAt values [.placeholder "$env"] 0 tree = .error (.placeholderLeaf "$env") := by
  intro tree values
  have wellFormed : WellFormed signedPath := by
    refine ⟨fun segment isSegment => ?_, fun segment isSegment => ?_, "service", rfl⟩
    all_goals
      simp only [signedPath, List.mem_cons, List.not_mem_nil, or_false] at isSegment
      rcases isSegment with rfl | rfl | rfl
    · exact ⟨by decide, by rintro _ ⟨⟩; decide⟩
    · exact ⟨by decide, nofun⟩
    · exact ⟨by decide, by rintro _ ⟨⟩; decide⟩
    all_goals decide
  obtain ⟨-, -, readBack, walks⟩ := path_reading_inverts_writing
  have parsed := readBack signedPath wellFormed
  refine ⟨wellFormed, parsed, (walks _ _ parsed tree values).1, ?_, ?_⟩
  · rw [walkAt]
    rfl
  · rw [walkAt]
    rfl

end Dashboard.Permission
