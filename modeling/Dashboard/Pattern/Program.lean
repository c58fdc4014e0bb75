import Dashboard.Pattern.Node

/-!
# Matching programs

A node becomes a list of instructions over characters. The machine runs all
threads in step, in the order of their preference, so that a match is found in
time linear in the text, and the preferred match is the one that a backtracking
reading from left to right would find first.
-/

namespace Dashboard.Pattern

/-- An instruction. Targets are indices of instructions. -/
inductive Instruction where
  | consume (ranges : Array (Nat × Nat))
  | look (look : Look)
  | save (slot : Nat)
  /-- Goes on at both targets and prefers the first. -/
  | split (first second : Nat)
  | jump (target : Nat)
  | accept
  deriving Repr, Inhabited

namespace Program

/-- A split that prefers to enter the body when the repetition is greedy. -/
def choose (greedy : Bool) (enter leave : Nat) : Instruction :=
  if greedy then .split enter leave else .split leave enter

mutual

/-- The number of instructions of a node. -/
def size : Node → Nat
  | .empty => 0
  | .set _ | .look _ => 1
  | .capture _ body => size body + 2
  | .run parts => runSize parts
  | .choice branches => choiceSize branches
  | .repetition 0 none _ body => size body + 2
  | .repetition (least + 1) none _ body => (least + 1) * size body + 1
  | .repetition least (some most) _ body =>
    least * size body + (most - least) * (size body + 1)

/-- The number of instructions of nodes in a row. -/
def runSize : List Node → Nat
  | [] => 0
  | part :: rest => size part + runSize rest

/-- The number of instructions of alternatives. -/
def choiceSize : List Node → Nat
  | [] => 0
  | [branch] => size branch
  | branch :: next :: rest => size branch + choiceSize (next :: rest) + 2

end

mutual

/-- The instructions of a node that start at an index. Those of an alternative
start behind a split; a body that may be empty is repeated at least once before
the loop asks whether to go on. -/
def ofNode (start : Nat) : Node → List Instruction
  | .empty => []
  | .set members => [.consume members.ranges.toArray]
  | .look look => [.look look]
  | .capture index body =>
    .save (2 * index) :: ofNode (start + 1) body ++ [.save (2 * index + 1)]
  | .run parts => ofRun start parts
  | .choice branches => ofChoice start branches
  | .repetition least most greedy body =>
    let length := size body
    let copies := (List.range least).flatMap fun count => ofNode (start + count * length) body
    match most with
    | none =>
      if least = 0 then
        let ask := choose greedy (start + 1) (start + length + 2)
        let again := if 0 < body.minLength then .jump start else ask
        ask :: ofNode (start + 1) body ++ [again]
      else
        copies ++ [choose greedy (start + (least - 1) * length) (start + least * length + 1)]
    | some bound =>
      let leave := start + least * length + (bound - least) * (length + 1)
      copies ++ (List.range (bound - least)).flatMap fun count =>
        let here := start + least * length + count * (length + 1)
        choose greedy (here + 1) leave :: ofNode (here + 1) body

/-- The instructions of nodes in a row. -/
def ofRun (start : Nat) : List Node → List Instruction
  | [] => []
  | part :: rest =>
    ofNode start part ++ ofRun (start + size part) rest

/-- The instructions of alternatives, the preferred ones first. -/
def ofChoice (start : Nat) : List Node → List Instruction
  | [] => []
  | [branch] => ofNode start branch
  | branch :: next :: rest =>
    let second := start + size branch + 2
    .split (start + 1) second :: ofNode (start + 1) branch ++
      .jump (second + choiceSize (next :: rest)) :: ofChoice second (next :: rest)

end

/-- The program of a pattern: the whole match is the capture of index zero. -/
def ofPattern (node : Node) : Array Instruction :=
  (ofNode 0 (.capture 0 node) ++ [Instruction.accept]).toArray

end Program

/-- Whether a character belongs to words. -/
def isWordChar (unicode : Bool) (character : Char) : Bool :=
  let code := character.toNat
  if code < 0x80 then
    Text.isAsciiLetter character || Text.isAsciiDigit character || character = '_'
  else unicode && Unicode.BinaryProperty.word.mem code

/-- Whether an assertion holds between two characters, where the text may end. -/
def Look.holds (look : Look) (before after : Option Char) : Bool :=
  let word (unicode : Bool) (side : Option Char) : Bool := side.any (isWordChar unicode)
  match look with
  | .textStart => before.isNone
  | .textEnd => after.isNone
  | .lineStart false => before.all (· = '\n')
  | .lineEnd false => after.all (· = '\n')
  | .lineStart true =>
    before.all (· = '\n') || (before = some '\r' && after ≠ some '\n')
  | .lineEnd true =>
    after.all (· = '\r') || (after = some '\n' && before ≠ some '\r')
  | .wordBoundary unicode => word unicode before != word unicode after
  | .notWordBoundary unicode => word unicode before == word unicode after
  | .wordStart unicode => !word unicode before && word unicode after
  | .wordEnd unicode => word unicode before && !word unicode after
  | .wordStartHalf unicode => !word unicode before
  | .wordEndHalf unicode => !word unicode after

/-- The positions where captures start and end, two slots for each. -/
abbrev Slots := List (Option Nat)

/-- A thread: where it stands in the program and what it has captured. -/
structure Thread where
  index : Nat
  slots : Slots

/-- Sets a slot. -/
def setSlot (slots : Slots) (slot position : Nat) : Slots :=
  slots.set slot (some position)

/-- Follows all instructions that consume nothing, from a stack of threads whose
first is preferred. Every index is visited once; the threads that wait for a
character or accept are collected last first. -/
def settle (program : Array Instruction) (before after : Option Char) (position : Nat) :
    Nat → List Thread → Array Bool → List Thread → List Thread × Array Bool
  | 0, _, visited, waiting => (waiting, visited)
  | _ + 1, [], visited, waiting => (waiting, visited)
  | fuel + 1, thread :: rest, visited, waiting =>
    if visited.getD thread.index true then
      settle program before after position fuel rest visited waiting
    else
      let marked := visited.setIfInBounds thread.index true
      let follow (threads : List Thread) : List Thread × Array Bool :=
        settle program before after position fuel (threads ++ rest) marked waiting
      match program[thread.index]? with
      | none => follow []
      | some (.jump target) => follow [{ thread with index := target }]
      | some (.split first second) =>
        follow [{ thread with index := first }, { thread with index := second }]
      | some (.save slot) =>
        follow [⟨thread.index + 1, setSlot thread.slots slot position⟩]
      | some (.look look) =>
        follow (if look.holds before after then [{ thread with index := thread.index + 1 }]
          else [])
      | some (.consume _) | some .accept =>
        settle program before after position fuel rest marked (thread :: waiting)

/-- Lets the waiting threads, preferred first, take one character; those that can
are collected last first. An accepting thread is a match, and the threads behind it
are dropped. -/
def advance (program : Array Instruction) (character : Option Char) :
    List Thread → List Thread → List Thread × Option Slots
  | moved, [] => (moved.reverse, none)
  | moved, thread :: rest =>
    match program[thread.index]? with
    | some .accept => (moved.reverse, some thread.slots)
    | some (.consume ranges) =>
      if character.any fun next => Unicode.Charset.memArray ranges next.toNat then
        advance program character ({ thread with index := thread.index + 1 } :: moved) rest
      else advance program character moved rest
    | _ => advance program character moved rest

/-- Runs the machine over the characters from a position on. Until a match is
found, a new thread starts at each position behind the ones that run. -/
def runFrom (program : Array Instruction) (slotCount : Nat) :
    List Char → Option Char → Nat → List Thread → Option Slots → Option Slots
  | characters, before, position, threads, found =>
    let fresh : List Thread :=
      if found.isSome then [] else [⟨0, List.replicate slotCount none⟩]
    let fuel := 3 * program.size + threads.length + 2
    let (reversed, _) := settle program before characters.head? position fuel
      (threads ++ fresh) (Array.replicate program.size false) []
    let (moved, accepted) := advance program characters.head? [] reversed.reverse
    let best := accepted.orElse fun _ => found
    match characters with
    | [] => best
    | character :: rest =>
      if moved.isEmpty && best.isSome then best
      else runFrom program slotCount rest (some character) (position + 1) moved best

end Dashboard.Pattern
