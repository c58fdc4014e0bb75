import Dashboard.Pattern.Node
import Dashboard.Text.Utf8

/-!
# The size of compiled patterns

A pattern is refused when its automaton over octets would take more than ten
mebibytes, forwards or backwards. The automaton is not built: its size follows
from the node. A state takes 32 octets, a transition eight and an alternative
four. Forwards, the octet sequences of a set share their tails as far as possible;
backwards, they share their heads.
-/

namespace Dashboard.Pattern

open Unicode (Charset)

/-- A run of octet ranges, one for each octet of a character. -/
abbrev OctetRanges := List (Nat × Nat)

namespace OctetRanges

/-- The largest code with a given number of octets. -/
def largestOfWidth : Nat → Nat
  | 1 => 0x7F
  | 2 => 0x7FF
  | 3 => 0xFFFF
  | _ => 0x10FFFF

/-- Where a range has to be cut so that its codes have one width and their octets
vary independently: the end of the first part. -/
def cut? (lower upper : Nat) : Option Nat :=
  let byWidth := [1, 2, 3].findSome? fun width =>
    let largest := largestOfWidth width
    if lower ≤ largest ∧ largest < upper then some largest else none
  if lower < 0xE000 ∧ 0xD7FF < upper ∧ lower ≤ 0xD7FF then some 0xD7FF
  else if byWidth.isSome then byWidth
  else if upper < 0x80 then none
  else [1, 2, 3].findSome? fun places =>
    let unit := Nat.pow 64 places
    if lower / unit = upper / unit then none
    else if lower % unit ≠ 0 then some (lower / unit * unit + unit - 1)
    else if upper % unit ≠ unit - 1 then some (upper / unit * unit - 1)
    else none

/-- The octet sequences of a range of codes, in ascending order. -/
def ofRange : Nat → Nat → Nat → List OctetRanges
  | 0, _, _ => []
  | fuel + 1, lower, upper =>
    if upper < lower then []
    else if 0xD800 ≤ lower ∧ lower ≤ 0xDFFF then ofRange fuel 0xE000 upper
    else match cut? lower upper with
      | some middle => ofRange fuel lower middle ++ ofRange fuel (middle + 1) upper
      | none =>
        let octets (code : Nat) : List Nat :=
          (Text.Utf8.encodeChar (Char.ofNat code)).map UInt8.toNat
        [(octets lower).zip (octets upper)]

/-- The octet sequences of a set. -/
def ofSet (set : Charset) : List OctetRanges :=
  set.ranges.flatMap fun range => ofRange 64 range.1 range.2

end OctetRanges

/-- A tree of octet ranges: the sequences that begin alike share their beginning. -/
inductive OctetTree where
  | leaf
  | node (children : List ((Nat × Nat) × OctetTree))

namespace OctetTree

/-- Adds a sequence that is not less than all before it; children are kept last first. -/
def insert : OctetRanges → OctetTree → OctetTree
  | [], tree => tree
  | range :: rest, .leaf => .node [(range, insert rest .leaf)]
  | range :: rest, .node [] => .node [(range, insert rest .leaf)]
  | range :: rest, .node ((last, child) :: others) =>
    if last = range then .node ((last, insert rest child) :: others)
    else .node ((range, insert rest .leaf) :: (last, child) :: others)

mutual

/-- The number of edges of a tree. -/
def edges : OctetTree → Nat
  | .leaf => 0
  | .node children => edgesOf children

/-- The number of edges below some children, their own included. -/
def edgesOf : List ((Nat × Nat) × OctetTree) → Nat
  | [] => 0
  | (_, child) :: rest => edges child + 1 + edgesOf rest

end

/-- A state of an automaton: its ranges with the numbers of the states they lead to. -/
abbrev Row := List ((Nat × Nat) × Nat)

mutual

/-- Numbers the states of a tree, equal ones alike; the rows so far are kept last
first, and state zero is the end. -/
def share (rows : List Row) : OctetTree → Nat × List Row
  | .leaf => (0, rows)
  | .node children =>
    let (row, known) := shareAll rows children
    match known.findIdx? (· == row) with
    | some index => (known.length - index, known)
    | none => (known.length + 1, row :: known)

/-- Numbers the states below some children. -/
def shareAll (rows : List Row) : List ((Nat × Nat) × OctetTree) → Row × List Row
  | [] => ([], rows)
  | (range, child) :: rest =>
    let (number, known) := share rows child
    let (row, final) := shareAll known rest
    ((range, number) :: row, final)

end

end OctetTree

/-- The size of an automaton in octets, read forwards and backwards. -/
structure Footprint where
  forward : Nat
  backward : Nat
  deriving DecidableEq, Repr

namespace Footprint

/-- The size of a state. -/
def state : Nat := 32

/-- The size of a transition. -/
def transition : Nat := 8

/-- The size of an alternative. -/
def alternative : Nat := 4

/-- The same size in both directions. -/
def both (size : Nat) : Footprint := ⟨size, size⟩

/-- The size of two automata together. -/
def add (left right : Footprint) : Footprint :=
  ⟨left.forward + right.forward, left.backward + right.backward⟩

/-- The size of several copies of an automaton. -/
def times (count : Nat) (size : Footprint) : Footprint :=
  ⟨count * size.forward, count * size.backward⟩

/-- The size of a set. A single character is a chain of its octets, and an ASCII set
is one state. -/
def ofSet (set : Charset) : Footprint :=
  match set.single? with
  | some code => both (state * (Text.Utf8.encodeChar (Char.ofNat code)).length)
  | none =>
    if set.isEmpty then both state
    else if set.isAscii then both (2 * state + transition * set.ranges.length)
    else
      let sequences := OctetRanges.ofSet set
      let tree : OctetTree :=
        sequences.foldl (fun tree sequence => OctetTree.insert sequence tree) .leaf
      let rows : List OctetTree.Row := (OctetTree.share [] tree).2
      let transitions := rows.foldl (fun total row => total + row.length) 0
      { forward := state * (rows.length + 1) + transition * transitions
        backward := state * (tree.edges + 2) + alternative * sequences.length }

/-- The set of a node that matches one character. -/
def set? : Node → Option Charset
  | .set members => some members
  | _ => none

/-- The size of the alternatives that lead to two places. -/
def fork : Footprint := both (state + 2 * alternative)

mutual

/-- The size of a node. -/
def ofNode : Node → Footprint
  | .empty | .look _ => both state
  | .set members => ofSet members
  | .capture _ body => (ofNode body).add ⟨2 * state, 0⟩
  | .run parts => ofNodes parts
  | .choice branches =>
    match branches.mapM set? with
    | some sets => ofSet (Charset.unions sets)
    | none =>
      (ofNodes branches).add (both (2 * state + alternative * branches.length))
  | .repetition least most _ body =>
    let size := ofNode body
    match least, most with
    | 0, none =>
      if 0 < body.minLength then size.add fork
      else (size.add (fork.times 2)).add (both state)
    | least, none => (size.times least).add fork
    | least, some bound =>
      let copies := size.times least
      if least = bound then copies
      else (copies.add ((size.add fork).times (bound - least))).add (both state)

/-- The size of nodes together. -/
def ofNodes : List Node → Footprint
  | [] => both 0
  | part :: rest => (ofNode part).add (ofNodes rest)

end

/-- The size of a pattern: the node, its capture, the accepting state, and the loop
that looks for a start. -/
def ofPattern (node : Node) : Footprint :=
  (ofNode (.capture 0 node)).add (both (4 * state + transition + 2 * alternative))

/-- The largest size of a pattern. -/
def limit : Nat := 10 * Nat.pow 2 20

/-- Whether a pattern is small enough. -/
def isWithinLimit (node : Node) : Bool :=
  let size := ofPattern node
  size.forward ≤ limit && size.backward ≤ limit

mutual

/-- An upper bound of the size of a node, found without its octet sequences: a range
has at most a dozen sequences of at most four states. -/
def bound : Node → Nat
  | .empty | .look _ => state
  | .set members => 2 * state + 12 * 4 * (state + transition) * members.ranges.length
  | .capture _ body => bound body + 2 * state
  | .run parts => boundAll parts
  | .choice branches => boundAll branches + 2 * state + alternative * branches.length
  | .repetition least most _ body =>
    let size := bound body + 4 * state
    size * max (most.getD 0) (least + 2)

/-- An upper bound of the size of nodes together. -/
def boundAll : List Node → Nat
  | [] => 0
  | part :: rest => bound part + boundAll rest

end

end Footprint

end Dashboard.Pattern
