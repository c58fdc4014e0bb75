import Dashboard.Digest.Argon2.Block
import Dashboard.Digest.Argon2.Parameters

/-!
# Filling the memory

The memory is one array, lane after lane. Every pass goes through the four quarters
of all lanes; each new block combines the one before it in its lane with a block
that a random word chooses among those already complete.
-/

namespace Dashboard.Digest.Argon2

/-- A quarter of a lane during one pass. -/
structure Segment where
  pass : Nat
  quarter : Nat
  lane : Nat
  deriving DecidableEq, Repr

namespace Segment

/-- Whether the segment is of the start of the memory, where two blocks are given. -/
def isFirst (segment : Segment) : Bool :=
  segment.pass == 0 && segment.quarter == 0

/-- Whether the choices of the segment come from a sequence of their own. -/
def isIndependent (parameters : Parameters) (segment : Segment) : Bool :=
  match parameters.variant with
  | .dependent => false
  | .independent => true
  | .hybrid => segment.pass == 0 && segment.quarter < 2

/-- The random words of a segment, 128 for each number. -/
def addresses (parameters : Parameters) (segment : Segment) (number : Nat) : Block :=
  let input := Block.ofWords
    ([segment.pass, segment.lane, segment.quarter, parameters.blockCount, parameters.passes,
      parameters.variant.code, number].map UInt64.ofNat)
  Block.zero.compress (Block.zero.compress input)

/-- The number of blocks among which one may be chosen for a block of the segment. -/
def choices (parameters : Parameters) (segment : Segment) (index : Nat)
    (sameLane : Bool) : Nat :=
  let complete :=
    if segment.pass == 0 then segment.quarter * parameters.segmentLength
    else parameters.laneLength - parameters.segmentLength
  if sameLane then complete + index - 1
  else if index == 0 then complete - 1
  else complete

/-- The place in the memory of the block that a random word chooses: the upper half
chooses the lane, and the square of the lower half prefers late blocks. -/
def reference (parameters : Parameters) (segment : Segment) (index : Nat)
    (random : UInt64) : Nat :=
  let lane :=
    if segment.isFirst then segment.lane else (random >>> 32).toNat % parameters.lanes
  let count := segment.choices parameters index (lane == segment.lane)
  let low := random &&& 0xFFFFFFFF
  let square := ((low * low) >>> 32).toNat
  let back := count * square / Nat.pow 2 32
  let start :=
    if segment.pass == 0 || segment.quarter == 3 then 0
    else (segment.quarter + 1) * parameters.segmentLength
  lane * parameters.laneLength + (start + (count - 1 - back)) % parameters.laneLength

/-- Fills so many blocks of a segment from an index on. -/
def fillFrom (parameters : Parameters) (segment : Segment) (independent : Bool) :
    Nat → Nat → Block → Array Block → Array Block
  | 0, _, _, memory => memory
  | count + 1, index, latest, memory =>
    let words :=
      if independent && index % 128 == 0 then segment.addresses parameters (index / 128 + 1)
      else latest
    let base := segment.lane * parameters.laneLength
    let inLane := segment.quarter * parameters.segmentLength + index
    let before := if inLane == 0 then parameters.laneLength - 1 else inLane - 1
    let previous := memory.getD (base + before) Block.zero
    let random := if independent then words.word (index % 128) else previous.r0.w0
    let chosen := memory.getD (segment.reference parameters index random) Block.zero
    let combined := previous.compress chosen
    let block :=
      if segment.pass == 0 || parameters.version == .replacing then combined
      else combined.xor (memory.getD (base + inLane) Block.zero)
    fillFrom parameters segment independent count (index + 1) words
      (memory.setIfInBounds (base + inLane) block)

/-- Fills a segment. -/
def fill (parameters : Parameters) (segment : Segment) (memory : Array Block) :
    Array Block :=
  let independent := segment.isIndependent parameters
  let start := if segment.isFirst then 2 else 0
  let words :=
    if independent && segment.isFirst then segment.addresses parameters 1 else Block.zero
  segment.fillFrom parameters independent (parameters.segmentLength - start) start words memory

end Segment

/-- Fills the memory in all passes. -/
def fillMemory (parameters : Parameters) (memory : Array Block) : Array Block :=
  (List.range parameters.passes).foldl (fun memory pass =>
    (List.range 4).foldl (fun memory quarter =>
      (List.range parameters.lanes).foldl (fun memory lane =>
        Segment.fill parameters ⟨pass, quarter, lane⟩ memory) memory) memory) memory

end Dashboard.Digest.Argon2
