import Dashboard.Digest.Argon2.Memory
import Dashboard.Digest.Blake2b

/-!
# The password digest

The tag of a password and a salt: a first digest of all that is given starts every
lane, the memory is filled, and the last blocks of the lanes together are digested
to the length asked for.
-/

namespace Dashboard.Digest.Argon2

/-- So many chained digests of sixty-four octets, the first half of each, and then a
digest of the rest. -/
def chain : Nat → Nat → List UInt8 → List UInt8
  | 0, length, octets => Blake2b.digest length octets
  | count + 1, length, octets =>
    let link := Blake2b.digest 64 octets
    link.take 32 ++ chain count (length - 32) link

/-- A digest of any length. -/
def longDigest (length : Nat) (octets : List UInt8) : List UInt8 :=
  let links := if length ≤ 64 then 0 else (length + 31) / 32 - 2
  chain links length (littleEndian 4 length ++ octets)

/-- A run of octets behind its length. -/
def counted (octets : List UInt8) : List UInt8 :=
  littleEndian 4 octets.length ++ octets

/-- The digest of everything that is given. -/
def firstDigest (parameters : Parameters) (password salt : List UInt8) : List UInt8 :=
  Blake2b.digest 64
    ([parameters.lanes, parameters.length, parameters.memory, parameters.passes,
        parameters.version.code, parameters.variant.code].flatMap (littleEndian 4) ++
      counted password ++ counted salt ++ counted [] ++ counted parameters.associated)

/-- One of the two first blocks of a lane. -/
def firstBlock (first : List UInt8) (lane index : Nat) : Block :=
  Block.ofWords (littleEndianWords
    (longDigest 1024 (first ++ littleEndian 4 index ++ littleEndian 4 lane)))

/-- The memory before the first pass. -/
def firstMemory (parameters : Parameters) (first : List UInt8) : Array Block :=
  (List.range parameters.lanes).foldl (fun memory lane =>
    (List.range 2).foldl (fun memory index =>
      memory.setIfInBounds (lane * parameters.laneLength + index)
        (firstBlock first lane index)) memory)
    (Array.replicate parameters.blockCount Block.zero)

/-- The last blocks of the lanes, exclusively or'd. -/
def lastBlock (parameters : Parameters) (memory : Array Block) : Block :=
  (List.range parameters.lanes).foldl (fun block lane =>
    block.xor (memory.getD ((lane + 1) * parameters.laneLength - 1) Block.zero)) Block.zero

/-- The tag of a password and a salt. -/
def tag (parameters : Parameters) (password salt : List UInt8) : List UInt8 :=
  let memory := fillMemory parameters
    (firstMemory parameters (firstDigest parameters password salt))
  longDigest parameters.length (lastBlock parameters memory).octets

end Dashboard.Digest.Argon2
