/-!
# Parameters of the password digest

The variant, the version, and the costs. The bounds are those within which a digest
is defined.
-/

namespace Dashboard.Digest.Argon2

/-- How the blocks that are combined are chosen: by the contents of the memory, by a
sequence of its own, or by the sequence in the first half of the first pass. -/
inductive Variant where
  | dependent
  | independent
  | hybrid
  deriving DecidableEq, Repr

namespace Variant

/-- The number of a variant in what is digested. -/
def code : Variant → Nat
  | dependent => 0
  | independent => 1
  | hybrid => 2

/-- The name of a variant. -/
def name : Variant → String
  | dependent => "argon2d"
  | independent => "argon2i"
  | hybrid => "argon2id"

/-- The variant of a name. -/
def ofName? (name : String) : Option Variant :=
  [dependent, independent, hybrid].find? fun variant => variant.name == name

end Variant

/-- Later passes replace blocks in the first version and add to them in the second. -/
inductive Version where
  | replacing
  | adding
  deriving DecidableEq, Repr

namespace Version

/-- The number of a version. -/
def code : Version → Nat
  | replacing => 16
  | adding => 19

/-- The version of a number. -/
def ofCode? (code : Nat) : Option Version :=
  [replacing, adding].find? fun version => version.code == code

end Version

/-- What a digest depends on besides the password and the salt. -/
structure Parameters where
  variant : Variant
  version : Version
  /-- The blocks of memory that are asked for. -/
  memory : Nat
  passes : Nat
  lanes : Nat
  /-- The number of octets of the digest. -/
  length : Nat
  associated : List UInt8
  deriving DecidableEq, Repr

namespace Parameters

/-- The parameters of new passwords. -/
def standard : Parameters := ⟨.hybrid, .adding, 19456, 2, 1, 32, []⟩

/-- Eight blocks for each lane at least, one pass, one lane, and a digest of four
octets are the least costs; lanes are counted in 24 bits. -/
def isValid (parameters : Parameters) : Bool :=
  8 ≤ parameters.memory && 8 * parameters.lanes ≤ parameters.memory &&
    1 ≤ parameters.passes && 1 ≤ parameters.lanes && parameters.lanes < Nat.pow 2 24 &&
    4 ≤ parameters.length

/-- The blocks of a lane between two points where lanes wait for each other. -/
def segmentLength (parameters : Parameters) : Nat :=
  parameters.memory / (4 * parameters.lanes)

/-- The blocks of a lane. -/
def laneLength (parameters : Parameters) : Nat :=
  4 * parameters.segmentLength

/-- The blocks that are used. -/
def blockCount (parameters : Parameters) : Nat :=
  parameters.lanes * parameters.laneLength

end Parameters

/-- The least number of octets of a salt. -/
def leastSaltLength : Nat := 8

end Dashboard.Digest.Argon2
