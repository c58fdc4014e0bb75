import Dashboard.Digest.Octets
import Dashboard.Digest.Row

/-!
# Memory blocks

A block of the memory of the password digest: 128 words in eight rows. Two blocks
are combined by mixing the rows of their exclusive or, then its columns of word
pairs, and adding the exclusive or again.
-/

namespace Dashboard.Digest.Argon2

/-- A block of eight rows. -/
structure Block where
  r0 : Row
  r1 : Row
  r2 : Row
  r3 : Row
  r4 : Row
  r5 : Row
  r6 : Row
  r7 : Row
  deriving DecidableEq, Repr

namespace Block

/-- The block of zeros. -/
def zero : Block :=
  ⟨Row.zero, Row.zero, Row.zero, Row.zero, Row.zero, Row.zero, Row.zero, Row.zero⟩

/-- The block of the first 128 words of a run; missing words are zero. -/
def ofWords (words : List UInt64) : Block :=
  let row (place : Nat) : Row := Row.ofWords (words.drop (16 * place))
  ⟨row 0, row 1, row 2, row 3, row 4, row 5, row 6, row 7⟩

/-- The rows in order. -/
def rows (block : Block) : List Row :=
  [block.r0, block.r1, block.r2, block.r3, block.r4, block.r5, block.r6, block.r7]

/-- The octets of a block, each word least octet first. -/
def octets (block : Block) : List UInt8 :=
  block.rows.flatMap fun row => row.words.flatMap fun word => littleEndian 8 word.toNat

/-- The word at a place below 128; zero beyond. -/
def word (block : Block) (place : Nat) : UInt64 :=
  ((block.rows.getD (place / 16) Row.zero).words).getD (place % 16) 0

/-- The words of two blocks, exclusively or'd place by place. -/
def xor (left right : Block) : Block :=
  ⟨left.r0.xor right.r0, left.r1.xor right.r1, left.r2.xor right.r2, left.r3.xor right.r3,
    left.r4.xor right.r4, left.r5.xor right.r5, left.r6.xor right.r6, left.r7.xor right.r7⟩

/-- The sum of two words and twice the product of their lower halves. -/
@[inline] def multiplyAdd (left right : UInt64) : UInt64 :=
  left + right + 2 * (left &&& 0xFFFFFFFF) * (right &&& 0xFFFFFFFF)

/-- Mixes four words; the products of the lower halves go into the sums. -/
@[inline] def mix (quad : Quad) : Quad :=
  let a := multiplyAdd quad.a quad.b
  let d := rotateRight (quad.d ^^^ a) 32
  let c := multiplyAdd quad.c d
  let b := rotateRight (quad.b ^^^ c) 24
  let a := multiplyAdd a b
  let d := rotateRight (d ^^^ a) 16
  let c := multiplyAdd c d
  let b := rotateRight (b ^^^ c) 63
  ⟨a, b, c, d⟩

/-- One round over a row. -/
def mixRow (row : Row) : Row :=
  row.round fun _ quad => mix quad

/-- Mixes each row. -/
def mixRows (block : Block) : Block :=
  ⟨mixRow block.r0, mixRow block.r1, mixRow block.r2, mixRow block.r3, mixRow block.r4,
    mixRow block.r5, mixRow block.r6, mixRow block.r7⟩

/-- The column of word pairs that two selections name. -/
@[inline] def column (block : Block) (first second : Row → UInt64) : Row :=
  ⟨first block.r0, second block.r0, first block.r1, second block.r1, first block.r2,
    second block.r2, first block.r3, second block.r3, first block.r4, second block.r4,
    first block.r5, second block.r5, first block.r6, second block.r6, first block.r7,
    second block.r7⟩

/-- The columns of word pairs as rows. -/
def transpose (block : Block) : Block :=
  ⟨block.column Row.w0 Row.w1, block.column Row.w2 Row.w3, block.column Row.w4 Row.w5,
    block.column Row.w6 Row.w7, block.column Row.w8 Row.w9, block.column Row.w10 Row.w11,
    block.column Row.w12 Row.w13, block.column Row.w14 Row.w15⟩

/-- Combines two blocks. -/
def compress (left right : Block) : Block :=
  let joined := left.xor right
  joined.xor joined.mixRows.transpose.mixRows.transpose

end Block

end Dashboard.Digest.Argon2
