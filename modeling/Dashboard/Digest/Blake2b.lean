import Dashboard.Digest.Octets
import Dashboard.Digest.Row

/-!
# BLAKE2b

A digest of one to sixty-four octets without a key. Blocks of 128 octets are folded
into eight chaining words; the last block is marked, and a message without octets
has one block of zeros.
-/

namespace Dashboard.Digest.Blake2b

/-- The words from which the chain starts. -/
def initial : List UInt64 :=
  [0x6A09E667F3BCC908, 0xBB67AE8584CAA73B, 0x3C6EF372FE94F82B, 0xA54FF53A5F1D36F1,
    0x510E527FADE682D1, 0x9B05688C2B3E6C1F, 0x1F83D9ABFB41BD6B, 0x5BE0CD19137E2179]

/-- The order in which each round takes the words of the block. -/
def orders : List (List Nat) :=
  let first := [0, 1, 2, 3, 4, 5, 6, 7, 8, 9, 10, 11, 12, 13, 14, 15]
  let second := [14, 10, 4, 8, 9, 15, 13, 6, 1, 12, 0, 2, 11, 7, 5, 3]
  [first, second,
    [11, 8, 12, 0, 5, 2, 15, 13, 10, 14, 3, 6, 7, 1, 9, 4],
    [7, 9, 3, 1, 13, 12, 11, 14, 2, 6, 5, 10, 4, 0, 15, 8],
    [9, 0, 5, 7, 2, 4, 10, 15, 14, 1, 11, 12, 6, 8, 3, 13],
    [2, 12, 6, 10, 0, 11, 8, 3, 4, 13, 7, 5, 15, 14, 1, 9],
    [12, 5, 1, 15, 14, 13, 4, 10, 0, 7, 6, 3, 9, 2, 8, 11],
    [13, 11, 7, 14, 12, 1, 3, 9, 5, 0, 15, 4, 8, 6, 2, 10],
    [6, 15, 14, 9, 11, 3, 0, 8, 12, 2, 13, 7, 1, 4, 10, 5],
    [10, 2, 8, 4, 7, 6, 1, 5, 15, 11, 9, 14, 3, 12, 13, 0],
    first, second]

/-- Mixes four words with two words of the block. -/
def mix (first second : UInt64) (quad : Quad) : Quad :=
  let a := quad.a + quad.b + first
  let d := rotateRight (quad.d ^^^ a) 32
  let c := quad.c + d
  let b := rotateRight (quad.b ^^^ c) 24
  let a := a + b + second
  let d := rotateRight (d ^^^ a) 16
  let c := c + d
  let b := rotateRight (b ^^^ c) 63
  ⟨a, b, c, d⟩

/-- One round with the words of the block in the order of the round. -/
def round (row : Row) (words : List UInt64) : Row :=
  row.round fun place => mix (words.getD (2 * place) 0) (words.getD (2 * place + 1) 0)

/-- Folds a block into the chaining words. The count of octets so far, this block
included, and the mark of the last block go in with it. -/
def compress (chain block : List UInt64) (count : Nat) (last : Bool) : List UInt64 :=
  let low := UInt64.ofNat count
  let high := UInt64.ofNat (count / Nat.pow 2 64)
  let mark : UInt64 := if last then 0xFFFFFFFFFFFFFFFF else 0
  let start := Row.ofWords (chain ++ initial)
  let marked :=
    { start with
      w12 := start.w12 ^^^ low
      w13 := start.w13 ^^^ high
      w14 := start.w14 ^^^ mark }
  let mixed := orders.foldl
    (fun row order => round row (order.map fun place => block.getD place 0)) marked
  (chain.zip (mixed.words.zip (mixed.words.drop 8))).map fun (word, lower, upper) =>
    word ^^^ lower ^^^ upper

/-- Folds so many full blocks and the last block into the chaining words. -/
def absorb : Nat → List UInt64 → Nat → List UInt8 → List UInt64
  | 0, chain, count, octets =>
    compress chain (littleEndianWords (padTo 128 octets)) (count + octets.length) true
  | blocks + 1, chain, count, octets =>
    let next := compress chain (littleEndianWords (octets.take 128)) (count + 128) false
    absorb blocks next (count + 128) (octets.drop 128)

/-- The chaining words before the first block of a digest of so many octets. -/
def start (length : Nat) : List UInt64 :=
  match initial with
  | [] => []
  | first :: rest => (first ^^^ 0x01010000 ^^^ UInt64.ofNat length) :: rest

/-- The digest of so many octets, at most sixty-four, of a message. -/
def digest (length : Nat) (octets : List UInt8) : List UInt8 :=
  ((absorb ((octets.length - 1) / 128) (start length) 0 octets).flatMap fun word =>
    littleEndian 8 word.toNat).take length

end Dashboard.Digest.Blake2b
