import Dashboard.Digest.Octets

/-!
# SHA-256

The digest of a run of octets: the run is closed by a single bit and its length,
cut into blocks of sixteen words, and each block is folded into eight chaining
words by sixty-four rounds.
-/

namespace Dashboard.Digest.Sha256

/-- The chaining words. -/
structure Chain where
  a : UInt32
  b : UInt32
  c : UInt32
  d : UInt32
  e : UInt32
  f : UInt32
  g : UInt32
  h : UInt32
  deriving DecidableEq, Repr

/-- The chaining words before the first block. -/
def initial : Chain :=
  ⟨0x6A09E667, 0xBB67AE85, 0x3C6EF372, 0xA54FF53A, 0x510E527F, 0x9B05688C, 0x1F83D9AB,
    0x5BE0CD19⟩

/-- One constant for each round. -/
def roundConstants : List UInt32 :=
  [0x428A2F98, 0x71374491, 0xB5C0FBCF, 0xE9B5DBA5, 0x3956C25B, 0x59F111F1, 0x923F82A4,
    0xAB1C5ED5, 0xD807AA98, 0x12835B01, 0x243185BE, 0x550C7DC3, 0x72BE5D74, 0x80DEB1FE,
    0x9BDC06A7, 0xC19BF174, 0xE49B69C1, 0xEFBE4786, 0x0FC19DC6, 0x240CA1CC, 0x2DE92C6F,
    0x4A7484AA, 0x5CB0A9DC, 0x76F988DA, 0x983E5152, 0xA831C66D, 0xB00327C8, 0xBF597FC7,
    0xC6E00BF3, 0xD5A79147, 0x06CA6351, 0x14292967, 0x27B70A85, 0x2E1B2138, 0x4D2C6DFC,
    0x53380D13, 0x650A7354, 0x766A0ABB, 0x81C2C92E, 0x92722C85, 0xA2BFE8A1, 0xA81A664B,
    0xC24B8B70, 0xC76C51A3, 0xD192E819, 0xD6990624, 0xF40E3585, 0x106AA070, 0x19A4C116,
    0x1E376C08, 0x2748774C, 0x34B0BCB5, 0x391C0CB3, 0x4ED8AA4A, 0x5B9CCA4F, 0x682E6FF3,
    0x748F82EE, 0x78A5636F, 0x84C87814, 0x8CC70208, 0x90BEFFFA, 0xA4506CEB, 0xBEF9A3F7,
    0xC67178F2]

/-- A word turned to the right. -/
def rotate (word count : UInt32) : UInt32 :=
  (word >>> count) ||| (word <<< (32 - count))

/-- The word that follows those so far, which stand last first: the sum of the
second, the seventh, the fifteenth and the sixteenth back, two of them spread. -/
def nextWord (latest : List UInt32) : UInt32 :=
  let back (count : Nat) : UInt32 := latest.getD (count - 1) 0
  let near := back 2
  let far := back 15
  (rotate near 17 ^^^ rotate near 19 ^^^ (near >>> 10)) + back 7 +
    (rotate far 7 ^^^ rotate far 18 ^^^ (far >>> 3)) + back 16

/-- Adds so many words to those so far, which stand last first. -/
def extend : Nat → List UInt32 → List UInt32
  | 0, latest => latest
  | count + 1, latest => extend count (nextWord latest :: latest)

/-- The words of all rounds of a block. -/
def schedule (block : List UInt32) : List UInt32 :=
  (extend 48 block.reverse).reverse

/-- One round. -/
def Chain.step (chain : Chain) (constant word : UInt32) : Chain :=
  let spreadE := rotate chain.e 6 ^^^ rotate chain.e 11 ^^^ rotate chain.e 25
  let choice := (chain.e &&& chain.f) ^^^ (~~~chain.e &&& chain.g)
  let first := chain.h + spreadE + choice + constant + word
  let spreadA := rotate chain.a 2 ^^^ rotate chain.a 13 ^^^ rotate chain.a 22
  let majority :=
    (chain.a &&& chain.b) ^^^ (chain.a &&& chain.c) ^^^ (chain.b &&& chain.c)
  ⟨first + (spreadA + majority), chain.a, chain.b, chain.c, chain.d + first, chain.e,
    chain.f, chain.g⟩

/-- The rounds with their constants and words. -/
def rounds : Chain → List UInt32 → List UInt32 → Chain
  | chain, constant :: constants, word :: words =>
    rounds (chain.step constant word) constants words
  | chain, _, _ => chain

/-- The sums of the words in each place. -/
def Chain.add (left right : Chain) : Chain :=
  ⟨left.a + right.a, left.b + right.b, left.c + right.c, left.d + right.d,
    left.e + right.e, left.f + right.f, left.g + right.g, left.h + right.h⟩

/-- Folds one block of sixteen words into the chaining words. -/
def compress (chain : Chain) (block : List UInt32) : Chain :=
  chain.add (rounds chain roundConstants (schedule block))

/-- Folds so many blocks into the chaining words. -/
def absorb : Nat → Chain → List UInt32 → Chain
  | 0, chain, _ => chain
  | count + 1, chain, words => absorb count (compress chain (words.take 16)) (words.drop 16)

/-- The number of blocks of a message of so many octets, with the closing bit and the
length. -/
def blockCount (length : Nat) : Nat := (length + 9 + 63) / 64

/-- A message with the closing bit, zeros, and its length in bits. -/
def close (octets : List UInt8) : List UInt8 :=
  let length := octets.length
  padTo (64 * blockCount length - 8) (octets ++ [0x80]) ++ bigEndian 8 (8 * length)

/-- The chaining words of a message. -/
def chainOf (octets : List UInt8) : Chain :=
  absorb (blockCount octets.length) initial (bigEndianWords (close octets))

/-- The words as octets, greatest first. -/
def Chain.octets (chain : Chain) : List UInt8 :=
  [chain.a, chain.b, chain.c, chain.d, chain.e, chain.f, chain.g, chain.h].flatMap
    fun word => bigEndian 4 word.toNat

/-- The digest of a run of octets. -/
def digest (octets : List UInt8) : List UInt8 :=
  (chainOf octets).octets

end Dashboard.Digest.Sha256
