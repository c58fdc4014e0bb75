/-!
# Rows of words

Sixteen words of 64 bits, and the round that mixes them four at a time: first the
columns of the four-by-four square, then its diagonals. What the mixing of four
words is depends on who uses the round.
-/

namespace Dashboard.Digest

/-- A word of 64 bits turned to the right. -/
@[inline] def rotateRight (word count : UInt64) : UInt64 :=
  (word >>> count) ||| (word <<< (64 - count))

/-- Four words that are mixed together. -/
structure Quad where
  a : UInt64
  b : UInt64
  c : UInt64
  d : UInt64
  deriving DecidableEq, Repr

/-- A row of sixteen words. -/
structure Row where
  w0 : UInt64
  w1 : UInt64
  w2 : UInt64
  w3 : UInt64
  w4 : UInt64
  w5 : UInt64
  w6 : UInt64
  w7 : UInt64
  w8 : UInt64
  w9 : UInt64
  w10 : UInt64
  w11 : UInt64
  w12 : UInt64
  w13 : UInt64
  w14 : UInt64
  w15 : UInt64
  deriving DecidableEq, Repr

namespace Row

/-- The row of zeros. -/
def zero : Row := ⟨0, 0, 0, 0, 0, 0, 0, 0, 0, 0, 0, 0, 0, 0, 0, 0⟩

/-- The row of the first sixteen words of a run; missing words are zero. -/
def ofWords (words : List UInt64) : Row :=
  ⟨words.getD 0 0, words.getD 1 0, words.getD 2 0, words.getD 3 0, words.getD 4 0,
    words.getD 5 0, words.getD 6 0, words.getD 7 0, words.getD 8 0, words.getD 9 0,
    words.getD 10 0, words.getD 11 0, words.getD 12 0, words.getD 13 0, words.getD 14 0,
    words.getD 15 0⟩

/-- The words of a row in order. -/
def words (row : Row) : List UInt64 :=
  [row.w0, row.w1, row.w2, row.w3, row.w4, row.w5, row.w6, row.w7, row.w8, row.w9, row.w10,
    row.w11, row.w12, row.w13, row.w14, row.w15]

/-- The words of two rows, exclusively or'd place by place. -/
def xor (left right : Row) : Row :=
  ⟨left.w0 ^^^ right.w0, left.w1 ^^^ right.w1, left.w2 ^^^ right.w2, left.w3 ^^^ right.w3,
    left.w4 ^^^ right.w4, left.w5 ^^^ right.w5, left.w6 ^^^ right.w6, left.w7 ^^^ right.w7,
    left.w8 ^^^ right.w8, left.w9 ^^^ right.w9, left.w10 ^^^ right.w10, left.w11 ^^^ right.w11,
    left.w12 ^^^ right.w12, left.w13 ^^^ right.w13, left.w14 ^^^ right.w14,
    left.w15 ^^^ right.w15⟩

/-- One round: the four columns with the first four mixings, then the four diagonals
with the other four. -/
@[inline] def round (mix : Nat → Quad → Quad) (row : Row) : Row :=
  let column0 := mix 0 ⟨row.w0, row.w4, row.w8, row.w12⟩
  let column1 := mix 1 ⟨row.w1, row.w5, row.w9, row.w13⟩
  let column2 := mix 2 ⟨row.w2, row.w6, row.w10, row.w14⟩
  let column3 := mix 3 ⟨row.w3, row.w7, row.w11, row.w15⟩
  let diagonal0 := mix 4 ⟨column0.a, column1.b, column2.c, column3.d⟩
  let diagonal1 := mix 5 ⟨column1.a, column2.b, column3.c, column0.d⟩
  let diagonal2 := mix 6 ⟨column2.a, column3.b, column0.c, column1.d⟩
  let diagonal3 := mix 7 ⟨column3.a, column0.b, column1.c, column2.d⟩
  ⟨diagonal0.a, diagonal1.a, diagonal2.a, diagonal3.a, diagonal3.b, diagonal0.b, diagonal1.b,
    diagonal2.b, diagonal2.c, diagonal3.c, diagonal0.c, diagonal1.c, diagonal1.d, diagonal2.d,
    diagonal3.d, diagonal0.d⟩

end Row

end Dashboard.Digest
