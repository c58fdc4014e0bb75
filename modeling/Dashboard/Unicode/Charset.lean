/-!
# Character sets

A set of code points as a list of ranges, both ends included. In canonical form
the ranges ascend and neither overlap nor touch, so that a set has one form and
membership is a binary search.
-/

namespace Dashboard.Unicode

/-- The largest code point. -/
def maxCode : Nat := 0x10FFFF

/-- A set of code points as ranges in canonical form. -/
structure Charset where
  ranges : List (Nat × Nat)
  deriving DecidableEq, Repr, Inhabited

namespace Charset

/-- The set without members. -/
def empty : Charset := ⟨[]⟩

/-- Every code point. -/
def full : Charset := ⟨[(0, maxCode)]⟩

/-- Joins the ranges of a list in ascending order of their lower ends; the merged
ranges so far are kept last first. -/
def merge : List (Nat × Nat) → List (Nat × Nat) → List (Nat × Nat)
  | reversed, [] => reversed.reverse
  | [], range :: rest => merge [range] rest
  | (lower, upper) :: reversed, (nextLower, nextUpper) :: rest =>
    if nextLower ≤ upper + 1 then merge ((lower, max upper nextUpper) :: reversed) rest
    else merge ((nextLower, nextUpper) :: (lower, upper) :: reversed) rest

/-- The set of the members of any list of ranges. -/
def ofRanges (ranges : List (Nat × Nat)) : Charset :=
  ⟨merge [] ((ranges.filter fun range => range.1 ≤ range.2).mergeSort
    fun left right => left.1 ≤ right.1)⟩

/-- The set of the members of a list of characters. -/
def ofChars (characters : List Char) : Charset :=
  ofRanges (characters.map fun character => (character.toNat, character.toNat))

/-- The set of one character. -/
def singleton (character : Char) : Charset :=
  ⟨[(character.toNat, character.toNat)]⟩

/-- The members of either set. -/
def union (left right : Charset) : Charset :=
  ofRanges (left.ranges ++ right.ranges)

/-- The members of any of the sets. -/
def unions (sets : List Charset) : Charset :=
  ofRanges (sets.flatMap Charset.ranges)

/-- The gaps between ranges in canonical form, from a code point on. -/
def gaps : Nat → List (Nat × Nat) → List (Nat × Nat)
  | start, [] => if start ≤ maxCode then [(start, maxCode)] else []
  | start, (lower, upper) :: rest =>
    if start < lower then (start, lower - 1) :: gaps (upper + 1) rest
    else gaps (upper + 1) rest

/-- The code points that are not members. -/
def negate (set : Charset) : Charset := ⟨gaps 0 set.ranges⟩

/-- The members of both sets. -/
def intersect (left right : Charset) : Charset :=
  (union left.negate right.negate).negate

/-- The members of the first set that the second does not have. -/
def difference (left right : Charset) : Charset :=
  left.intersect right.negate

/-- The members of exactly one of the sets. -/
def symmetricDifference (left right : Charset) : Charset :=
  (left.union right).difference (left.intersect right)

/-- Whether all members are below U+0080. -/
def isAscii (set : Charset) : Bool :=
  set.ranges.all fun range => range.2 < 0x80

/-- Whether the set has no members. -/
def isEmpty (set : Charset) : Bool := set.ranges.isEmpty

/-- The only member of a set of one. -/
def single? (set : Charset) : Option Nat :=
  match set.ranges with
  | [(lower, upper)] => if lower = upper then some lower else none
  | _ => none

/-- Membership by search through the ranges between two indices. -/
def searchRanges (ranges : Array (Nat × Nat)) (code : Nat) : Nat → Nat → Nat → Bool
  | 0, _, _ => false
  | fuel + 1, low, high =>
    if high ≤ low then false
    else
      let middle := (low + high) / 2
      match ranges[middle]? with
      | none => false
      | some (lower, upper) =>
        if code < lower then searchRanges ranges code fuel low middle
        else if upper < code then searchRanges ranges code fuel (middle + 1) high
        else true

/-- Membership in a set whose ranges are laid out as an array. -/
def memArray (ranges : Array (Nat × Nat)) (code : Nat) : Bool :=
  searchRanges ranges code (ranges.size + 1) 0 ranges.size

/-- Membership in a set. -/
def mem (set : Charset) (code : Nat) : Bool :=
  set.ranges.any fun range => range.1 ≤ code && code ≤ range.2

end Charset

end Dashboard.Unicode
