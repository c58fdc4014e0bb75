import Dashboard.Json.Basic

/-!
# Number literals

A literal is kept as its digits. An integer literal that fits 64 bits, signed or
unsigned, denotes that integer; `-0` and every other literal denotes a binary64
number, unless it is beyond their range.

The binary64 reading keeps the leading digits that fit an unsigned 64-bit
integer, rounds that integer once, and scales it by a rounded power of ten. The
result is finite, and at most a few units in the last place from the exact value.
-/

namespace Dashboard.Json

/-- The digits of a number literal, each below ten. -/
structure NumberLiteral where
  negative : Bool
  whole : List Nat
  fraction : List Nat
  exponentNegative : Bool
  exponent : List Nat
  /-- Whether the literal has neither a point nor an exponent mark. -/
  isInteger : Bool
  deriving DecidableEq, Repr

namespace NumberLiteral

/-- The number that a run of digits denotes. -/
def ofDigits (digits : List Nat) : Nat :=
  digits.foldl (fun value digit => value * 10 + digit) 0

/-- One more than the largest unsigned 64-bit integer. -/
def wordBound : Nat := Nat.pow 2 64

/-- The leading digits that fit 64 bits behind `value`, and the digits left over. -/
def leadingWord (value : Nat) : List Nat → Nat × List Nat
  | [] => (value, [])
  | digit :: rest =>
    if value * 10 + digit < wordBound then leadingWord (value * 10 + digit) rest
    else (value, digit :: rest)

/-- The binary64 number nearest to a power of ten. -/
def powerOfTen (exponent : Nat) : Double :=
  (Double.ofNat? (Nat.pow 10 exponent)).getD (Double.zero false)

/-- Scales a number by a power of ten. An exponent below `-308` is taken in steps
of that size, which reach zero or the last step before the fuel ends. -/
def scaleByPowerOfTen : Nat → Double → Int → Option Double
  | 0, _, _ => none
  | fuel + 1, value, exponent =>
    if exponent.natAbs ≤ 308 then
      if 0 ≤ exponent then value.mul? (powerOfTen exponent.natAbs)
      else value.div? (powerOfTen exponent.natAbs)
    else if value.isZero then some value
    else if 0 ≤ exponent then none
    else (value.div? (powerOfTen 308)).bind fun scaled =>
      scaleByPowerOfTen fuel scaled (exponent + 308)

/-- The binary64 reading of a literal. Each skipped digit of the whole part raises
the power of ten, and each digit kept of the fraction lowers it. -/
def toDouble? (literal : NumberLiteral) : Option Double :=
  let (whole, skipped) := leadingWord 0 literal.whole
  let (significand, left) := leadingWord whole literal.fraction
  let placed : Int := (skipped.length : Int) + left.length - literal.fraction.length
  let stated : Int := ofDigits literal.exponent
  let exponent := if literal.exponentNegative then placed - stated else placed + stated
  ((Double.ofNat? significand).bind fun value => scaleByPowerOfTen 8 value exponent).map
    fun value => if literal.negative then value.neg else value

/-- The number that a literal denotes; `none` when it is beyond the range of
binary64 numbers. -/
def value? (literal : NumberLiteral) : Option JsonNumber :=
  let magnitude := ofDigits literal.whole
  if literal.isInteger && !literal.negative && magnitude < wordBound then
    some (.int magnitude)
  else if literal.isInteger && literal.negative && 0 < magnitude && magnitude ≤ Nat.pow 2 63 then
    some (.int (-magnitude))
  else literal.toDouble?.map .double

end NumberLiteral

end Dashboard.Json
