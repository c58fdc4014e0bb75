/-!
# Binary64 numbers

A finite binary64 number is a sign, a significand and a power of two. Products,
quotients and conversions are computed exactly over the natural numbers and then
rounded once, to the nearest representable value with ties to an even
significand. A result too large to be finite is `none`.
-/

namespace Dashboard

/-- The finite number `± significand · 2 ^ exponent`. Values built by this module
have `significand < 2 ^ 53`, `-1074 ≤ exponent ≤ 971`, and a significand of at
least `2 ^ 52` unless the exponent is `-1074`. -/
structure Double where
  negative : Bool
  significand : Nat
  exponent : Int
  deriving DecidableEq, Repr

namespace Double

/-- The exponent of the smallest positive number. -/
def minExponent : Int := -1074

/-- The exponent of the largest finite numbers. -/
def maxExponent : Int := 971

/-- One more than the largest significand. -/
def significandBound : Nat := Nat.pow 2 53

/-- A zero of either sign. -/
def zero (negative : Bool) : Double := ⟨negative, 0, minExponent⟩

/-- The least finite number. -/
def lowest : Double := ⟨true, significandBound - 1, maxExponent⟩

/-- Whether the number is a zero. -/
def isZero (value : Double) : Bool := value.significand == 0

/-- The quotient rounded to the nearest natural number, a half to the even one. -/
def roundQuotient (numerator denominator : Nat) : Nat :=
  let quotient := numerator / denominator
  let twice := 2 * (numerator % denominator)
  if twice < denominator then quotient
  else if twice = denominator then quotient + quotient % 2
  else quotient + 1

/-- The numerator and denominator of `numerator / denominator · 2 ^ shift`. -/
def scale (numerator denominator : Nat) (shift : Int) : Nat × Nat :=
  if 0 ≤ shift then (numerator * Nat.pow 2 shift.toNat, denominator)
  else (numerator, denominator * Nat.pow 2 (-shift).toNat)

/-- The least exponent at which `numerator / denominator · 2 ^ exponent` has a
significand below `2 ^ 53`, not lower than `minExponent`. -/
def targetExponent (numerator denominator : Nat) (exponent : Int) : Int :=
  let estimate := max minExponent
    ((Nat.log2 numerator : Int) - Nat.log2 denominator + exponent - 53)
  let (upper, lower) := scale numerator denominator (exponent - estimate)
  if upper / lower < significandBound then estimate else estimate + 1

/-- The binary64 number nearest to `± numerator / denominator · 2 ^ exponent`. -/
def ofQuotient (negative : Bool) (numerator denominator : Nat) (exponent : Int) :
    Option Double :=
  if numerator = 0 then some (zero negative)
  else
    let target := targetExponent numerator denominator exponent
    let (upper, lower) := scale numerator denominator (exponent - target)
    let significand := roundQuotient upper lower
    let rounded : Double :=
      if significand < significandBound then ⟨negative, significand, target⟩
      else ⟨negative, significand / 2, target + 1⟩
    if rounded.exponent ≤ maxExponent then some rounded else none

/-- The number nearest to a natural number. -/
def ofNat? (value : Nat) : Option Double := ofQuotient false value 1 0

/-- The number nearest to an integer of at most 1023 bits; larger integers,
which have no nearest finite number, read as zero. -/
def ofInt (value : Int) : Double :=
  (ofQuotient (decide (value < 0)) value.natAbs 1 0).getD (zero false)

/-- The rounded product. -/
def mul? (left right : Double) : Option Double :=
  ofQuotient (left.negative != right.negative)
    (left.significand * right.significand) 1 (left.exponent + right.exponent)

/-- The rounded quotient by a number other than zero. -/
def div? (left right : Double) : Option Double :=
  ofQuotient (left.negative != right.negative)
    left.significand right.significand (left.exponent - right.exponent)

/-- The same number with the other sign. -/
def neg (value : Double) : Double := { value with negative := !value.negative }

/-- The exact value counted in units of `2 ^ minExponent`. Zeros of both signs
count as zero, so the numeric order does not tell them apart. -/
def units (value : Double) : Int :=
  let magnitude := value.significand * Nat.pow 2 (value.exponent - minExponent).toNat
  if value.negative then -(magnitude : Int) else magnitude

/-- The numeric order. -/
def compare (left right : Double) : Ordering :=
  Ord.compare left.units right.units

end Double

end Dashboard
