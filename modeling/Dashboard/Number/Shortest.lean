import Dashboard.Number.Double

/-!
# Shortest decimal text of a binary64 number

The text has the fewest digits that read back as the same number, and among
those the digits nearest to it. `Decimal` is a digit string with a power of ten;
`Double.text` lays it out in positional or exponent form.
-/

namespace Dashboard

/-- The decimal `digits · 10 ^ exponent`, the digits read as one natural number. -/
structure Decimal where
  digits : Nat
  exponent : Int
  deriving DecidableEq, Repr

namespace Double

/-- The interval of reals that round to a number, with the number itself, all
over one denominator. The ends belong to it when the significand is even. -/
structure RoundingInterval where
  lower : Nat
  value : Nat
  upper : Nat
  denominator : Nat
  closed : Bool

/-- The rounding interval of a positive number. Below a power of two the spacing
halves, and so does the lower half of the interval. -/
def roundingInterval (number : Double) : RoundingInterval :=
  let quarters := 4 * number.significand
  let below :=
    if number.significand = Nat.pow 2 52 ∧ minExponent < number.exponent then 1 else 2
  let (factor, denominator) := scale 1 1 (number.exponent - 2)
  { lower := (quarters - below) * factor
    value := quarters * factor
    upper := (quarters + 2) * factor
    denominator := denominator
    closed := number.significand % 2 = 0 }

/-- Whether `numerator / denominator` lies in the interval. -/
def RoundingInterval.contains (interval : RoundingInterval)
    (numerator denominator : Nat) : Bool :=
  let point := numerator * interval.denominator
  if interval.closed then
    interval.lower * denominator ≤ point && point ≤ interval.upper * denominator
  else
    interval.lower * denominator < point && point < interval.upper * denominator

/-- The place of the first digit of a fraction below one: the least `place` such
that the fraction times `10 ^ place` is at least one. -/
def leadingPlace (numerator denominator : Nat) : Nat → Nat → Nat
  | 0, place => place
  | fuel + 1, place =>
    if denominator ≤ numerator * Nat.pow 10 place then place
    else leadingPlace numerator denominator fuel (place + 1)

/-- The exponent of the first digit of `numerator / denominator`. -/
def decimalExponent (numerator denominator : Nat) : Int :=
  if denominator ≤ numerator then
    ((Nat.toDigits 10 (numerator / denominator)).length : Int) - 1
  else -(leadingPlace numerator denominator 400 1 : Int)

/-- The decimal of the grid `10 ^ exponent` that lies in the interval and is
nearest to its value; of two equally near ones, the one with an even last digit. -/
def RoundingInterval.onGrid (interval : RoundingInterval) (exponent : Int) :
    Option Decimal :=
  let (unit, parts) : Nat × Nat :=
    if 0 ≤ exponent then (Nat.pow 10 exponent.toNat, 1) else (1, Nat.pow 10 (-exponent).toNat)
  let scaled := interval.value * parts
  let step := interval.denominator * unit
  let floor := scaled / step
  let remainder := scaled % step
  let low := interval.contains (floor * unit) parts
  let high := interval.contains ((floor + 1) * unit) parts
  let preferHigh := step < 2 * remainder || (step = 2 * remainder && floor % 2 = 1)
  if low && !(high && preferHigh) then some ⟨floor, exponent⟩
  else if high then some ⟨floor + 1, exponent⟩
  else none

/-- Tries grids of growing precision; the first hit has the fewest digits. -/
def RoundingInterval.search (interval : RoundingInterval) : Nat → Int → Decimal
  | 0, exponent => ⟨interval.value / interval.denominator, exponent⟩
  | fuel + 1, exponent =>
    match interval.onGrid exponent with
    | some found => found
    | none => interval.search fuel (exponent - 1)

/-- Moves trailing zeros of the digits into the exponent. -/
def stripZeros : Nat → Decimal → Decimal
  | 0, decimal => decimal
  | fuel + 1, decimal =>
    if decimal.digits ≠ 0 ∧ decimal.digits % 10 = 0 then
      stripZeros fuel ⟨decimal.digits / 10, decimal.exponent + 1⟩
    else decimal

/-- The shortest decimal that reads back as the positive number. Seventeen
digits always suffice. -/
def shortest (number : Double) : Decimal :=
  let interval := number.roundingInterval
  stripZeros 20
    (interval.search 18 (decimalExponent interval.value interval.denominator))

/-- Positional text of a decimal whose first digit has the given place. -/
def positional (digits : List Char) (place : Int) : String :=
  if place < 0 then
    String.ofList ('0' :: '.' :: List.replicate ((-place).toNat - 1) '0' ++ digits)
  else
    let whole := place.toNat + 1
    if digits.length ≤ whole then
      String.ofList (digits ++ List.replicate (whole - digits.length) '0' ++ ['.', '0'])
    else String.ofList (digits.take whole ++ '.' :: digits.drop whole)

/-- Exponent text: one digit, the others behind a point, and a signed exponent. -/
def scientific (digits : List Char) (place : Int) : String :=
  let mantissa := match digits with
    | [] => []
    | [digit] => [digit]
    | digit :: others => digit :: '.' :: others
  let sign := if place < 0 then '-' else '+'
  String.ofList (mantissa ++ 'e' :: sign :: Nat.toDigits 10 place.natAbs)

/-- The text of a number: positional from `1e-5` up to below `1e16`, with at
least one digit behind the point, and exponent form outside. -/
def text (number : Double) : String :=
  let sign := if number.negative then "-" else ""
  if number.isZero then sign ++ "0.0"
  else
    let decimal := number.shortest
    let digits := Nat.toDigits 10 decimal.digits
    let place := decimal.exponent + digits.length - 1
    if -5 ≤ place ∧ place < 16 then sign ++ positional digits place
    else sign ++ scientific digits place

end Double

end Dashboard
