import Dashboard.Text.Ascii

/-!
# Hexadecimal

Octets as two lower-case digits each; a reader takes digits of either case.
-/

namespace Dashboard.Text.Hexadecimal

/-- The digit of a number below sixteen. -/
def digit (value : Nat) : Char :=
  if value < 10 then Char.ofNat (0x30 + value) else Char.ofNat (0x61 + (value - 10))

/-- The digits of a run of octets. -/
def encode (octets : List UInt8) : List Char :=
  octets.flatMap fun octet => [digit (octet.toNat / 16), digit (octet.toNat % 16)]

/-- The octets of a run of digits, two digits for each. -/
def decode? : List Char → Option (List UInt8)
  | [] => some []
  | [_] => none
  | high :: low :: rest => do
    let upper ← hexDigitValue? high
    let lower ← hexDigitValue? low
    return UInt8.ofNat (upper * 16 + lower) :: (← decode? rest)

end Dashboard.Text.Hexadecimal
