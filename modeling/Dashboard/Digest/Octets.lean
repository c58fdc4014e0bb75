/-!
# Words and octets

Fixed-width words as runs of octets, least octet first or last, and the filling of
a run up to a length.
-/

namespace Dashboard.Digest

/-- So many octets of a natural number, least first. -/
def littleEndian : Nat → Nat → List UInt8
  | 0, _ => []
  | count + 1, value => UInt8.ofNat (value % 256) :: littleEndian count (value / 256)

/-- So many octets of a natural number, greatest first. -/
def bigEndian (count value : Nat) : List UInt8 :=
  (littleEndian count value).reverse

/-- The number whose octets, greatest first, follow an earlier part. -/
def ofBigEndian (earlier : Nat) : List UInt8 → Nat
  | [] => earlier
  | octet :: rest => ofBigEndian (earlier * 256 + octet.toNat) rest

/-- The words of 32 bits in a run of octets, greatest octet first; a last part of
fewer than four octets is no word. -/
def bigEndianWords : List UInt8 → List UInt32
  | first :: second :: third :: fourth :: rest =>
    UInt32.ofNat (ofBigEndian 0 [first, second, third, fourth]) :: bigEndianWords rest
  | _ => []

/-- The words of 64 bits in a run of octets, least octet first; a last part of fewer
than eight octets is no word. -/
def littleEndianWords : List UInt8 → List UInt64
  | a :: b :: c :: d :: e :: f :: g :: h :: rest =>
    UInt64.ofNat (ofBigEndian 0 [h, g, f, e, d, c, b, a]) :: littleEndianWords rest
  | _ => []

/-- A run filled with zeros behind it, up to a length. -/
def padTo (length : Nat) (octets : List UInt8) : List UInt8 :=
  octets ++ List.replicate (length - octets.length) 0

end Dashboard.Digest
