import Dashboard.Json.Basic

/-!
# The order of records

Records are ordered by one field, in a direction, and records that compare equal
keep their order. Values of different kinds compare by kind: missing, null,
boolean, number, string, array, object. Numbers compare as binary64 numbers and
strings by code points; arrays are all equal, and so are objects.
-/

namespace Dashboard.Listing

/-- The direction of an order. -/
inductive Direction where
  | ascending
  | descending
  deriving DecidableEq, Repr

/-- A field and a direction. -/
structure SortOrder where
  field : String
  direction : Direction
  deriving DecidableEq, Repr

/-- The place of a kind of value in their order; a missing value comes first. -/
def kindRank : Option Json → Nat
  | none => 0
  | some .null => 1
  | some (.bool _) => 2
  | some (.number _) => 3
  | some (.string _) => 4
  | some (.array _) => 5
  | some (.object _) => 6

/-- The order of two strings by code points. -/
def compareText (left right : String) : Ordering :=
  if left < right then .lt else if left = right then .eq else .gt

/-- The order of two values, either of which may be missing. -/
def compareValues : Option Json → Option Json → Ordering
  | some (.bool left), some (.bool right) => compare left.toNat right.toNat
  | some (.number left), some (.number right) => left.toDouble.compare right.toDouble
  | some (.string left), some (.string right) => compareText left right
  | left, right => compare (kindRank left) (kindRank right)

namespace SortOrder

/-- The order of two records. -/
def compareRecords (order : SortOrder) (left right : Json) : Ordering :=
  let ascending := compareValues (left.get? order.field) (right.get? order.field)
  match order.direction with
  | .ascending => ascending
  | .descending => ascending.swap

/-- Records in order; equal ones keep the order in which they are given. -/
def sort (order : SortOrder) (records : List Json) : List Json :=
  records.mergeSort fun left right => order.compareRecords left right != .gt

end SortOrder

end Dashboard.Listing
