import Dashboard.Number.Shortest

/-!
# JSON values

Integers that fit 64 bits, signed or unsigned, keep their exact value; every
other number is a binary64 number. The two are different values even where they
are numerically equal, and their texts differ. Objects hold each key once, in
code-point order, which is also the order of the UTF-8 octets.
-/

namespace Dashboard

/-- A JSON number. -/
inductive JsonNumber where
  | int (value : Int)
  | double (value : Double)
  deriving DecidableEq, Repr

namespace JsonNumber

/-- The text of a number. -/
def text : JsonNumber → String
  | int value => toString value
  | double value => value.text

/-- The binary64 number nearest to a number. -/
def toDouble : JsonNumber → Double
  | int value => Double.ofInt value
  | double value => value

end JsonNumber

/-- A JSON value. -/
inductive Json where
  | null
  | bool (value : Bool)
  | number (value : JsonNumber)
  | string (value : String)
  | array (items : List Json)
  | object (members : List (String × Json))
  deriving Repr, Inhabited

namespace Json

mutual

/-- Equality of values is decided member by member. -/
def decideEq : (left right : Json) → Decidable (left = right)
  | .null, .null => isTrue rfl
  | .bool left, .bool right => decidable_of_iff (left = right) (by simp)
  | .number left, .number right => decidable_of_iff (left = right) (by simp)
  | .string left, .string right => decidable_of_iff (left = right) (by simp)
  | .array left, .array right =>
    match decideItemsEq left right with
    | isTrue same => isTrue (by rw [same])
    | isFalse differ => isFalse (by simpa using differ)
  | .object left, .object right =>
    match decideMembersEq left right with
    | isTrue same => isTrue (by rw [same])
    | isFalse differ => isFalse (by simpa using differ)
  | .null, .bool _ | .null, .number _ | .null, .string _ | .null, .array _
  | .null, .object _ | .bool _, .null | .bool _, .number _ | .bool _, .string _
  | .bool _, .array _ | .bool _, .object _ | .number _, .null | .number _, .bool _
  | .number _, .string _ | .number _, .array _ | .number _, .object _ | .string _, .null
  | .string _, .bool _ | .string _, .number _ | .string _, .array _ | .string _, .object _
  | .array _, .null | .array _, .bool _ | .array _, .number _ | .array _, .string _
  | .array _, .object _ | .object _, .null | .object _, .bool _ | .object _, .number _
  | .object _, .string _ | .object _, .array _ => isFalse (by simp)

/-- Equality of the items of two arrays. -/
def decideItemsEq : (left right : List Json) → Decidable (left = right)
  | [], [] => isTrue rfl
  | [], _ :: _ | _ :: _, [] => isFalse (by simp)
  | left :: lefts, right :: rights =>
    match decideEq left right, decideItemsEq lefts rights with
    | isTrue same, isTrue others => isTrue (by rw [same, others])
    | isFalse differ, _ => isFalse (by simp [differ])
    | _, isFalse differ => isFalse (by simp [differ])

/-- Equality of the members of two objects. -/
def decideMembersEq : (left right : List (String × Json)) → Decidable (left = right)
  | [], [] => isTrue rfl
  | [], _ :: _ | _ :: _, [] => isFalse (by simp)
  | (leftKey, left) :: lefts, (rightKey, right) :: rights =>
    match decEq leftKey rightKey, decideEq left right, decideMembersEq lefts rights with
    | isTrue key, isTrue same, isTrue others => isTrue (by rw [key, same, others])
    | isFalse differ, _, _ => isFalse (by simp [differ])
    | _, isFalse differ, _ => isFalse (by simp [differ])
    | _, _, isFalse differ => isFalse (by simp [differ])

end

instance : DecidableEq Json := decideEq

/-- Puts a member into a list sorted by key; an old value of the key is replaced. -/
def insertMember (key : String) (value : Json) :
    List (String × Json) → List (String × Json)
  | [] => [(key, value)]
  | (otherKey, otherValue) :: rest =>
    if key < otherKey then (key, value) :: (otherKey, otherValue) :: rest
    else if key = otherKey then (key, value) :: rest
    else (otherKey, otherValue) :: insertMember key value rest

/-- The object with the given members; of several values for one key the last counts. -/
def ofMembers (members : List (String × Json)) : Json :=
  .object (members.foldl (fun sorted member => insertMember member.1 member.2 sorted) [])

/-- The value of a key in a list of members. -/
def lookup (key : String) : List (String × Json) → Option Json
  | [] => none
  | (otherKey, value) :: rest => if key = otherKey then some value else lookup key rest

/-- The value of a key, when the value is an object that has it. -/
def get? (key : String) : Json → Option Json
  | .object members => lookup key members
  | _ => none

/-- A natural number. -/
def ofNat (value : Nat) : Json := .number (.int value)

/-- An array of strings. -/
def ofStrings (texts : List String) : Json := .array (texts.map .string)

/-- The text, when the value is a string. -/
def string? : Json → Option String
  | .string text => some text
  | _ => none

/-- The items, when the value is an array. -/
def array? : Json → Option (List Json)
  | .array items => some items
  | _ => none

/-- The truth value, when the value is one. -/
def bool? : Json → Option Bool
  | .bool value => some value
  | _ => none

/-- The number, when the value is a natural number of at most 64 bits. -/
def nat? : Json → Option Nat
  | .number (.int value) =>
    if 0 ≤ value ∧ value < 18446744073709551616 then some value.toNat else none
  | _ => none

/-- The items, when the value is an array of strings only. -/
def strings? (value : Json) : Option (List String) :=
  value.array?.bind fun items => items.mapM string?

end Json

end Dashboard
