/-!
# Tables

Finite maps from strings that remember the order in which keys were first put in.
A value that is put under a present key replaces the old value in its place.
-/

namespace Dashboard

/-- A finite map from strings in order of insertion. -/
structure Table (α : Type) where
  entries : List (String × α)
  deriving DecidableEq, Repr

namespace Table

variable {α : Type}

/-- The first value of a key in a list of entries. -/
def find (key : String) : List (String × α) → Option α
  | [] => none
  | (otherKey, value) :: rest => if otherKey = key then some value else find key rest

/-- Replaces the first value of a key, or adds the key at the end. -/
def put (key : String) (value : α) : List (String × α) → List (String × α)
  | [] => [(key, value)]
  | (otherKey, otherValue) :: rest =>
    if otherKey = key then (key, value) :: rest
    else (otherKey, otherValue) :: put key value rest

/-- Removes the first entry of a key. -/
def remove (key : String) : List (String × α) → List (String × α)
  | [] => []
  | (otherKey, value) :: rest =>
    if otherKey = key then rest else (otherKey, value) :: remove key rest

/-- The table without entries. -/
def empty : Table α := ⟨[]⟩

/-- The number of entries. -/
def size (table : Table α) : Nat := table.entries.length

/-- The keys in order. -/
def keys (table : Table α) : List String := table.entries.map Prod.fst

/-- The values in order. -/
def values (table : Table α) : List α := table.entries.map Prod.snd

/-- The value of a key. -/
def get? (table : Table α) (key : String) : Option α := find key table.entries

/-- Whether a key is present. -/
def contains (table : Table α) (key : String) : Bool := (table.get? key).isSome

/-- Puts a value under a key: in place when the key is present, else at the end. -/
def insert (table : Table α) (key : String) (value : α) : Table α :=
  ⟨put key value table.entries⟩

/-- Removes a key; the others keep their order. -/
def erase (table : Table α) (key : String) : Table α :=
  ⟨remove key table.entries⟩

/-- The entries whose value satisfies a test. -/
def filter (table : Table α) (test : α → Bool) : Table α :=
  ⟨table.entries.filter fun entry => test entry.2⟩

/-- Changes every value. -/
def map {β : Type} (table : Table α) (change : α → β) : Table β :=
  ⟨table.entries.map fun entry => (entry.1, change entry.2)⟩

end Table

end Dashboard
