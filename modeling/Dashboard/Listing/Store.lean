import Dashboard.Listing.Error
import Dashboard.Listing.Order
import Dashboard.Table

/-!
# Record stores

A store holds named collections of JSON records. Each collection has a primary
key, whose texts tell its records apart, and the fields it can be ordered by. The
records keep the order of their insertion; a record that replaces another takes
its place.
-/

namespace Dashboard.Listing

/-- A collection of records. -/
structure Collection where
  primaryKey : String
  indexes : List String
  records : List Json
  deriving DecidableEq, Repr

/-- The text of the primary key of a record: strings and numbers have one. -/
def keyOf? (primaryKey : String) (record : Json) : Option String :=
  match record.get? primaryKey with
  | some (.string text) => some text
  | some (.number value) => some value.text
  | _ => none

namespace Collection

/-- A collection without records. Its primary key can always be ordered by. -/
def empty (primaryKey : String) (indexes : List String) : Collection :=
  ⟨primaryKey, primaryKey :: indexes, []⟩

/-- Whether a record has a key with the given text. -/
def hasKey (collection : Collection) (key : String) (record : Json) : Bool :=
  keyOf? collection.primaryKey record == some key

/-- The record of a key. -/
def get? (collection : Collection) (key : String) : Option Json :=
  collection.records.find? (collection.hasKey key)

/-- Adds a record at the end. -/
def append (collection : Collection) (record : Json) : Collection :=
  { collection with records := collection.records ++ [record] }

/-- Puts a record in the place of the first one that satisfies a test. -/
def replaceFirst (test : Json → Bool) (record : Json) : List Json → List Json
  | [] => []
  | other :: rest =>
    if test other then record :: rest else other :: replaceFirst test record rest

/-- Removes the first record that satisfies a test. -/
def removeFirst (test : Json → Bool) : List Json → List Json
  | [] => []
  | other :: rest => if test other then rest else other :: removeFirst test rest

/-- Puts a record in the place of the one with its key, or adds it at the end. -/
def put (collection : Collection) (key : String) (record : Json) : Collection :=
  if (collection.get? key).isSome then
    { collection with
      records := replaceFirst (collection.hasKey key) record collection.records }
  else collection.append record

/-- Removes the record of a key. -/
def erase (collection : Collection) (key : String) : Collection :=
  { collection with records := removeFirst (collection.hasKey key) collection.records }

end Collection

/-- Collections by name. -/
structure RecordStore where
  collections : Table Collection
  deriving DecidableEq, Repr

namespace RecordStore

/-- The store without collections. -/
def empty : RecordStore := ⟨.empty⟩

/-- Creates a collection; one that is there loses its records. -/
def createCollection (store : RecordStore) (name primaryKey : String)
    (indexes : List String) : RecordStore :=
  ⟨store.collections.insert name (.empty primaryKey indexes)⟩

/-- The collection of a name. -/
def find (store : RecordStore) (name : String) : Except StorageError Collection :=
  match store.collections.get? name with
  | some collection => .ok collection
  | none => .error (.collectionNotFound name)

/-- The same store with another collection under a name. -/
def withCollection (store : RecordStore) (name : String) (collection : Collection) :
    RecordStore :=
  ⟨store.collections.insert name collection⟩

/-- The key text of a record that a collection is to take. -/
def usableKey (collection : Collection) (record : Json) : Except StorageError String :=
  match keyOf? collection.primaryKey record with
  | some key => .ok key
  | none =>
    .error (.invalidRecord ("missing primary key '" ++ collection.primaryKey ++ "'"))

/-- Adds a record whose key is new; answers the key. -/
def insert (store : RecordStore) (name : String) (record : Json) :
    Except StorageError (String × RecordStore) := do
  let collection ← store.find name
  let key ← usableKey collection record
  if (collection.get? key).isSome then throw (.duplicateKey name key)
  return (key, store.withCollection name (collection.append record))

/-- Adds a record or replaces the one with its key; answers the key. -/
def upsert (store : RecordStore) (name : String) (record : Json) :
    Except StorageError (String × RecordStore) := do
  let collection ← store.find name
  let key ← usableKey collection record
  return (key, store.withCollection name (collection.put key record))

/-- The record of a key. -/
def get (store : RecordStore) (name key : String) : Except StorageError (Option Json) := do
  let collection ← store.find name
  return collection.get? key

/-- The records that satisfy a test, in order of insertion. -/
def scan (store : RecordStore) (name : String) (keep : Json → Bool) :
    Except StorageError (List Json) := do
  let collection ← store.find name
  return collection.records.filter keep

/-- Removes the record of a key and answers it, if it was there. -/
def delete (store : RecordStore) (name key : String) :
    Except StorageError (Option Json × RecordStore) := do
  let collection ← store.find name
  match collection.get? key with
  | some record => return (some record, store.withCollection name (collection.erase key))
  | none => return (none, store)

/-- A part of a list, from one index to before another. -/
def window (records : List Json) (start stop : Nat) : List Json :=
  (records.drop start).take (stop - start)

/-- The records of a collection in order, or a window of them. -/
def fetchOrdered (store : RecordStore) (name : String) (order : SortOrder)
    (range : Option (Nat × Nat)) : Except StorageError (List Json) := do
  let collection ← store.find name
  if !collection.indexes.contains order.field then throw (.unsortableField order.field)
  let ordered := order.sort collection.records
  return match range with
    | some (start, stop) => window ordered start stop
    | none => ordered

/-- The number of records of a collection. -/
def count (store : RecordStore) (name : String) : Except StorageError Nat := do
  let collection ← store.find name
  return collection.records.length

end RecordStore

end Dashboard.Listing
