import Dashboard.Query.Predicate

/-!
# The cache of compiled queries

Search texts recur, so their predicates are kept, keyed by the text. The oldest
entry gives way when the cache is full; a hit does not refresh an entry, and
failures are never kept. A call is a look-up and, after a miss, a later store:
the two are separate steps, so that calls may interleave between them.
-/

namespace Dashboard

/-- What a cache has counted. -/
structure CacheStatistics where
  hits : Nat
  misses : Nat
  evictions : Nat
  deriving DecidableEq, Repr

/-- A bounded cache of predicates. The entries are in the order of their insertion. -/
structure QueryCache where
  capacity : Nat
  entries : List (String × Predicate)
  statistics : CacheStatistics

namespace QueryCache

/-- The number of entries that a cache holds unless told otherwise. -/
def defaultCapacity : Nat := 256

/-- A cache without entries; one of capacity zero never keeps any. -/
def empty (capacity : Nat) : QueryCache := ⟨capacity, [], ⟨0, 0, 0⟩⟩

/-- The number of entries. -/
def size (cache : QueryCache) : Nat := cache.entries.length

/-- The predicate kept for a text. -/
def get? (cache : QueryCache) (text : String) : Option Predicate :=
  (cache.entries.find? fun entry => entry.1 == text).map Prod.snd

/-- The first step of a call: looks a text up and counts a hit or a miss. -/
def lookup (cache : QueryCache) (text : String) : Option Predicate × QueryCache :=
  match cache.get? text with
  | some predicate =>
    (some predicate,
      { cache with statistics := { cache.statistics with hits := cache.statistics.hits + 1 } })
  | none =>
    (none,
      { cache with
        statistics := { cache.statistics with misses := cache.statistics.misses + 1 } })

/-- The second step of a call that missed: keeps a predicate, unless the text is
there already, and drops as many of the oldest entries as the capacity demands. -/
def store (cache : QueryCache) (text : String) (predicate : Predicate) : QueryCache :=
  if cache.capacity = 0 || (cache.get? text).isSome then cache
  else
    let excess := cache.entries.length + 1 - cache.capacity
    { cache with
      entries := cache.entries.drop excess ++ [(text, predicate)]
      statistics :=
        { cache.statistics with evictions := cache.statistics.evictions + excess } }

/-- The predicate of a search text by way of the cache. A text of blanks asks for no
filter and does not touch the cache. -/
def getOrCompile (engine : PatternEngine) (cache : QueryCache) (text : String) :
    Except Query.SearchError (Option Predicate) × QueryCache :=
  if Text.isBlankText text then (.ok none, cache)
  else match cache.lookup text with
    | (some predicate, counted) => (.ok (some predicate), counted)
    | (none, counted) =>
      match Query.compileSearch engine text with
      | .ok (some predicate) => (.ok (some predicate), counted.store text predicate)
      | answer => (answer, counted)

end QueryCache

end Dashboard
