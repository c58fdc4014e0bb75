import Dashboard.Listing.Request
import Dashboard.Listing.Store
import Dashboard.Log
import Dashboard.Query.Cache

/-!
# Pages

A list query answers one page. Without a filter the source is asked for the
window of the page and for the size of the collection; with a filter it is asked
for the whole collection in order, of which the matches are counted and cut. A
search term that does not compile fails before the source is asked. The two calls
of the source are separate steps of the monad it works in.
-/

namespace Dashboard.Listing

/-- A place to ask for ordered records and for sizes. -/
structure RecordSource (m : Type → Type) where
  /-- The records of a collection in order, or a window of them. -/
  fetchOrdered : String → SortOrder → Option (Nat × Nat) → m (Except StorageError (List Json))
  /-- The number of records of a collection. -/
  count : String → m (Except StorageError Nat)

/-- A store as a source that always answers from the same state. -/
def RecordStore.source (store : RecordStore) : RecordSource Id :=
  ⟨fun name order range => store.fetchOrdered name order range, fun name => store.count name⟩

/-- One page, and the size of the set that it was cut from. -/
structure Page where
  rows : List Json
  totalLength : Nat
  deriving DecidableEq, Repr

/-- A page as JSON. -/
def Page.toJson (page : Page) : Json :=
  .ofMembers [("rows", .array page.rows), ("totalLength", .ofNat page.totalLength)]

/-- The page of a request out of the ordered matches. -/
def ListRequest.pageOf (request : ListRequest) (matching : List Json) : Page :=
  ⟨(matching.drop request.pageStart).take request.pageLength, matching.length⟩

section

variable {m : Type → Type} [Monad m]

/-- The page of a request without a filter. -/
def fetchPage (source : RecordSource m) (collection : String) (request : ListRequest) :
    m (Except ListError Page) := do
  match ← source.fetchOrdered collection request.order
      (some (request.pageStart, request.pageEnd)) with
  | .error cause => return .error (.ofStorage cause)
  | .ok rows =>
    match ← source.count collection with
    | .error cause => return .error (.ofStorage cause)
    | .ok total => return .ok ⟨rows, total⟩

/-- The page of a request with a filter. -/
def fetchMatching (source : RecordSource m) (collection : String) (request : ListRequest)
    (predicate : Predicate) : m (Except ListError Page) := do
  match ← source.fetchOrdered collection request.order none with
  | .error cause => return .error (.ofStorage cause)
  | .ok ordered => return .ok (request.pageOf (ordered.filter (predicate.holds ·)))

/-- Answers a request, by way of the cache of compiled queries. -/
def runRequest (engine : PatternEngine) (source : RecordSource m) (cache : QueryCache)
    (collection : String) (request : ListRequest) :
    m (Except ListError Page × QueryCache) := do
  if request.pageLength = 0 then return (.error ListRequest.emptyPage, cache)
  match cache.getOrCompile engine request.searchTerm with
  | (.error cause, next) => return (.error (.badSearchTerm cause), next)
  | (.ok none, next) => return (← fetchPage source collection request, next)
  | (.ok (some predicate), next) =>
    return (← fetchMatching source collection request predicate, next)

end

/-- What is logged about the answer to a request. -/
def answerEvent (collection : String) (request : ListRequest) :
    Except ListError Page → Log.Event
  | .ok page =>
    ⟨.trace, "LIST_QUERY_COMPLETE",
      [("collection", collection), ("rows", toString page.rows.length),
       ("total_length", toString page.totalLength)]⟩
  | .error (.badSearchTerm cause) =>
    ⟨.warn, "SEARCH_REJECTED",
      [("collection", collection), ("error", cause.message),
       ("search_term", request.searchTerm)]⟩
  | .error error =>
    ⟨if error.status < 500 then .warn else .error, "LIST_QUERY_FAILED",
      [("collection", collection), ("error", error.message)]⟩

/-- Answers a request over a store, with the event to log. -/
def RecordStore.list (engine : PatternEngine) (store : RecordStore) (cache : QueryCache)
    (collection : String) (request : ListRequest) :
    Except ListError Page × QueryCache × Log.Event :=
  let (answer, next) := Id.run (runRequest engine store.source cache collection request)
  (answer, next, answerEvent collection request answer)

end Dashboard.Listing
