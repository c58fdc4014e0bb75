import Dashboard.Listing.Page
import Dashboard.Pattern.Compiled
import Dashboard.Proofs.Listing.Store
import Dashboard.Proofs.Query.Cache

/-!
# Pages as slices

A page is cut from one list: the collection in the order of the request, without the
records that the search term leaves out. It makes no difference whether the store cuts the
window itself or the matches are cut after they were fetched, nor what the cache holds.
-/

namespace Dashboard.Listing

section Cache

variable {engine : PatternEngine} {m : Type → Type} [Monad m]

/-- The answer to a request once its search term is decided. -/
def answerWith (source : RecordSource m) (collection : String) (request : ListRequest) :
    Except Query.SearchError (Option Predicate) → m (Except ListError Page)
  | .error cause => pure (.error (.badSearchTerm cause))
  | .ok none => fetchPage source collection request
  | .ok (some predicate) => fetchMatching source collection request predicate

/-- Behind a coherent cache, the answer is the one for the freshly compiled term. -/
theorem fst_runRequest [LawfulMonad m] {cache : QueryCache} (coherent : cache.Coherent engine)
    (source : RecordSource m) (collection : String) (request : ListRequest) :
    Prod.fst <$> runRequest engine source cache collection request =
      if request.pageLength = 0 then pure (.error ListRequest.emptyPage)
      else answerWith source collection request
        (Query.compileSearch engine request.searchTerm) := by
  rw [← coherent.getOrCompile_fst]
  unfold runRequest answerWith
  split
  · simp
  · split <;> simp_all

end Cache

namespace ListRequest

/-- The records that a request is about, in its order: those of which a filter holds, or
all of them without a filter. -/
def matching (request : ListRequest) (collection : Collection) (filter : Option Predicate) :
    List Json :=
  (request.order.sort collection.records).filter fun record => filter.all (·.holds record)

theorem matching_none (request : ListRequest) (collection : Collection) :
    request.matching collection none = request.order.sort collection.records := by
  simp [matching]

theorem length_sort (order : SortOrder) (records : List Json) :
    (order.sort records).length = records.length :=
  List.length_mergeSort records

/-- No record is lost or repeated by ordering and filtering. -/
theorem matching_perm (request : ListRequest) (collection : Collection)
    (filter : Option Predicate) :
    (request.matching collection filter).Perm
      (collection.records.filter fun record => filter.all (·.holds record)) :=
  (List.mergeSort_perm _ _).filter _

end ListRequest

namespace RecordStore

variable {engine : PatternEngine} {store : RecordStore} {name : String}
  {collection : Collection} {request : ListRequest}

/-- A stored collection answers what the range leaves of its records in order. -/
theorem fetchOrdered_of_found {order : SortOrder} (range : Option (Nat × Nat))
    (found : store.collections.get? name = some collection)
    (sortable : order.field ∈ collection.indexes) :
    store.fetchOrdered name order range = .ok (match range with
      | some (start, stop) => window (order.sort collection.records) start stop
      | none => order.sort collection.records) := by
  cases range <;> simp [fetchOrdered, find_eq_ok_iff.mpr found, sortable, bind, Except.bind,
    pure, Except.pure]

theorem count_of_found (found : store.collections.get? name = some collection) :
    store.count name = .ok collection.records.length := by
  simp [count, find_eq_ok_iff.mpr found, bind, Except.bind, pure, Except.pure]

/-- A window to the end of a page holds the rows of the page, also where the end is cut at
the largest count. -/
theorem window_pageEnd {records : List Json} (bounded : records.length ≤ maxCount)
    (request : ListRequest) :
    window records request.pageStart request.pageEnd =
      (records.drop request.pageStart).take request.pageLength := by
  rw [window, ListRequest.pageEnd, List.take_eq_take_iff, List.length_drop]
  omega

/-- Both ways to answer a request cut the same slice of the records that it is about. -/
theorem answerWith_source {filter : Option Predicate}
    (found : store.collections.get? name = some collection)
    (bounded : collection.records.length ≤ maxCount)
    (sortable : request.order.field ∈ collection.indexes) :
    answerWith store.source name request (.ok filter) =
      .ok (request.pageOf (request.matching collection filter)) := by
  cases filter with
  | none =>
    have sorted : (request.order.sort collection.records).length ≤ maxCount := by
      rw [ListRequest.length_sort]
      exact bounded
    simp only [answerWith, fetchPage, source, fetchOrdered_of_found _ found sortable,
      count_of_found found, window_pageEnd sorted, ListRequest.matching_none,
      ListRequest.pageOf, ListRequest.length_sort]
    rfl
  | some predicate =>
    simp only [answerWith, fetchMatching, source, fetchOrdered_of_found _ found sortable]
    rfl

/-- The answer to a request for rows, when its term compiles and its field can be ordered by. -/
theorem fst_list {cache : QueryCache} {filter : Option Predicate}
    (coherent : cache.Coherent engine)
    (found : store.collections.get? name = some collection)
    (bounded : collection.records.length ≤ maxCount)
    (sortable : request.order.field ∈ collection.indexes)
    (compiled : Query.compileSearch engine request.searchTerm = .ok filter)
    (positive : 0 < request.pageLength) :
    (store.list engine cache name request).1 =
      .ok (request.pageOf (request.matching collection filter)) := by
  have answered := fst_runRequest coherent store.source name request
  rw [if_neg (Nat.ne_of_gt positive), compiled, answerWith_source found bounded sortable]
    at answered
  exact answered

end RecordStore

/-- Slices of one length from the start of a list on make up its beginning. -/
theorem flatMap_slices (records : List Json) (length count : Nat) :
    (List.range count).flatMap (fun index => (records.drop (index * length)).take length) =
      records.take (count * length) := by
  induction count with
  | zero => simp
  | succ count inductionHypothesis =>
    rw [List.range_succ, List.flatMap_append, inductionHypothesis, List.flatMap_singleton,
      Nat.succ_mul, List.take_add]

/-- Over a collection that can be counted, and for a field that can be ordered by and a term
that compiles: whatever the cache went through, a page is the slice of the ordered matches
from its start on, and tells their number. Behind the end it is empty; and pages of one length,
one after the other from the first match on, make up the matches without loss or repetition. -/
theorem RecordStore.list_answers_slices {engine : PatternEngine} {store : RecordStore}
    {name : String} {collection : Collection} {request : ListRequest} {filter : Option Predicate}
    (found : store.collections.get? name = some collection)
    (bounded : collection.records.length ≤ maxCount)
    (sortable : request.order.field ∈ collection.indexes)
    (compiled : Query.compileSearch engine request.searchTerm = .ok filter)
    (positive : 0 < request.pageLength) :
    let ordered := request.order.sort collection.records
    let matching := ordered.filter fun record => filter.all (·.holds record)
    let answer (capacity : Nat) (texts : List String) (start : Nat) :=
      (store.list engine (.afterCalls engine capacity texts) name (request.startingAt start)).1
    (filter = none ↔ Text.isBlankText request.searchTerm = true) ∧
    matching.Perm (collection.records.filter fun record => filter.all (·.holds record)) ∧
    (∀ capacity texts start, answer capacity texts start =
      .ok ⟨(matching.drop start).take request.pageLength, matching.length⟩) ∧
    (∀ capacity texts start, matching.length ≤ start →
      answer capacity texts start = .ok ⟨[], matching.length⟩) ∧
    (∀ (pages : Nat → Page) (count : Nat),
      (∀ index < count, ∃ capacity texts,
        answer capacity texts (index * request.pageLength) = .ok (pages index)) →
      (List.range count).flatMap (fun index => (pages index).rows) =
        matching.take (count * request.pageLength) ∧
      (matching.length ≤ count * request.pageLength →
        (List.range count).flatMap (fun index => (pages index).rows) = matching)) := by
  intro ordered matching answer
  have sliced (capacity : Nat) (texts : List String) (start : Nat) :
      answer capacity texts start =
        .ok ⟨(matching.drop start).take request.pageLength, matching.length⟩ :=
    fst_list (QueryCache.coherent_afterCalls engine capacity texts) found bounded sortable compiled
      positive
  refine ⟨?_, request.matching_perm collection filter, sliced, ?_, ?_⟩
  · rw [← Query.compileSearch_eq_none_iff, compiled, Except.ok.injEq]
  · intro capacity texts start behind
    rw [sliced, List.drop_eq_nil_of_le behind, List.take_nil]
  · intro pages count answered
    have rowsOf (index : Nat) (inRange : index ∈ List.range count) : (pages index).rows =
        (matching.drop (index * request.pageLength)).take request.pageLength := by
      obtain ⟨capacity, texts, isPage⟩ := answered index (List.mem_range.mp inRange)
      rw [← Except.ok.inj ((sliced capacity texts _).symm.trans isPage)]
    have rows : (List.range count).flatMap (fun index => (pages index).rows) =
        matching.take (count * request.pageLength) := by
      rw [← flatMap_slices, List.flatMap_def, List.map_congr_left rowsOf, List.flatMap_def]
    refine ⟨rows, fun complete => ?_⟩
    rw [rows, List.take_of_length_le complete]

/-- A page whose end is beyond the largest count, behind another search in the cache. -/
theorem RecordStore.list_answers_slice_at_largest_count :
    let records : List Json :=
      [.object [("name", .string "web"), ("time", .number (.int 3))],
       .object [("name", .string "api"), ("time", .number (.int 1))],
       .object [("name", .string "job")]]
    let tasks : Collection := ⟨"name", ["name", "time"], records⟩
    let store : RecordStore := ⟨⟨[("tasks", tasks)]⟩⟩
    let request : ListRequest := ⟨0, 2, " -1 ", true, " "⟩
    store.collections.get? "tasks" = some tasks ∧ tasks.records.length ≤ maxCount ∧
      request.order.field ∈ tasks.indexes ∧
      Query.compileSearch .standard request.searchTerm = .ok none ∧ 0 < request.pageLength ∧
      maxCount < (request.startingAt maxCount).pageStart + request.pageLength ∧
      (store.list .standard (.afterCalls .standard 1 ["a:b"]) "tasks"
        (request.startingAt maxCount)).1 =
        .ok ⟨[], 3⟩ := by
  intro records tasks store request
  have found : store.collections.get? "tasks" = some tasks := rfl
  have bounded : tasks.records.length ≤ maxCount := by decide
  have sortable : request.order.field ∈ tasks.indexes := by decide
  have compiled : Query.compileSearch .standard request.searchTerm = .ok none :=
    Query.compileSearch_of_isBlankText (by decide)
  have positive : 0 < request.pageLength := by decide
  obtain ⟨_, permuted, _, behind, _⟩ :=
    list_answers_slices found bounded sortable compiled positive
  have total := permuted.length_eq
  have answered := behind 1 ["a:b"] maxCount (by rw [total]; decide)
  rw [total] at answered
  exact ⟨found, bounded, sortable, compiled, positive, by decide, answered⟩

end Dashboard.Listing
