import Dashboard.Pattern.Compiled
import Dashboard.Proofs.Listing.Page
import Dashboard.Proofs.Text.Trim
import Mathlib.Control.Functor

/-!
# How a list query fails

A request for no rows fails first, then a search term that does not compile, and neither asks the
source for anything. Only then the source is called, and the first call that fails decides. This
holds of every source, whatever monad it works in: its calls are recorded beside their failures,
and what is recorded is compared with the calls that the request needs.
-/

namespace Dashboard.Listing

open Functor (Liftp)

/-- A call of a source. -/
inductive SourceCall where
  | fetchOrdered (collection : String) (order : SortOrder) (range : Option (Nat × Nat))
  | count (collection : String)
  deriving DecidableEq

/-- A call of a source with its failure, if it failed. -/
structure CallOutcome where
  call : SourceCall
  failure : Option StorageError
  deriving DecidableEq

/-- The failure that a source answers. -/
def failureOf? {α : Type} : Except StorageError α → Option StorageError
  | .ok _ => none
  | .error cause => some cause

/-- The calls that a request needs when none of them fails: a window and a size without a filter,
else the whole collection. -/
def ListRequest.calls (request : ListRequest) (collection : String) :
    Option Predicate → List SourceCall
  | none =>
    [.fetchOrdered collection request.order (some (request.pageStart, request.pageEnd)),
      .count collection]
  | some _ => [.fetchOrdered collection request.order none]

/-- Calls were made in their order, up to the first that failed or to the last. -/
inductive CallsMade : List SourceCall → List CallOutcome → Option StorageError → Prop where
  | done : CallsMade [] [] none
  | failed {call rest cause} : CallsMade (call :: rest) [⟨call, some cause⟩] (some cause)
  | further {call rest outcomes failure} (behind : CallsMade rest outcomes failure) :
      CallsMade (call :: rest) (⟨call, none⟩ :: outcomes) failure

/-- The answer that the first failure of a source leads to: a field that cannot be ordered by is
told as that, and any other failure as one of the store. -/
inductive Reports : Option StorageError → Except ListError Page → Prop where
  | unsortable {field} : Reports (some (.unsortableField field)) (.error (.unsortableField field))
  | storage {cause} (other : ∀ field, cause ≠ .unsortableField field) :
      Reports (some cause) (.error (.storage cause))
  | page {page} : Reports none (.ok page)

theorem ListRequest.field_order (request : ListRequest) :
    request.order.field = request.resolvedSortField := by
  rw [order]

/-- A failure of a source is reported by the error that it becomes. -/
theorem reports_ofStorage (cause : StorageError) :
    Reports (some cause) (.error (.ofStorage cause)) := by
  cases cause with
  | unsortableField field => exact .unsortable
  | collectionNotFound | duplicateKey | invalidRecord | unavailable => exact .storage nofun

section Outcomes

variable {m : Type → Type} [Monad m] [LawfulMonad m] {α β : Type} {holds : β → Prop}

theorem liftp_pure {value : β} (isHeld : holds value) : Liftp holds (pure value : m β) :=
  ⟨pure ⟨value, isHeld⟩, map_pure ..⟩

/-- What holds of all outcomes behind every answer holds of all outcomes. -/
theorem liftp_bind {ask : m α} {next : α → m β}
    (isHeld : ∀ answer, Liftp holds (next answer)) : Liftp holds (ask >>= next) := by
  have ⟨held, erased⟩ := Classical.skolem.mp isHeld
  exact ⟨ask >>= held, by simp only [map_bind, erased]⟩

/-- What holds of all outcomes behind a change holds of all changed outcomes. -/
theorem liftp_map {ask : m α} {f : α → β} (isHeld : Liftp (fun answer => holds (f answer)) ask) :
    Liftp holds (f <$> ask) := by
  obtain ⟨held, rfl⟩ := isHeld
  exact ⟨(fun answer => ⟨f answer.1, answer.2⟩) <$> held, by simp⟩

end Outcomes

section Sources

variable {m : Type → Type} [Monad m]

/-- A question to a source with its call recorded behind those before. -/
def record {α : Type} (call : SourceCall) (ask : m (Except StorageError α)) :
    StateT (List CallOutcome) m (Except StorageError α) := do
  let answer ← ask
  modify (· ++ [⟨call, failureOf? answer⟩])
  return answer

/-- The source with its calls recorded. -/
def RecordSource.recorded (source : RecordSource m) :
    RecordSource (StateT (List CallOutcome) m) where
  fetchOrdered name order range :=
    record (.fetchOrdered name order range) (source.fetchOrdered name order range)
  count name := record (.count name) (source.count name)

variable [LawfulMonad m]

/-- What follows a question runs with its call behind those before. -/
theorem run_record_bind {α β : Type} (call : SourceCall) (ask : m (Except StorageError α))
    (next : Except StorageError α → StateT (List CallOutcome) m β) (before : List CallOutcome) :
    (record call ask >>= next).run before =
      ask >>= fun answer => (next answer).run (before ++ [⟨call, failureOf? answer⟩]) := by
  simp [record]

variable {engine : PatternEngine} (source : RecordSource m) (collection : String)
  (request : ListRequest)

/-- Without a filter, the window is asked for and then the size. -/
theorem liftp_fetchPage :
    Liftp (fun result => ∃ failure,
        CallsMade (request.calls collection none) result.2 failure ∧ Reports failure result.1)
      ((fetchPage source.recorded collection request).run []) := by
  unfold fetchPage RecordSource.recorded
  rw [run_record_bind]
  refine liftp_bind fun answer => ?_
  cases answer with
  | error cause => exact liftp_pure ⟨some cause, .failed, reports_ofStorage cause⟩
  | ok rows =>
    dsimp only
    rw [run_record_bind]
    refine liftp_bind fun answer => ?_
    cases answer with
    | error cause => exact liftp_pure ⟨some cause, .further .failed, reports_ofStorage cause⟩
    | ok total => exact liftp_pure ⟨none, .further (.further .done), .page⟩

/-- With a filter, the whole collection is asked for. -/
theorem liftp_fetchMatching (predicate : Predicate) :
    Liftp (fun result => ∃ failure,
        CallsMade (request.calls collection (some predicate)) result.2 failure ∧
          Reports failure result.1)
      ((fetchMatching source.recorded collection request predicate).run []) := by
  unfold fetchMatching RecordSource.recorded
  rw [run_record_bind]
  refine liftp_bind fun answer => ?_
  cases answer with
  | error cause => exact liftp_pure ⟨some cause, .failed, reports_ofStorage cause⟩
  | ok ordered => exact liftp_pure ⟨none, .further .done, .page⟩

/-- What is recorded changes no answer. -/
theorem fst_fetchPage_recorded (before : List CallOutcome) :
    Prod.fst <$> (fetchPage source.recorded collection request).run before =
      fetchPage source collection request := by
  unfold fetchPage RecordSource.recorded
  rw [run_record_bind, map_bind]
  refine bind_congr fun answer => ?_
  cases answer with
  | error cause => simp
  | ok rows =>
    dsimp only
    rw [run_record_bind, map_bind]
    refine bind_congr fun answer => ?_
    cases answer <;> simp

/-- What is recorded changes no answer with a filter either. -/
theorem fst_fetchMatching_recorded (predicate : Predicate) (before : List CallOutcome) :
    Prod.fst <$> (fetchMatching source.recorded collection request predicate).run before =
      fetchMatching source collection request predicate := by
  unfold fetchMatching RecordSource.recorded
  rw [run_record_bind, map_bind]
  refine bind_congr fun answer => ?_
  cases answer <;> simp

/-- Once a term is decided, the calls that are needed are made up to the first that fails. -/
theorem liftp_answerWith (filter : Option Predicate) :
    Liftp (fun result => ∃ failure,
        CallsMade (request.calls collection filter) result.2 failure ∧ Reports failure result.1)
      ((answerWith source.recorded collection request (.ok filter)).run []) := by
  cases filter with
  | none => exact liftp_fetchPage source collection request
  | some predicate => exact liftp_fetchMatching source collection request predicate

/-- What is recorded changes no answer, however the term was decided. -/
theorem fst_answerWith_recorded (compiled : Except Query.SearchError (Option Predicate)) :
    Prod.fst <$> (answerWith source.recorded collection request compiled).run [] =
      answerWith source collection request compiled := by
  rcases compiled with cause | _ | predicate
  · simp [answerWith]
  · exact fst_fetchPage_recorded source collection request []
  · exact fst_fetchMatching_recorded source collection request predicate []

/-- A request for rows is answered once its term is decided, and leaves the cache of the call that
decided it. -/
theorem runRequest_of_positive {cache : QueryCache} (positive : 0 < request.pageLength) :
    runRequest engine source cache collection request =
      (fun answer => (answer, (cache.getOrCompile engine request.searchTerm).2)) <$>
        answerWith source collection request (cache.getOrCompile engine request.searchTerm).1 := by
  unfold runRequest
  rw [if_neg (Nat.ne_of_gt positive)]
  rcases cache.getOrCompile engine request.searchTerm with ⟨cause | _ | predicate, next⟩ <;>
    simp [answerWith]

/-- Recording its calls leaves the answer to a request and the cache behind it as they are. -/
theorem fst_runRequest_recorded (cache : QueryCache) :
    Prod.fst <$> (runRequest engine source.recorded cache collection request).run [] =
      runRequest engine source cache collection request := by
  by_cases empty : request.pageLength = 0
  · simp [runRequest, empty]
  · have positive := Nat.pos_of_ne_zero empty
    rw [runRequest_of_positive source.recorded collection request positive,
      runRequest_of_positive source collection request positive, StateT.run_map,
      ← fst_answerWith_recorded source, Functor.map_map, Functor.map_map]

end Sources

section Refusals

variable {engine : PatternEngine} {m : Type → Type} [Monad m] {cache : QueryCache}
  {collection : String} {request : ListRequest}

/-- A request for no rows asks the source for nothing. -/
theorem runRequest_of_empty (source : RecordSource m) (empty : request.pageLength = 0) :
    runRequest engine source cache collection request =
      pure (.error ListRequest.emptyPage, cache) := by
  rw [runRequest, if_pos empty]

/-- A term that does not compile keeps the source from being asked. -/
theorem runRequest_of_refused [LawfulMonad m] (source : RecordSource m) (collection : String)
    (coherent : cache.Coherent engine) (positive : 0 < request.pageLength)
    {cause : Query.SearchError}
    (refused : Query.compileSearch engine request.searchTerm = .error cause) :
    ∃ next : QueryCache, next.entries = cache.entries ∧
      runRequest engine source cache collection request =
        pure (.error (.badSearchTerm cause), next) := by
  have answered := (coherent.getOrCompile_fst request.searchTerm).trans refused
  refine ⟨_, QueryCache.entries_getOrCompile_of_error answered, ?_⟩
  rw [runRequest_of_positive source collection request positive, answered, answerWith, map_pure]

/-- A request for rows whose term compiles makes the calls that it needs up to the first that
fails, and reports that. -/
theorem liftp_runRequest [LawfulMonad m] (source : RecordSource m)
    (coherent : cache.Coherent engine) (positive : 0 < request.pageLength)
    {filter : Option Predicate}
    (compiled : Query.compileSearch engine request.searchTerm = .ok filter) :
    Liftp (fun result => ∃ failure,
        CallsMade (request.calls collection filter) result.2 failure ∧ Reports failure result.1.1)
      ((runRequest engine source.recorded cache collection request).run []) := by
  have answered := (coherent.getOrCompile_fst request.searchTerm).trans compiled
  rw [runRequest_of_positive source.recorded collection request positive, answered,
    StateT.run_map]
  exact liftp_map (liftp_answerWith source collection request filter)

end Refusals

namespace RecordStore

variable {engine : PatternEngine} {store : RecordStore} {name : String}
  {collection : Collection} {request : ListRequest} {cause : StorageError}
  {filter : Option Predicate}

/-- A collection that is not stored is told so before its order is looked at. -/
theorem fetchOrdered_of_unknown (unknown : store.collections.get? name = none) (order : SortOrder)
    (range : Option (Nat × Nat)) :
    store.fetchOrdered name order range = .error (.collectionNotFound name) := by
  rw [fetchOrdered, find, unknown]
  rfl

theorem fetchOrdered_of_unsortable {order : SortOrder}
    (found : store.collections.get? name = some collection)
    (unsortable : order.field ∉ collection.indexes) (range : Option (Nat × Nat)) :
    store.fetchOrdered name order range = .error (.unsortableField order.field) := by
  simp [fetchOrdered, find_eq_ok_iff.mpr found, unsortable, bind, Except.bind, throw, throwThe,
    MonadExceptOf.throw]

/-- A store orders a collection when it has it and may order it by the field, and answers what the
range leaves of its records in order. -/
theorem fetchOrdered_eq_ok_iff {store : RecordStore} {name : String} {order : SortOrder}
    {range : Option (Nat × Nat)} {records : List Json} :
    store.fetchOrdered name order range = .ok records ↔
      ∃ collection, store.collections.get? name = some collection ∧
        order.field ∈ collection.indexes ∧
        records = match range with
          | some (start, stop) => window (order.sort collection.records) start stop
          | none => order.sort collection.records := by
  constructor
  · intro fetched
    cases found : store.collections.get? name with
    | none =>
      rw [fetchOrdered_of_unknown found] at fetched
      cases fetched
    | some collection =>
      by_cases sortable : order.field ∈ collection.indexes
      · rw [fetchOrdered_of_found range found sortable] at fetched
        exact ⟨collection, rfl, sortable, (Except.ok.inj fetched).symm⟩
      · rw [fetchOrdered_of_unsortable found sortable] at fetched
        cases fetched
  · rintro ⟨collection, found, sortable, rfl⟩
    exact fetchOrdered_of_found range found sortable

/-- A store that refuses to order a collection refuses a request with and without a filter. -/
theorem answerWith_of_refused
    (refused : ∀ range, store.fetchOrdered name request.order range = .error cause) :
    answerWith store.source name request (.ok filter) = .error (.ofStorage cause) := by
  cases filter <;> simp [answerWith, fetchPage, fetchMatching, source, refused] <;> rfl

/-- A store that orders a collection answers a request with and without a filter. -/
theorem answerWith_of_sortable (filter : Option Predicate)
    (found : store.collections.get? name = some collection)
    (sortable : request.order.field ∈ collection.indexes) :
    ∃ page, answerWith store.source name request (.ok filter) = .ok page := by
  cases filter <;> simp [answerWith, fetchPage, fetchMatching, source,
    fetchOrdered_of_found _ found sortable, count_of_found found] <;> exact ⟨_, rfl⟩

/-- A store answers a request for rows as its term was compiled, whatever the cache holds. -/
theorem fst_list_eq_answerWith {cache : QueryCache} (coherent : cache.Coherent engine)
    (positive : 0 < request.pageLength)
    (compiled : Query.compileSearch engine request.searchTerm = .ok filter) :
    (store.list engine cache name request).1 =
      answerWith store.source name request (.ok filter) := by
  have answered := fst_runRequest coherent store.source name request
  rw [if_neg (Nat.ne_of_gt positive), compiled] at answered
  exact answered

/-- Whatever the filter, a request over a store fails for an unknown collection, else for a field
that the collection cannot be ordered by, else not at all. -/
theorem list_outcomes {cache : QueryCache} (coherent : cache.Coherent engine)
    (positive : 0 < request.pageLength)
    (compiled : Query.compileSearch engine request.searchTerm = .ok filter) :
    let answer := (store.list engine cache name request).1
    (answer = .error (.storage (.collectionNotFound name)) ↔
      store.collections.get? name = none) ∧
    (answer = .error (.unsortableField request.resolvedSortField) ↔
      ∃ collection, store.collections.get? name = some collection ∧
        request.resolvedSortField ∉ collection.indexes) ∧
    ((∃ page, answer = .ok page) ↔
      ∃ collection, store.collections.get? name = some collection ∧
        request.resolvedSortField ∈ collection.indexes) := by
  intro answer
  have answered : answer = _ := fst_list_eq_answerWith coherent positive compiled
  rw [← request.field_order]
  cases found : store.collections.get? name with
  | none =>
    rw [answered, answerWith_of_refused (fetchOrdered_of_unknown found request.order)]
    simp [ListError.ofStorage]
  | some collection =>
    by_cases sortable : request.order.field ∈ collection.indexes
    · obtain ⟨page, isPage⟩ := answerWith_of_sortable filter found sortable
      rw [answered, isPage]
      simp [sortable]
    · rw [answered, answerWith_of_refused (fetchOrdered_of_unsortable found sortable)]
      simp [ListError.ofStorage, sortable]

end RecordStore

namespace ListRequest

/-- A request chooses no field to order by: its field is blank, or minus one between blanks. -/
def ChoosesNoField (request : ListRequest) : Prop :=
  Text.isBlankText request.sortField = true ∨
    ∃ before after, (∀ character ∈ before, Text.isBlank character = true) ∧
      (∀ character ∈ after, Text.isBlank character = true) ∧
      request.sortField.toList = before ++ "-1".toList ++ after

variable {request : ListRequest}

/-- A request chooses no field when its trimmed field is empty or the mark of an unset one. -/
theorem choosesNoField_iff :
    request.ChoosesNoField ↔
      Text.trim request.sortField = "" ∨ Text.trim request.sortField = unsetSortField := by
  have trimmed : Text.Trimmed unsetSortField.toList := by
    simp [Text.Trimmed, unsetSortField, Text.isBlank]
  rw [Text.trim_eq_empty_iff, Text.trim_eq_iff trimmed]
  rfl

/-- Where no field is chosen, records are ordered by time. -/
theorem resolvedSortField_of_choosesNoField (unset : request.ChoosesNoField) :
    request.resolvedSortField = "time" :=
  if_pos (choosesNoField_iff.mp unset)

/-- A field that is chosen is taken as it is written, with its blanks. -/
theorem resolvedSortField_of_chosen (chosen : ¬ request.ChoosesNoField) :
    request.resolvedSortField = request.sortField :=
  if_neg (choosesNoField_iff.not.mp chosen)

end ListRequest

/-- The failures of a list query have one order, for every source and behind every cache that
calls can lead to. A request for no rows is refused first and a term that does not compile next:
no call is recorded then, and the entries of the cache stay. Otherwise the calls that the request
needs are made up to the first that fails, which is reported. Over a store the outcome depends on
the collection and the field alone, not on the term; and the field is that of time where none is
chosen. -/
theorem list_failures_have_one_order {engine : PatternEngine} {m : Type → Type} [Monad m]
    [LawfulMonad m] (source : RecordSource m) {cache : QueryCache}
    (coherent : cache.Coherent engine) (collection : String) (request : ListRequest) :
    let recorded := (runRequest engine source.recorded cache collection request).run []
    (Prod.fst <$> recorded = runRequest engine source cache collection request) ∧
    (request.pageLength = 0 →
      recorded = pure ((.error (.invalidRequest "pageLength must be greater than 0"), cache), [])) ∧
    (0 < request.pageLength →
      ∀ cause, Query.compileSearch engine request.searchTerm = .error cause →
      ∃ next : QueryCache, next.entries = cache.entries ∧
        recorded = pure ((.error (.badSearchTerm cause), next), [])) ∧
    (0 < request.pageLength →
      ∀ filter, Query.compileSearch engine request.searchTerm = .ok filter →
      Liftp (fun result => ∃ failure,
          CallsMade (request.calls collection filter) result.2 failure ∧
            Reports failure result.1.1)
        recorded ∧
      ∀ store : RecordStore,
        let answer := (store.list engine cache collection request).1
        (answer = .error (.storage (.collectionNotFound collection)) ↔
          store.collections.get? collection = none) ∧
        (answer = .error (.unsortableField request.resolvedSortField) ↔
          ∃ found, store.collections.get? collection = some found ∧
            request.resolvedSortField ∉ found.indexes) ∧
        ((∃ page, answer = .ok page) ↔
          ∃ found, store.collections.get? collection = some found ∧
            request.resolvedSortField ∈ found.indexes)) ∧
    (request.ChoosesNoField → request.resolvedSortField = "time") ∧
    (¬ request.ChoosesNoField → request.resolvedSortField = request.sortField) := by
  intro recorded
  refine ⟨fst_runRequest_recorded source collection request cache, ?empty, ?refused, ?compiled,
    ListRequest.resolvedSortField_of_choosesNoField, ListRequest.resolvedSortField_of_chosen⟩
  case empty =>
    intro empty
    simp only [recorded, runRequest_of_empty source.recorded empty]
    rfl
  case refused =>
    intro positive cause refused
    obtain ⟨next, kept, answered⟩ :=
      runRequest_of_refused source.recorded collection coherent positive refused
    refine ⟨next, kept, ?_⟩
    simp only [recorded, answered]
    rfl
  case compiled =>
    intro positive filter compiled
    exact ⟨liftp_runRequest source coherent positive compiled,
      fun store => RecordStore.list_outcomes coherent positive compiled⟩

/-- A source whose every call fails. -/
def RecordSource.failing (cause : StorageError) : RecordSource Id :=
  ⟨fun _ _ _ => .error cause, fun _ => .error cause⟩

/-- Of a request with several faults the first in order is reported, and a source that always
fails is asked only when there is no other fault, and only once. -/
theorem failing_source_is_asked_last :
    let source := (RecordSource.failing (.unavailable "down")).recorded
    let cache := QueryCache.afterCalls .standard 1 ["a:b"]
    let request := (ListRequest.first 5).sortedBy "\t-1 " true
    let answer (request : ListRequest) :=
      Id.run ((runRequest .standard source cache "tasks" request).run [])
    cache.Coherent .standard ∧
    answer { request.searching "a:(" with pageLength := 0 } =
      ((.error (.invalidRequest "pageLength must be greater than 0"), cache), []) ∧
    (∃ next : QueryCache, next.entries = cache.entries ∧
      answer (request.searching "a:(") =
        ((.error (.badSearchTerm (.malformed ⟨.unexpectedEnd, 3⟩)), next), [])) ∧
    ((answer request).1.1 = .error (.storage (.unavailable "down")) ∧
      ∃ failure, CallsMade (request.calls "tasks" none) (answer request).2 failure ∧
        Reports failure (answer request).1.1) ∧
    (RecordStore.empty.list .standard cache "tasks" request).1 =
      .error (.storage (.collectionNotFound "tasks")) ∧
    request.resolvedSortField = "time" ∧
    (request.sortedBy " name" true).resolvedSortField = " name" := by
  intro source cache request answer
  have coherent : cache.Coherent .standard := QueryCache.coherent_afterCalls .standard 1 ["a:b"]
  have ordered (request : ListRequest) :=
    list_failures_have_one_order (.failing (.unavailable "down")) coherent "tasks" request
  have compiled : Query.compileSearch .standard request.searchTerm = .ok none :=
    Query.compileSearch_of_isBlankText rfl
  have malformed : Query.compileSearch .standard "a:(" =
      .error (.malformed ⟨.unexpectedEnd, 3⟩) := rfl
  have unset : request.ChoosesNoField :=
    ListRequest.choosesNoField_iff.mpr (.inr (by decide +kernel))
  have chosen : ¬ (request.sortedBy " name" true).ChoosesNoField :=
    ListRequest.choosesNoField_iff.not.mpr (by decide +kernel)
  obtain ⟨-, noRows, -, -, -, -⟩ := ordered { request.searching "a:(" with pageLength := 0 }
  obtain ⟨-, -, refused, -, -, -⟩ := ordered (request.searching "a:(")
  obtain ⟨-, -, -, asked, isTime, -⟩ := ordered request
  obtain ⟨-, -, -, -, -, isChosen⟩ := ordered (request.sortedBy " name" true)
  obtain ⟨next, kept, isRefused⟩ := refused (by decide) _ malformed
  obtain ⟨⟨made, isAnswer⟩, overStores⟩ := asked (by decide) none compiled
  have once := made.2
  rw [show made.1 = answer request from isAnswer] at once
  exact ⟨coherent, noRows rfl, ⟨next, kept, isRefused⟩, ⟨rfl, once⟩,
    (overStores .empty).1.mpr rfl, isTime unset, isChosen chosen⟩

end Dashboard.Listing
