import Dashboard.Pattern.Compiled
import Dashboard.Proofs.Listing.Failure
import Dashboard.Proofs.Listing.Order
import Dashboard.Proofs.Listing.Refinement

/-!
# Pages among writes

A request without a filter asks the source twice, for its window and for the size of the
collection, and other callers may write between the two. `SharedStore` is a store with the
writes of others, of which some run behind every question. The size is then that of a later
collection: it accounts for the records that arrived and departed in between. A request with a
filter asks once, and its total is that of the set which its rows were cut from.
-/

namespace Dashboard.Listing

/-- A store that other callers write to, with the calls that they make behind each question. -/
structure SharedStore where
  store : RecordStore
  writes : List (List StoreCall)

namespace SharedStore

/-- The calls that others make behind the next question. -/
def nextWrites (shared : SharedStore) : List StoreCall := shared.writes.headD []

/-- The store behind the next calls of others. -/
def afterWrites (shared : SharedStore) : SharedStore :=
  ⟨(shared.store.run shared.nextWrites).2, shared.writes.tail⟩

/-- A question is answered from the store as it is; then the others write. -/
def ask {α : Type} (question : RecordStore → α) : StateM SharedStore α :=
  fun shared => (question shared.store, shared.afterWrites)

/-- A shared store as a source. -/
def source : RecordSource (StateM SharedStore) :=
  ⟨fun name order range => ask fun store => store.fetchOrdered name order range,
    fun name => ask fun store => store.count name⟩

end SharedStore

/-- Some record of a collection has a key. -/
def Collection.Holds (collection : Collection) (key : String) : Prop :=
  ∃ record ∈ collection.records, HasKey collection.primaryKey record key

namespace RecordStore

/-- A call brings a collection a record under a key that no record of it has. -/
def Arrives (store : RecordStore) (name : String) (call : StoreCall) : Prop :=
  ∃ record collection key, call.Brings name record ∧
    store.collections.get? name = some collection ∧
    HasKey collection.primaryKey record key ∧ ¬ collection.Holds key

/-- A call takes a record of a collection away. -/
def Departs (store : RecordStore) (name : String) (call : StoreCall) : Prop :=
  ∃ key collection, call = .delete name key ∧
    store.collections.get? name = some collection ∧ collection.Holds key

/-- How many records arrive in a collection and how many depart while some calls run. -/
inductive Traffic (name : String) : RecordStore → List StoreCall → Nat → Nat → Prop where
  | none {store} : Traffic name store [] 0 0
  | arrival {store call rest arrived departed} (arrives : store.Arrives name call)
      (further : Traffic name (store.perform call).2 rest arrived departed) :
      Traffic name store (call :: rest) (arrived + 1) departed
  | departure {store call rest arrived departed} (departs : store.Departs name call)
      (further : Traffic name (store.perform call).2 rest arrived departed) :
      Traffic name store (call :: rest) arrived (departed + 1)
  | neither {store call rest arrived departed} (noArrival : ¬ store.Arrives name call)
      (noDeparture : ¬ store.Departs name call)
      (further : Traffic name (store.perform call).2 rest arrived departed) :
      Traffic name store (call :: rest) arrived departed

end RecordStore

namespace Collection

variable {collection : Collection} {key : String} {record : Json}

theorem isSome_get?_iff : (collection.get? key).isSome = true ↔ collection.Holds key := by
  simp only [get?, List.find?_isSome, hasKey_iff, Holds]

theorem length_replaceFirst (test : Json → Bool) (record : Json) (records : List Json) :
    (replaceFirst test record records).length = records.length := by
  induction records with
  | nil => rfl
  | cons other rest inductionHypothesis =>
    unfold replaceFirst
    split
    · rfl
    · rw [List.length_cons, inductionHypothesis, List.length_cons]

/-- Under a key that is held, a record takes the place of another. -/
theorem length_put_of_holds (holds : collection.Holds key) :
    (collection.put key record).records.length = collection.records.length := by
  rw [put, if_pos (isSome_get?_iff.mpr holds)]
  exact length_replaceFirst _ _ _

/-- Under a free key, a record is added. -/
theorem length_put_of_not_holds (free : ¬ collection.Holds key) :
    (collection.put key record).records.length = collection.records.length + 1 := by
  rw [put, if_neg (isSome_get?_iff.not.mpr free), append, List.length_append,
    List.length_singleton]

/-- Erasing a key that is held takes one record away. -/
theorem length_erase_of_holds (holds : collection.Holds key) :
    (collection.erase key).records.length + 1 = collection.records.length := by
  obtain ⟨record, found⟩ := Option.isSome_iff_exists.mp (isSome_get?_iff.mpr holds)
  obtain ⟨passes, before, after, split, noneBefore⟩ := List.find?_eq_some_iff_append.mp found
  have noneBefore : ∀ other ∈ before, collection.hasKey key other = false := by
    simpa using noneBefore
  rw [erase, split, removeFirst_append noneBefore passes]
  simp only [List.length_append, List.length_cons]
  omega

end Collection

namespace RecordStore

section Sizes

variable {store : RecordStore} {name other : String} {collection : Collection} {key : String}
  {record : Json} {call : StoreCall} {total : Nat}

/-- The number of records of a collection; none when there is no collection of the name. -/
def size (store : RecordStore) (name : String) : Nat := (store.recordsOf name).length

theorem size_of_found (found : store.collections.get? name = some collection) :
    store.size name = collection.records.length := by
  rw [size, recordsOf, found]

theorem size_withCollection :
    (store.withCollection name collection).size name = collection.records.length := by
  refine size_of_found ?_
  rw [withCollection, Table.get?_insert, if_pos rfl]

/-- What a count answers is the size. -/
theorem size_of_count (counted : store.count name = .ok total) : store.size name = total := by
  simp only [count, bind_eq_ok_iff, find_eq_ok_iff] at counted
  obtain ⟨collection, found, isSize⟩ := counted
  cases isSize
  exact size_of_found found

/-- A record that arrives adds one to the size of its collection. -/
theorem size_perform_of_arrives (arrives : store.Arrives name call) :
    (store.perform call).2.size name = store.size name + 1 := by
  obtain ⟨record, collection, key, brings, found, hasKey, free⟩ := arrives
  have isKey := keyOf?_eq_some_iff.mpr hasKey
  have isFound := find_eq_ok_iff.mpr found
  rw [size_of_found found]
  rcases brings with rfl | rfl
  · rw [insert_of_keyed isFound isKey, if_neg (Collection.isSome_get?_iff.not.mpr free)]
    dsimp only
    rw [size_withCollection, Collection.append, List.length_append, List.length_singleton]
  · rw [upsert_of_keyed isFound isKey]
    dsimp only
    rw [size_withCollection, Collection.length_put_of_not_holds free]

/-- A record that departs takes one from the size of its collection. -/
theorem size_perform_of_departs (departs : store.Departs name call) :
    (store.perform call).2.size name + 1 = store.size name := by
  obtain ⟨key, collection, rfl, found, holds⟩ := departs
  obtain ⟨record, isHeld⟩ := Option.isSome_iff_exists.mp (Collection.isSome_get?_iff.mpr holds)
  rw [size_of_found found, delete_of_found (find_eq_ok_iff.mpr found), isHeld]
  dsimp only
  rw [size_withCollection, Collection.length_erase_of_holds holds]

/-- Any other call that creates nothing leaves the size as it is. -/
theorem size_perform_of_neither (noCreation : ¬ call.Creates)
    (noArrival : ¬ store.Arrives name call) (noDeparture : ¬ store.Departs name call) :
    (store.perform call).2.size name = store.size name := by
  by_cases isOwn : call.collection = name
  case neg =>
    rw [size, recordsOf_of_agreeBut (agreeBut_perform store call) (Ne.symm isOwn), size]
  cases found : store.collections.get? name with
  | none =>
    have unknown : store.find call.collection = .error (.collectionNotFound call.collection) := by
      rw [find, isOwn, found]
    rw [perform_of_unknown noCreation unknown]
  | some collection =>
    have isFound := find_eq_ok_iff.mpr found
    have taken {record : Json} {key : String} (brings : call.Brings name record)
        (isKey : keyOf? collection.primaryKey record = some key) : collection.Holds key := by
      by_contra free
      exact noArrival ⟨record, collection, key, brings, found, keyOf?_eq_some_iff.mp isKey, free⟩
    cases call with
    | create _ primaryKey indexes => exact absurd ⟨primaryKey, indexes, rfl⟩ noCreation
    | insert target record =>
      obtain rfl : target = name := isOwn
      cases isKey : keyOf? collection.primaryKey record with
      | none => rw [perform_of_unusable isFound isKey (.inl rfl)]
      | some key =>
        rw [insert_of_keyed isFound isKey,
          if_pos (Collection.isSome_get?_iff.mpr (taken (.inl rfl) isKey))]
    | upsert target record =>
      obtain rfl : target = name := isOwn
      cases isKey : keyOf? collection.primaryKey record with
      | none => rw [perform_of_unusable isFound isKey (.inr rfl)]
      | some key =>
        rw [upsert_of_keyed isFound isKey, size_of_found found]
        dsimp only
        rw [size_withCollection, Collection.length_put_of_holds (taken (.inr rfl) isKey)]
    | delete target key =>
      obtain rfl : target = name := isOwn
      have free : ¬ collection.Holds key := fun holds =>
        noDeparture ⟨key, collection, rfl, found, holds⟩
      have notHeld : collection.get? key = none :=
        Option.not_isSome_iff_eq_none.mp (Collection.isSome_get?_iff.not.mpr free)
      rw [delete_of_found isFound, notHeld]

variable {calls : List StoreCall} {arrived departed : Nat}

/-- Some traffic goes with every run. -/
theorem exists_traffic (name : String) (store : RecordStore) (calls : List StoreCall) :
    ∃ arrived departed, Traffic name store calls arrived departed := by
  induction calls generalizing store with
  | nil => exact ⟨0, 0, .none⟩
  | cons call rest inductionHypothesis =>
    obtain ⟨arrived, departed, further⟩ := inductionHypothesis (store.perform call).2
    by_cases arrives : store.Arrives name call
    · exact ⟨arrived + 1, departed, .arrival arrives further⟩
    by_cases departs : store.Departs name call
    · exact ⟨arrived, departed + 1, .departure departs further⟩
    · exact ⟨arrived, departed, .neither arrives departs further⟩

theorem size_run_cons (store : RecordStore) (call : StoreCall) (rest : List StoreCall)
    (name : String) :
    (store.run (call :: rest)).2.size name = ((store.perform call).2.run rest).2.size name :=
  rfl

/-- Behind calls that create nothing, a collection has what it had and what arrived, less what
departed. -/
theorem Traffic.size_run (traffic : Traffic name store calls arrived departed)
    (noCreation : ∀ call ∈ calls, ¬ call.Creates) :
    (store.run calls).2.size name + departed = store.size name + arrived := by
  induction traffic with
  | none => rfl
  | arrival arrives further inductionHypothesis =>
    have behind := inductionHypothesis (List.forall_mem_cons.mp noCreation).2
    have onArrival := size_perform_of_arrives arrives
    rw [size_run_cons]
    omega
  | departure departs further inductionHypothesis =>
    have behind := inductionHypothesis (List.forall_mem_cons.mp noCreation).2
    have onDeparture := size_perform_of_departs departs
    rw [size_run_cons]
    omega
  | neither noArrival noDeparture further inductionHypothesis =>
    obtain ⟨noneFirst, noneBehind⟩ := List.forall_mem_cons.mp noCreation
    have behind := inductionHypothesis noneBehind
    have unchanged := size_perform_of_neither noneFirst noArrival noDeparture
    rw [size_run_cons]
    omega

end Sizes

end RecordStore

namespace SharedStore

variable {shared : SharedStore} {name : String} {request : ListRequest} {page : Page}

/-- The answer to a request once its search term is decided, with the writes of others behind
each question. -/
theorem fst_run_runRequest {engine : PatternEngine} {cache : QueryCache}
    (coherent : cache.Coherent engine) (positive : 0 < request.pageLength) :
    ((runRequest engine source cache name request).run shared).1.1 =
      ((answerWith source name request
        (Query.compileSearch engine request.searchTerm)).run shared).1 := by
  have answered := fst_runRequest coherent source name request
  rw [if_neg (Nat.ne_of_gt positive)] at answered
  exact congrArg (fun asked => (asked.run shared).1) answered

/-- What follows a question runs behind the writes. -/
theorem run_ask_bind {α β : Type} (question : RecordStore → α) (next : α → StateM SharedStore β) :
    (ask question >>= next).run shared = (next (question shared.store)).run shared.afterWrites :=
  rfl

/-- The rows of a page are asked for before the writes of others, and its total behind them. -/
theorem run_fetchPage {rows : List Json} {total : Nat}
    (fetched : shared.store.fetchOrdered name request.order
      (some (request.pageStart, request.pageEnd)) = .ok rows)
    (counted : shared.afterWrites.store.count name = .ok total) :
    ((fetchPage source name request).run shared).1 = .ok ⟨rows, total⟩ := by
  unfold fetchPage source
  rw [run_ask_bind, fetched]
  dsimp only
  rw [run_ask_bind, counted]
  rfl

/-- Without a filter the rows are those of the store before the writes, and the total is the size
of the collection behind them. -/
theorem fetchPage_eq_ok (answered : ((fetchPage source name request).run shared).1 = .ok page) :
    ∃ collection, shared.store.collections.get? name = some collection ∧
      page.rows = RecordStore.window (request.matching collection none) request.pageStart
        request.pageEnd ∧
      page.totalLength = shared.afterWrites.store.size name := by
  unfold fetchPage source at answered
  rw [run_ask_bind] at answered
  cases fetched : shared.store.fetchOrdered name request.order
      (some (request.pageStart, request.pageEnd)) with
  | error cause =>
    rw [fetched] at answered
    cases answered
  | ok rows =>
    rw [fetched] at answered
    dsimp only at answered
    rw [run_ask_bind] at answered
    cases counted : shared.afterWrites.store.count name with
    | error cause =>
      rw [counted] at answered
      cases answered
    | ok total =>
      rw [counted] at answered
      cases answered
      obtain ⟨collection, found, -, rfl⟩ := RecordStore.fetchOrdered_eq_ok_iff.mp fetched
      refine ⟨collection, found, ?_, (RecordStore.size_of_count counted).symm⟩
      rw [ListRequest.matching_none]

/-- With a filter the rows and the total are those of one set of matches. -/
theorem fetchMatching_eq_ok {predicate : Predicate}
    (answered : ((fetchMatching source name request predicate).run shared).1 = .ok page) :
    ∃ collection, shared.store.collections.get? name = some collection ∧
      page = request.pageOf (request.matching collection (some predicate)) := by
  unfold fetchMatching source at answered
  rw [run_ask_bind] at answered
  cases fetched : shared.store.fetchOrdered name request.order none with
  | error cause =>
    rw [fetched] at answered
    cases answered
  | ok ordered =>
    rw [fetched] at answered
    cases answered
    obtain ⟨collection, found, -, rfl⟩ := RecordStore.fetchOrdered_eq_ok_iff.mp fetched
    exact ⟨collection, found, rfl⟩

end SharedStore

/-- Without a filter a request is about every record. -/
theorem ListRequest.length_matching_none (request : ListRequest) (collection : Collection) :
    (request.matching collection none).length = collection.records.length := by
  rw [matching_none, length_sort]

/-- Rows that are cut from a set fit every total that is at least the size of the set. -/
theorem fits_of_prefix {rows matching : List Json} {start total : Nat}
    (isPrefix : rows <+: matching.drop start) (enough : matching.length ≤ total) :
    rows.length ≤ total ∧ (rows ≠ [] → start < total) := by
  have short := isPrefix.length_le
  rw [List.length_drop] at short
  refine ⟨by omega, fun notEmpty => ?_⟩
  have positive := List.length_pos_iff.mpr notEmpty
  omega

/-- However others write while a request is answered: the rows of its page are cut from the set
that it was about when the source was first asked. With a filter the total is the size of that
set. Without one it accounts for the records that arrived in the collection and departed from it
between the two questions, and it is the size of the set exactly when these are as many. As long as
no more departed than arrived, the page is no longer than its total, and starts below it unless it
is empty. -/
theorem totals_account_for_traffic {engine : PatternEngine} {shared : SharedStore}
    {cache : QueryCache} {name : String} {request : ListRequest} {page : Page}
    (coherent : cache.Coherent engine) (noCreation : ∀ call ∈ shared.nextWrites, ¬ call.Creates)
    (answered :
      ((runRequest engine SharedStore.source cache name request).run shared).1.1 = .ok page) :
    ∃ collection filter arrived departed,
      shared.store.collections.get? name = some collection ∧
      Query.compileSearch engine request.searchTerm = .ok filter ∧
      RecordStore.Traffic name shared.store shared.nextWrites arrived departed ∧
      let matching := request.matching collection filter
      page.rows <+: matching.drop request.pageStart ∧
      (matching.length ≤ maxCount → page.rows = (request.pageOf matching).rows) ∧
      (filter ≠ none → page.totalLength = matching.length) ∧
      (filter = none → page.totalLength + departed = matching.length + arrived) ∧
      (page.totalLength = matching.length ↔ filter ≠ none ∨ arrived = departed) ∧
      (filter ≠ none ∨ departed ≤ arrived →
        page.rows.length ≤ page.totalLength ∧
          (page.rows ≠ [] → request.pageStart < page.totalLength)) := by
  have positive : 0 < request.pageLength := by
    by_contra empty
    rw [runRequest_of_empty _ (Nat.eq_zero_of_not_pos empty)] at answered
    cases answered
  rw [SharedStore.fst_run_runRequest coherent positive] at answered
  obtain ⟨arrived, departed, traffic⟩ :=
    RecordStore.exists_traffic name shared.store shared.nextWrites
  cases compiled : Query.compileSearch engine request.searchTerm with
  | error cause =>
    rw [compiled] at answered
    cases answered
  | ok filter =>
    rw [compiled] at answered
    cases filter with
    | none =>
      obtain ⟨collection, found, isWindow, isSize⟩ := SharedStore.fetchPage_eq_ok answered
      have accounts : page.totalLength + departed =
          (request.matching collection none).length + arrived := by
        rw [isSize, request.length_matching_none, ← RecordStore.size_of_found found]
        exact traffic.size_run noCreation
      have isPrefix : page.rows <+:
          (request.matching collection none).drop request.pageStart := by
        rw [isWindow]
        exact List.take_prefix _ _
      refine ⟨collection, none, arrived, departed, found, rfl, traffic, isPrefix,
        fun bounded => ?_, fun differ => absurd rfl differ, fun _ => accounts, ?_,
        fun enough => fits_of_prefix isPrefix ?_⟩
      · rw [isWindow, RecordStore.window_pageEnd bounded, ListRequest.pageOf]
      · simp only [ne_eq, not_true_eq_false, false_or]
        omega
      · have noMore : departed ≤ arrived := enough.resolve_left fun differ => differ rfl
        omega
    | some predicate =>
      obtain ⟨collection, found, rfl⟩ := SharedStore.fetchMatching_eq_ok answered
      have isPrefix := List.take_prefix request.pageLength
        ((request.matching collection (some predicate)).drop request.pageStart)
      exact ⟨collection, some predicate, arrived, departed, found, rfl, traffic, isPrefix,
        fun _ => rfl, fun _ => rfl, fun isNone => absurd isNone (Option.some_ne_none predicate),
        by simp [ListRequest.pageOf], fun _ => fits_of_prefix isPrefix (Nat.le_refl _)⟩

namespace SharedStore

/-- Three tasks, with the writes of others behind the next question. -/
def tasksAmong (writes : List StoreCall) : SharedStore :=
  ⟨⟨⟨[("tasks", ⟨"name", ["name"], ["api", "job", "web"].map fun name =>
    .object [("name", .string name)]⟩)]⟩⟩, [writes]⟩

/-- A request for two tasks behind the first one by name. -/
def lastTasks : ListRequest := ⟨1, 2, "name", false, ""⟩

/-- The rows of the page of the last tasks. -/
def lastTaskRows : List Json := ["job", "web"].map fun name => .object [("name", .string name)]

/-- Whatever is written behind the first question, the page of the last tasks has the same rows. -/
theorem run_lastTasks (writes : List StoreCall) {total : Nat}
    (counted : ((tasksAmong writes).store.run writes).2.count "tasks" = .ok total) :
    ((runRequest .standard source (.empty 1) "tasks" lastTasks).run (tasksAmong writes)).1.1 =
      .ok ⟨lastTaskRows, total⟩ := by
  rw [fst_run_runRequest (QueryCache.coherent_empty 1) (by decide),
    Query.compileSearch_of_isBlankText (by decide)]
  refine run_fetchPage ?_ counted
  rw [RecordStore.fetchOrdered_of_found _ rfl (by decide),
    SortOrder.sort_of_pairwise (by decide +kernel)]
  rfl

/-- A task arrives and another departs behind the first question, and a third is replaced: the
total is that of the three tasks which the rows were cut from. -/
theorem totals_account_for_mixed_writes :
    let task (name : String) : Json := .object [("name", .string name)]
    let shared := tasksAmong
      [.insert "tasks" (task "log"), .upsert "tasks" (task "job"), .delete "tasks" "api"]
    let page : Page := ⟨lastTaskRows, 3⟩
    ((runRequest .standard source (.empty 1) "tasks" lastTasks).run shared).1.1 = .ok page ∧
      (∀ call ∈ shared.nextWrites, ¬ call.Creates) ∧
      ∃ arrived departed,
        RecordStore.Traffic "tasks" shared.store shared.nextWrites arrived departed ∧
        page.totalLength + departed = 3 + arrived ∧
        page.rows.length ≤ page.totalLength := by
  intro task shared page
  have counted : shared.afterWrites.store.count "tasks" = .ok 3 := rfl
  have answered := run_lastTasks _ counted
  have noCreation : ∀ call ∈ shared.nextWrites, ¬ call.Creates := by
    simp [shared, nextWrites, tasksAmong, StoreCall.Creates]
  obtain ⟨collection, filter, arrived, departed, found, compiled, traffic, -, -, -, accounts, -,
    fits⟩ := totals_account_for_traffic (QueryCache.coherent_empty 1) noCreation answered
  rw [Query.compileSearch_of_isBlankText (by decide)] at compiled
  cases compiled
  cases found
  have accounts := accounts rfl
  rw [ListRequest.length_matching_none] at accounts
  refine ⟨answered, noCreation, arrived, departed, traffic, accounts, (fits (.inr ?_)).1⟩
  change 3 + departed = 3 + arrived at accounts
  omega

/-- Two of three tasks are deleted between the two questions of a request: its page has two rows
and starts behind the first task, and its total is one. -/
theorem page_outgrows_total_behind_deletions :
    let shared := tasksAmong [.delete "tasks" "web", .delete "tasks" "api"]
    ∃ page, ((runRequest .standard source (.empty 1) "tasks" lastTasks).run shared).1.1 = .ok page ∧
      shared.store.count "tasks" = .ok 3 ∧ page.totalLength = 1 ∧
      ¬ page.rows.length ≤ page.totalLength ∧
      ¬ (page.rows ≠ [] → lastTasks.pageStart < page.totalLength) := by
  intro shared
  refine ⟨⟨lastTaskRows, 1⟩, run_lastTasks _ rfl, rfl, rfl, by decide, ?_⟩
  simp [lastTaskRows, lastTasks]

end SharedStore

end Dashboard.Listing
