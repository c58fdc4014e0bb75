import Dashboard.Proofs.Listing.Order
import Dashboard.Proofs.Listing.Page
import Mathlib.Data.List.Basic

/-!
# Searching and ordering

A search keeps some records of the ordered collection; a scan keeps the same records as they
were inserted. Ordering the scanned records gives what the search finds, ties included: records
in order are told by what ties with each value, and neither ordering nor searching moves
records that tie past each other. So what a search finds does not depend on other records.
-/

namespace Dashboard.Listing

namespace SortOrder

section Ties

variable {order : SortOrder} {record other : Json} {left right : List Json}

theorem ties_self (order : SortOrder) (record : Json) :
    order.ties (record.get? order.field) record = true := by
  simp [ties, Std.ReflCmp.compare_self]

/-- Records that may stand in either order tie. -/
theorem ties_of_allows (forward : order.Allows record other)
    (backward : order.Allows other record) : order.ties (record.get? order.field) other = true := by
  have swapped : compareValues (other.get? order.field) (record.get? order.field) =
      (compareValues (record.get? order.field) (other.get? order.field)).swap :=
    Std.OrientedCmp.eq_swap
  unfold Allows at forward backward
  rw [swapped] at backward
  unfold ties
  cases isDirection : order.direction <;> rw [isDirection] at forward backward <;>
    cases compared : compareValues (record.get? order.field) (other.get? order.field) <;>
      simp_all

/-- Two lists have the same records when they have the same ones tying with each value. -/
theorem mem_of_same_ties
    (same : ∀ value, left.filter (order.ties value) = right.filter (order.ties value))
    (isLeft : record ∈ left) : record ∈ right := by
  have isTied : record ∈ left.filter (order.ties (record.get? order.field)) :=
    List.mem_filter.mpr ⟨isLeft, order.ties_self record⟩
  rw [same] at isTied
  exact (List.mem_filter.mp isTied).1

/-- Records in order are told by the records that tie with each value, as these stand. -/
theorem eq_of_same_ties (leftInOrder : left.Pairwise order.Allows)
    (rightInOrder : right.Pairwise order.Allows)
    (same : ∀ value, left.filter (order.ties value) = right.filter (order.ties value)) :
    left = right := by
  induction left generalizing right with
  | nil =>
    refine (List.eq_nil_iff_forall_not_mem.mpr fun record isRight => ?_).symm
    exact List.not_mem_nil (mem_of_same_ties (fun value => (same value).symm) isRight)
  | cons record left inductionHypothesis =>
    cases right with
    | nil => cases mem_of_same_ties same (List.mem_cons_self ..)
    | cons other right =>
      obtain ⟨recordAllows, leftBehind⟩ := List.pairwise_cons.mp leftInOrder
      obtain ⟨otherAllows, rightBehind⟩ := List.pairwise_cons.mp rightInOrder
      -- Each of the first records stands somewhere in the other list, so the two tie.
      have isSame : record = other := by
        rcases List.mem_cons.mp (mem_of_same_ties same (List.mem_cons_self ..)) with
          isFirst | isLater
        · exact isFirst
        rcases List.mem_cons.mp
            (mem_of_same_ties (fun value => (same value).symm) (List.mem_cons_self ..)) with
          isFirst | isBehind
        · exact isFirst.symm
        have tied := ties_of_allows (recordAllows other isBehind) (otherAllows record isLater)
        have atValue := same (record.get? order.field)
        rw [List.filter_cons_of_pos (order.ties_self record), List.filter_cons_of_pos tied]
          at atValue
        exact (List.cons.inj atValue).1
      subst isSame
      have sameBehind (value : Option Json) :
          left.filter (order.ties value) = right.filter (order.ties value) := by
        have atValue := same value
        by_cases tied : order.ties value record = true
        · rw [List.filter_cons_of_pos tied, List.filter_cons_of_pos tied] at atValue
          exact (List.cons.inj atValue).2
        · rwa [List.filter_cons_of_neg tied, List.filter_cons_of_neg tied] at atValue
      rw [inductionHypothesis leftBehind rightBehind sameBehind]

end Ties

/-- Sorting does not move the records that tie with a value past each other. -/
theorem filter_ties_sort (order : SortOrder) (records : List Json) (value : Option Json) :
    (order.sort records).filter (order.ties value) = records.filter (order.ties value) :=
  order.filter_sort records _ fun _ _ => allows_of_ties

/-- Of ordered records, those that pass a test are the ordered ones of the records that pass. -/
theorem filter_sort_eq_sort_filter (order : SortOrder) (records : List Json)
    (keep : Json → Bool) :
    (order.sort records).filter keep = order.sort (records.filter keep) := by
  refine eq_of_same_ties ((order.pairwise_sort records).filter keep) (order.pairwise_sort _)
    fun value => ?_
  calc ((order.sort records).filter keep).filter (order.ties value)
    _ = ((order.sort records).filter (order.ties value)).filter keep := List.filter_comm ..
    _ = (records.filter (order.ties value)).filter keep := by rw [filter_ties_sort]
    _ = (records.filter keep).filter (order.ties value) := List.filter_comm ..
    _ = (order.sort (records.filter keep)).filter (order.ties value) :=
      (filter_ties_sort ..).symm

end SortOrder

namespace RecordStore

variable {engine : PatternEngine} {store : RecordStore} {name : String}
  {collection : Collection} {request : ListRequest} {predicate : Predicate}

theorem scan_of_found (found : store.collections.get? name = some collection)
    (keep : Json → Bool) : store.scan name keep = .ok (collection.records.filter keep) := by
  simp [scan, find_eq_ok_iff.mpr found, bind, Except.bind, pure, Except.pure]

/-- The answer to a search is cut from the scanned records in the order of the request. -/
theorem fst_list_search {cache : QueryCache} (coherent : cache.Coherent engine)
    (found : store.collections.get? name = some collection)
    (sortable : request.order.field ∈ collection.indexes)
    (compiled : Query.compileSearch engine request.searchTerm = .ok (some predicate))
    (positive : 0 < request.pageLength) :
    (store.list engine cache name request).1 = .ok (request.pageOf
      (request.order.sort (collection.records.filter (predicate.holds ·)))) := by
  have searched : answerWith store.source name request (.ok (some predicate)) =
      .ok (request.pageOf
        ((request.order.sort collection.records).filter (predicate.holds ·))) := by
    simp only [answerWith, fetchMatching, source, fetchOrdered_of_found _ found sortable]
    rfl
  have answered := fst_runRequest coherent store.source name request
  rw [if_neg (Nat.ne_of_gt positive), compiled, searched,
    SortOrder.filter_sort_eq_sort_filter] at answered
  exact answered

/-- Searching commutes with ordering. For a field that can be ordered by and a term that
compiles to a predicate, the records of the ordered collection of which the predicate holds are
the scanned ones in that order; pages are slices of them, and all pages together make them up,
whatever the caches went through. A store in which the scan finds the same records answers
alike, whatever else it holds. -/
theorem search_commutes_with_order (found : store.collections.get? name = some collection)
    (sortable : request.order.field ∈ collection.indexes)
    (compiled : Query.compileSearch engine request.searchTerm = .ok (some predicate))
    (positive : 0 < request.pageLength) :
    let answer (held : RecordStore) (capacity : Nat) (texts : List String) (start : Nat) :=
      (held.list engine (.afterCalls engine capacity texts) name (request.startingAt start)).1
    ∃ ordered scanned, store.fetchOrdered name request.order none = .ok ordered ∧
      store.scan name (predicate.holds ·) = .ok scanned ∧
      ordered.filter (predicate.holds ·) = request.order.sort scanned ∧
      (∀ capacity texts start, answer store capacity texts start =
        .ok ⟨((request.order.sort scanned).drop start).take request.pageLength,
          scanned.length⟩) ∧
      (∀ (pages : Nat → Page) (count : Nat), scanned.length ≤ count * request.pageLength →
        (∀ index < count, ∃ capacity texts,
          answer store capacity texts (index * request.pageLength) = .ok (pages index)) →
        (List.range count).flatMap (fun index => (pages index).rows) =
          request.order.sort scanned) ∧
      (∀ other otherCollection, other.collections.get? name = some otherCollection →
        request.order.field ∈ otherCollection.indexes →
        other.scan name (predicate.holds ·) = .ok scanned →
        ∀ capacity texts otherCapacity otherTexts start,
          answer other otherCapacity otherTexts start = answer store capacity texts start) := by
  intro answer
  have sliced {held : RecordStore} {heldCollection : Collection}
      (isHeld : held.collections.get? name = some heldCollection)
      (canSort : request.order.field ∈ heldCollection.indexes) (capacity : Nat)
      (texts : List String) (start : Nat) :
      answer held capacity texts start = .ok ((request.startingAt start).pageOf
        (request.order.sort (heldCollection.records.filter (predicate.holds ·)))) :=
    fst_list_search (QueryCache.coherent_afterCalls engine capacity texts) isHeld canSort compiled
      positive
  have page (start : Nat) : (request.startingAt start).pageOf
      (request.order.sort (collection.records.filter (predicate.holds ·))) =
        ⟨((request.order.sort (collection.records.filter (predicate.holds ·))).drop start).take
          request.pageLength, (collection.records.filter (predicate.holds ·)).length⟩ := by
    rw [ListRequest.pageOf, ListRequest.length_sort]
    rfl
  refine ⟨_, _, fetchOrdered_of_found none found sortable, scan_of_found found _,
    SortOrder.filter_sort_eq_sort_filter .., fun capacity texts start => ?slice, ?whole, ?others⟩
  case slice => rw [sliced found sortable, page]
  case whole =>
    intro pages count complete answered
    have rowsOf (index : Nat) (inRange : index ∈ List.range count) : (pages index).rows =
        ((request.order.sort (collection.records.filter (predicate.holds ·))).drop
          (index * request.pageLength)).take request.pageLength := by
      obtain ⟨capacity, texts, isPage⟩ := answered index (List.mem_range.mp inRange)
      rw [sliced found sortable, page] at isPage
      rw [← Except.ok.inj isPage]
    rw [List.flatMap_def, List.map_congr_left rowsOf, ← List.flatMap_def, flatMap_slices,
      List.take_of_length_le (by rwa [ListRequest.length_sort])]
  case others =>
    intro other otherCollection otherFound otherSortable otherScan capacity texts otherCapacity
      otherTexts start
    rw [scan_of_found otherFound] at otherScan
    rw [sliced otherFound otherSortable, sliced found sortable, Except.ok.inj otherScan]

/-- Two matches that tie stay as they were inserted around a record that does not match and
sorts before both, and a store without that record answers the same. -/
theorem search_commutes_with_descending_order :
    let first : Json := .object [("name", .string "web-b"), ("time", .number (.int 4))]
    let second : Json := .object [("name", .string "web-c"), ("time", .number (.int 2))]
    let between : Json := .object [("name", .string "api"), ("time", .number (.int 3))]
    let third : Json := .object [("name", .string "web-a"), ("time", .number (.int 2))]
    let store (records : List Json) : RecordStore :=
      ⟨⟨[("tasks", ⟨"name", ["name", "time"], records⟩)]⟩⟩
    let request : ListRequest := ⟨0, 2, "time", true, "name:^web"⟩
    let answer (records : List Json) (start : Nat) : Except ListError Page :=
      ((store records).list .standard (.afterCalls .standard 1 ["a:b"]) "tasks"
        (request.startingAt start)).1
    (∃ predicate, Query.compileSearch .standard request.searchTerm = .ok (some predicate)) ∧
      request.order.field ∈ ["name", "time"] ∧ 0 < request.pageLength ∧
      answer [first, second, between, third] 0 = .ok ⟨[first, second], 3⟩ ∧
      answer [first, second, between, third] 2 = .ok ⟨[third], 3⟩ ∧
      answer [first, second, third] 2 = answer [first, second, between, third] 2 := by
  intro first second between third store request answer
  obtain ⟨predicate, compiled, decided⟩ : ∃ predicate,
      Query.compileSearch .standard "name:^web" = .ok (some predicate) ∧
      [first, second, between, third].map (predicate.holds ·) = [true, true, false, true] :=
    ⟨_, rfl, by decide +kernel⟩
  obtain ⟨holdsFirst, holdsSecond, notBetween, holdsThird⟩ : predicate.holds first = true ∧
      predicate.holds second = true ∧ predicate.holds between = false ∧
      predicate.holds third = true := by
    simpa using decided
  have found : (store [first, second, between, third]).collections.get? "tasks" =
      some ⟨"name", ["name", "time"], [first, second, between, third]⟩ := rfl
  have sortable : request.order.field ∈ ["name", "time"] := by decide
  have positive : 0 < request.pageLength := by decide
  obtain ⟨_, scanned, -, scan, -, slices, -, others⟩ :=
    search_commutes_with_order found sortable compiled positive
  obtain rfl : scanned = [first, second, third] := by
    rw [scan_of_found rfl] at scan
    rw [← Except.ok.inj scan]
    simp [holdsFirst, holdsSecond, notBetween, holdsThird]
  have inOrder : request.order.sort [first, second, third] = [first, second, third] :=
    SortOrder.sort_of_pairwise (by decide +kernel)
  have rows (start : Nat) : answer [first, second, between, third] start =
      .ok ⟨([first, second, third].drop start).take 2, 3⟩ := by
    rw [← inOrder]
    exact slices 1 ["a:b"] start
  have sameScan : (store [first, second, third]).scan "tasks" (predicate.holds ·) =
      .ok [first, second, third] := by
    rw [scan_of_found rfl]
    simp [holdsFirst, holdsSecond, holdsThird]
  exact ⟨⟨predicate, compiled⟩, sortable, positive, rows 0, rows 2,
    others _ _ rfl sortable sameScan 1 ["a:b"] 1 ["a:b"] 2⟩

end RecordStore

end Dashboard.Listing
