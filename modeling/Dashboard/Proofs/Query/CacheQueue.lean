import Dashboard.Proofs.Table
import Dashboard.Query.Cache

/-!
# The cache as a map and a queue

A cache that finds its predicates in a map needs a queue beside it to know the oldest key. The
two are changed one after the other, and the loop that makes room trusts the queue to name
what the map holds. As long as they agree, the loop drops exactly the excess of oldest
entries, and the pair answers as the list of entries does.
-/

namespace Dashboard

/-- A bounded cache of predicates: the map, and the queue of its keys, the oldest in front. -/
structure QueuedCache where
  capacity : Nat
  entries : Table Predicate
  order : List String
  statistics : CacheStatistics

namespace QueuedCache

/-- A cache without entries; one of capacity zero never keeps any. -/
def empty (capacity : Nat) : QueuedCache := ⟨capacity, .empty, [], ⟨0, 0, 0⟩⟩

/-- Looks a text up in the map and counts a hit or a miss. -/
def lookup (cache : QueuedCache) (text : String) : Option Predicate × QueuedCache :=
  match cache.entries.get? text with
  | some predicate =>
    (some predicate,
      { cache with statistics := { cache.statistics with hits := cache.statistics.hits + 1 } })
  | none =>
    (none,
      { cache with
        statistics := { cache.statistics with misses := cache.statistics.misses + 1 } })

/-- While the map is full, takes the front of the queue and removes it from the map; counts
what is evicted. An empty queue ends the loop, whatever the map holds. -/
def makeRoom (capacity : Nat) : List String → Table Predicate → Nat →
    List String × Table Predicate × Nat
  | [], entries, evicted => ([], entries, evicted)
  | oldest :: order, entries, evicted =>
    if capacity ≤ entries.size then
      makeRoom capacity order (entries.erase oldest) (evicted + 1)
    else (oldest :: order, entries, evicted)

/-- Keeps a predicate, unless the text is there already: makes room, then puts the text at
the end of the queue and into the map. -/
def store (cache : QueuedCache) (text : String) (predicate : Predicate) : QueuedCache :=
  if cache.capacity = 0 then cache
  else if cache.entries.contains text then cache
  else
    let (order, entries, evicted) := makeRoom cache.capacity cache.order cache.entries 0
    { cache with
      entries := entries.insert text predicate
      order := order ++ [text]
      statistics :=
        { cache.statistics with evictions := cache.statistics.evictions + evicted } }

/-- The same cache with its entries as a list. -/
def fused (cache : QueuedCache) : QueryCache :=
  ⟨cache.capacity, cache.entries.entries, cache.statistics⟩

/-- Map and queue agree, and there are no more entries than the capacity allows. -/
structure Ordered (cache : QueuedCache) : Prop where
  keys : cache.entries.keys = cache.order
  distinct : cache.order.Nodup
  bounded : cache.entries.size ≤ cache.capacity

variable {cache : QueuedCache} {text : String} {predicate : Predicate}

theorem ordered_empty (capacity : Nat) : (empty capacity).Ordered :=
  ⟨rfl, .nil, Nat.zero_le capacity⟩

section Lookup

theorem entries_lookup (cache : QueuedCache) (text : String) :
    (cache.lookup text).2.entries = cache.entries := by
  unfold lookup
  split <;> rfl

theorem order_lookup (cache : QueuedCache) (text : String) :
    (cache.lookup text).2.order = cache.order := by
  unfold lookup
  split <;> rfl

theorem capacity_lookup (cache : QueuedCache) (text : String) :
    (cache.lookup text).2.capacity = cache.capacity := by
  unfold lookup
  split <;> rfl

theorem evictions_lookup (cache : QueuedCache) (text : String) :
    (cache.lookup text).2.statistics.evictions = cache.statistics.evictions := by
  unfold lookup
  split <;> rfl

/-- A look-up counts one hit or one miss. -/
theorem lookUps_lookup (cache : QueuedCache) (text : String) :
    (cache.lookup text).2.statistics.hits + (cache.lookup text).2.statistics.misses =
      cache.statistics.hits + cache.statistics.misses + 1 := by
  unfold lookup
  split <;> dsimp only <;> omega

/-- A look-up keeps map and queue in agreement. -/
theorem Ordered.lookup (ordered : cache.Ordered) (text : String) :
    (cache.lookup text).2.Ordered := by
  constructor
  · rw [entries_lookup, order_lookup]
    exact ordered.keys
  · rw [order_lookup]
    exact ordered.distinct
  · rw [entries_lookup, capacity_lookup]
    exact ordered.bounded

/-- The list of entries finds what the map does. -/
theorem get?_fused (cache : QueuedCache) (text : String) :
    cache.fused.get? text = cache.entries.get? text := by
  have onEntries (entries : List (String × Predicate)) :
      (entries.find? fun entry => entry.1 == text).map Prod.snd = Table.find text entries := by
    induction entries with
    | nil => rfl
    | cons entry rest inductionHypothesis =>
      by_cases same : entry.1 = text
      · simp [Table.find, same]
      · simpa [Table.find, same] using inductionHypothesis
  exact onEntries cache.entries.entries

/-- A look-up in the list of entries answers and counts as one in the map does. -/
theorem lookup_fused (cache : QueuedCache) (text : String) :
    cache.fused.lookup text = ((cache.lookup text).1, (cache.lookup text).2.fused) := by
  unfold QueryCache.lookup lookup
  rw [get?_fused]
  cases cache.entries.get? text <;> rfl

end Lookup

section Store

/-- Where map and queue agree, they are of one length. -/
theorem Ordered.size_entries (ordered : cache.Ordered) :
    cache.entries.size = cache.order.length := by
  rw [← ordered.keys, Table.keys, List.length_map, Table.size]

/-- Where map and queue agree, the queue holds the texts that find a predicate. -/
theorem Ordered.mem_order_iff (ordered : cache.Ordered) :
    text ∈ cache.order ↔ ∃ predicate, cache.entries.get? text = some predicate := by
  rw [← ordered.keys, Table.mem_keys_iff]

theorem Ordered.contains_iff (ordered : cache.Ordered) :
    cache.entries.contains text = true ↔ text ∈ cache.order := by
  rw [ordered.mem_order_iff, Table.contains, Option.isSome_iff_exists]

/-- Where the queue lists the keys of the map, the loop ends with room for one entry, and has
dropped the oldest entries, as many as were too many. -/
theorem makeRoom_eq {capacity : Nat} (positive : 0 < capacity) {order : List String}
    {entries : Table Predicate} (keys : entries.keys = order) (evicted : Nat) :
    makeRoom capacity order entries evicted =
      (order.drop (entries.size + 1 - capacity),
        ⟨entries.entries.drop (entries.size + 1 - capacity)⟩,
        evicted + (entries.size + 1 - capacity)) := by
  induction order generalizing entries evicted with
  | nil =>
    have noEntries : entries.entries = [] := List.map_eq_nil_iff.mp keys
    have noExcess : entries.size + 1 - capacity = 0 := by
      rw [Table.size, noEntries, List.length_nil]
      omega
    rw [noExcess]
    rfl
  | cons oldest order inductionHypothesis =>
    obtain ⟨entry, rest, isEntries, rfl, restKeys⟩ := List.map_eq_cons_iff.mp keys
    have size : entries.size = rest.length + 1 := by
      rw [Table.size, isEntries, List.length_cons]
    unfold makeRoom
    split
    · rename_i full
      have erased : entries.erase entry.1 = ⟨rest⟩ := by
        rw [Table.erase, isEntries, Table.remove, if_pos rfl]
      have excess : entries.size + 1 - capacity = rest.length + 1 - capacity + 1 := by omega
      have restSize : (⟨rest⟩ : Table Predicate).size = rest.length := rfl
      rw [erased, inductionHypothesis restKeys, excess, isEntries, restSize,
        List.drop_succ_cons, List.drop_succ_cons, Nat.add_assoc, Nat.add_comm 1]
    · rename_i room
      have noExcess : entries.size + 1 - capacity = 0 := by omega
      rw [noExcess]
      rfl

theorem store_of_capacity_zero (none : cache.capacity = 0) :
    cache.store text predicate = cache :=
  if_pos none

/-- A text that is there already is not stored again. -/
theorem Ordered.store_of_mem (ordered : cache.Ordered) (present : text ∈ cache.order) :
    cache.store text predicate = cache := by
  unfold store
  rw [if_pos (ordered.contains_iff.mpr present), ite_self]

/-- A new text is stored at the end, behind what remains of the older ones. -/
theorem Ordered.store_of_not_mem (ordered : cache.Ordered) (positive : cache.capacity ≠ 0)
    (absent : text ∉ cache.order) :
    let excess := cache.entries.size + 1 - cache.capacity
    cache.store text predicate =
      { cache with
        entries := ⟨cache.entries.entries.drop excess ++ [(text, predicate)]⟩
        order := cache.order.drop excess ++ [text]
        statistics :=
          { cache.statistics with evictions := cache.statistics.evictions + excess } } := by
  intro excess
  have remaining : (⟨cache.entries.entries.drop excess⟩ : Table Predicate).get? text = none := by
    rw [Table.get?, Table.find_eq_none_iff, List.map_drop]
    intro remains
    exact absent (ordered.keys ▸ List.mem_of_mem_drop remains)
  have inserted := Table.entries_insert_of_absent remaining predicate
  unfold store
  rw [if_neg positive, if_neg (fun present => absent (ordered.contains_iff.mp present)),
    makeRoom_eq (Nat.pos_of_ne_zero positive) ordered.keys 0, Nat.zero_add]
  exact congrArg (fun entries => { cache with
    entries := entries
    order := cache.order.drop excess ++ [text]
    statistics :=
      { cache.statistics with evictions := cache.statistics.evictions + excess } })
    (congrArg Table.mk inserted)

/-- A store changes nothing, or it adds a new text behind what remains of the older ones. -/
theorem Ordered.store_cases (ordered : cache.Ordered) (text : String) (predicate : Predicate) :
    let after := cache.store text predicate
    let excess := cache.entries.size + 1 - cache.capacity
    after = cache ∨
      cache.capacity ≠ 0 ∧ text ∉ cache.order ∧
        after =
          { cache with
            entries := ⟨cache.entries.entries.drop excess ++ [(text, predicate)]⟩
            order := cache.order.drop excess ++ [text]
            statistics :=
              { cache.statistics with evictions := cache.statistics.evictions + excess } } := by
  by_cases none : cache.capacity = 0
  · exact .inl (store_of_capacity_zero none)
  by_cases present : text ∈ cache.order
  · exact .inl (ordered.store_of_mem present)
  · exact .inr ⟨none, present, ordered.store_of_not_mem none present⟩

/-- Storing keeps map and queue in agreement, with and without an eviction. -/
theorem Ordered.store (ordered : cache.Ordered) (text : String) (predicate : Predicate) :
    (cache.store text predicate).Ordered := by
  rcases ordered.store_cases text predicate with same | ⟨positive, absent, added⟩
  · rwa [same]
  · rw [added]
    have bounded := ordered.bounded
    refine ⟨?_, ?_, ?_⟩
    · rw [Table.keys, List.map_append, List.map_drop, ← ordered.keys]
      rfl
    · refine List.nodup_append.mpr ⟨ordered.distinct.sublist (List.drop_sublist _ _), by simp, ?_⟩
      rintro other remains _ (_ | ⟨_, ⟨⟩⟩) rfl
      exact absent (List.mem_of_mem_drop remains)
    · rw [Table.size, List.length_append, List.length_drop, List.length_singleton]
      rw [Table.size] at *
      dsimp only
      omega

/-- On an ordered cache, a store does what it does on the list of entries. -/
theorem Ordered.fused_store (ordered : cache.Ordered) (text : String) (predicate : Predicate) :
    (cache.store text predicate).fused = cache.fused.store text predicate := by
  have known : (cache.fused.get? text).isSome = true ↔ text ∈ cache.order := by
    rw [get?_fused, ← ordered.contains_iff, Table.contains]
  unfold QueryCache.store
  by_cases none : cache.capacity = 0
  · rw [store_of_capacity_zero none, if_pos (by simp [fused, none])]
  by_cases present : text ∈ cache.order
  · rw [ordered.store_of_mem present, if_pos (by simp [known.mpr present])]
  · have isNew : ¬(cache.fused.capacity = 0 || (cache.fused.get? text).isSome) = true := by
      rw [Bool.or_eq_true, decide_eq_true_iff, known, not_or]
      exact ⟨none, present⟩
    rw [ordered.store_of_not_mem none present, if_neg isNew]
    rfl

end Store

end QueuedCache

end Dashboard
