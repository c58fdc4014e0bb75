import Dashboard.Pattern.Compiled
import Dashboard.Proofs.Query.Cache
import Dashboard.Proofs.Query.CacheQueue

/-!
# Calls that share a cache

A call looks its text up, compiles it without the lock after a miss, and keeps the predicate
later. Between its two steps other calls take theirs, so a text may miss in many calls, and may
be stored and evicted before the last of them keeps it. Whatever the order of the steps, map
and queue agree, and the entries are the last of the texts that were ever inserted.
-/

namespace Dashboard

/-- What calls do to a cache that they share, one at a time. -/
structure SharedCache (σ : Type) where
  empty : Nat → σ
  lookup : σ → String → Option Predicate × σ
  store : σ → String → Predicate → σ

/-- The cache with its entries as a list. -/
def QueryCache.shared : SharedCache QueryCache := ⟨empty, lookup, store⟩

/-- The cache as a map and a queue. -/
def QueuedCache.shared : SharedCache QueuedCache := ⟨empty, lookup, store⟩

/-- A step of a call. -/
inductive CallStep where
  /-- A new call looks its text up. -/
  | lookUp (text : String)
  /-- One of the calls that missed, by its place among them, keeps what it compiled. -/
  | keep (place : Nat)

/-- Whether a step looks something up; a call for a text of blanks does not. -/
def CallStep.looksUp : CallStep → Bool
  | lookUp text => !Text.isBlankText text
  | keep _ => false

/-- A shared cache, and what the calls that missed have compiled and not kept yet. -/
structure Calls (σ : Type) where
  cache : σ
  waiting : List (String × Predicate)

namespace Calls

section Run

variable (engine : PatternEngine) {σ : Type} (shared : SharedCache σ)

/-- A call begins: it looks its text up, and waits after a miss with what it has compiled. A
call whose text does not compile ends here. -/
def lookUp (calls : Calls σ) (text : String) : Calls σ :=
  if Text.isBlankText text then calls
  else match shared.lookup calls.cache text with
    | (some _, counted) => ⟨counted, calls.waiting⟩
    | (none, counted) =>
      match Query.compileSearch engine text with
      | .ok (some predicate) => ⟨counted, calls.waiting ++ [(text, predicate)]⟩
      | _ => ⟨counted, calls.waiting⟩

/-- A call that waits keeps its predicate and ends. -/
def keep (calls : Calls σ) (place : Nat) : Calls σ :=
  match calls.waiting[place]? with
  | some (text, predicate) =>
    ⟨shared.store calls.cache text predicate, calls.waiting.eraseIdx place⟩
  | none => calls

/-- Takes a step. -/
def step (calls : Calls σ) : CallStep → Calls σ
  | .lookUp text => calls.lookUp engine shared text
  | .keep place => calls.keep shared place

/-- No call has begun. -/
def start (capacity : Nat) : Calls σ := ⟨shared.empty capacity, []⟩

/-- Behind the steps of any number of calls, in the order in which they are taken. -/
def run (capacity : Nat) (steps : List CallStep) : Calls σ :=
  steps.foldl (step engine shared) (start shared capacity)

end Run

/-- The same calls with the entries of their cache as a list. -/
def fused (calls : Calls QueuedCache) : Calls QueryCache := ⟨calls.cache.fused, calls.waiting⟩

section Step

variable {engine : PatternEngine} {σ : Type} {shared : SharedCache σ} {calls : Calls σ}

/-- A call for a text that is not blank looks it up once. -/
theorem cache_lookUp {text : String} (notBlank : ¬Text.isBlankText text = true) :
    (calls.lookUp engine shared text).cache = (shared.lookup calls.cache text).2 := by
  rw [lookUp, if_neg notBlank]
  split
  · rename_i hit
    rw [hit]
  · rename_i miss
    rw [miss]
    split <;> rfl

/-- What a step does to the cache: nothing, a look-up, or a store of what a call has compiled. -/
theorem step_cases (engine : PatternEngine) (shared : SharedCache σ) (calls : Calls σ)
    (next : CallStep) :
    let after := (calls.step engine shared next).cache
    (after = calls.cache ∧ next.looksUp = false) ∨
    (∃ text, next = .lookUp text ∧ after = (shared.lookup calls.cache text).2 ∧
      next.looksUp = true) ∨
    ∃ text predicate, (text, predicate) ∈ calls.waiting ∧
      after = shared.store calls.cache text predicate ∧ next.looksUp = false := by
  cases next with
  | lookUp text =>
    by_cases blank : Text.isBlankText text = true
    · exact .inl ⟨by rw [step, lookUp, if_pos blank], by simp [CallStep.looksUp, blank]⟩
    · exact .inr (.inl ⟨text, rfl, cache_lookUp blank, by simp [CallStep.looksUp, blank]⟩)
  | keep place =>
    unfold step keep
    dsimp only
    split
    · rename_i text predicate isWaiting
      exact .inr (.inr ⟨text, predicate, List.mem_of_getElem? isWaiting, rfl, rfl⟩)
    · exact .inl ⟨rfl, rfl⟩

/-- Every call that waits has compiled its text. -/
def Compiled (engine : PatternEngine) (calls : Calls σ) : Prop :=
  ∀ call ∈ calls.waiting, Query.compileSearch engine call.1 = .ok (some call.2)

/-- A call that looks up waits with what its text compiles to, if it waits at all. -/
theorem Compiled.lookUp (compiled : calls.Compiled engine) (text : String) :
    (calls.lookUp engine shared text).Compiled engine := by
  unfold Calls.lookUp
  split
  · exact compiled
  · split
    · exact compiled
    · split
      · rename_i isCompiled
        intro call isCall
        rcases List.mem_append.mp isCall with waits | isNew
        · exact compiled call waits
        · obtain rfl := List.mem_singleton.mp isNew
          exact isCompiled
      · exact compiled

/-- A call that keeps its predicate leaves what the others wait with. -/
theorem Compiled.keep (compiled : calls.Compiled engine) (place : Nat) :
    (calls.keep shared place).Compiled engine := by
  unfold Calls.keep
  split
  · exact fun call isCall => compiled call (List.mem_of_mem_eraseIdx isCall)
  · exact compiled

/-- No step makes a call wait with anything but what its text compiles to. -/
theorem Compiled.step (compiled : calls.Compiled engine) (next : CallStep) :
    (calls.step engine shared next).Compiled engine := by
  cases next with
  | lookUp text => exact compiled.lookUp text
  | keep place => exact compiled.keep place

end Step

section Sequential

/-- A call that keeps what it compiled before another one begins. -/
theorem keep_lookUp (engine : PatternEngine) (cache : QueryCache) (text : String) :
    ((⟨cache, []⟩ : Calls QueryCache).lookUp engine QueryCache.shared text).keep
        QueryCache.shared 0 =
      ⟨(cache.getOrCompile engine text).2, []⟩ := by
  unfold QueryCache.getOrCompile lookUp
  by_cases blank : Text.isBlankText text = true
  · rw [if_pos blank, if_pos blank]
    rfl
  · rw [if_neg blank, if_neg blank]
    dsimp only [QueryCache.shared]
    rcases cache.lookup text with ⟨_ | predicate, counted⟩
    · rcases Query.compileSearch engine text with error | _ | predicate <;> rfl
    · rfl

/-- Calls one after the other are one of the orders in which their steps may be taken. -/
theorem run_sequential (engine : PatternEngine) (capacity : Nat) (texts : List String) :
    run engine QueryCache.shared capacity (texts.flatMap fun text => [.lookUp text, .keep 0]) =
      ⟨.afterCalls engine capacity texts, []⟩ := by
  have fromCache (cache : QueryCache) :
      (texts.flatMap fun text => [CallStep.lookUp text, .keep 0]).foldl
          (step engine QueryCache.shared) ⟨cache, []⟩ =
        ⟨texts.foldl (fun cache text => (cache.getOrCompile engine text).2) cache, []⟩ := by
    induction texts generalizing cache with
    | nil => rfl
    | cons text rest inductionHypothesis =>
      rw [List.flatMap_cons, List.foldl_append, List.foldl_cons, List.foldl_cons, List.foldl_nil,
        step, step, keep_lookUp, inductionHypothesis]
      rfl
  exact fromCache (.empty capacity)

end Sequential

end Calls

namespace QueuedCache

/-- The texts that one cache holds and an earlier one did not. -/
def newTexts (before after : QueuedCache) : List String :=
  after.entries.keys.filter fun text => !before.entries.contains text

/-- The texts that steps insert, in the order in which they do. -/
def insertedFrom (engine : PatternEngine) (calls : Calls QueuedCache) : List CallStep → List String
  | [] => []
  | next :: rest =>
    let after := calls.step engine shared next
    newTexts calls.cache after.cache ++ insertedFrom engine after rest

/-- All texts that were ever inserted, in order; one that was evicted may be there again. -/
def insertions (engine : PatternEngine) (capacity : Nat) (steps : List CallStep) : List String :=
  insertedFrom engine (.start shared capacity) steps

/-- A cache agrees with what was inserted so far and with the number of look-ups: it is
ordered, its entries are compiled from their texts, and all but the evicted texts are there. -/
structure Follows (engine : PatternEngine) (cache : QueuedCache) (capacity : Nat)
    (inserted : List String) (lookUps : Nat) : Prop where
  ordered : cache.Ordered
  coherent : cache.fused.Coherent engine
  sameCapacity : cache.capacity = capacity
  order : cache.order = inserted.drop cache.statistics.evictions
  evictions : cache.statistics.evictions + cache.entries.size = inserted.length
  lookUps : cache.statistics.hits + cache.statistics.misses = lookUps
  disabled : capacity = 0 → inserted = []

variable {engine : PatternEngine} {cache : QueuedCache} {capacity lookUps : Nat}
  {inserted : List String}

theorem follows_empty (engine : PatternEngine) (capacity : Nat) :
    (empty capacity).Follows engine capacity [] 0 where
  ordered := ordered_empty capacity
  coherent := QueryCache.coherent_empty capacity
  sameCapacity := rfl
  order := rfl
  evictions := rfl
  lookUps := rfl
  disabled _ := rfl

/-- Where no entry changed, no text is new. -/
theorem newTexts_of_same {before after : QueuedCache} (same : after.entries = before.entries) :
    newTexts before after = [] := by
  refine List.filter_eq_nil_iff.mpr fun text isKey => ?_
  have known : before.entries.contains text = true := by
    rw [same] at isKey
    exact Option.isSome_iff_exists.mpr (Table.mem_keys_iff.mp isKey)
  simp [known]

/-- Of a store that adds a text, this text alone is new: all that remains was there. -/
theorem Ordered.newTexts_store (ordered : cache.Ordered) (positive : cache.capacity ≠ 0)
    {text : String} (absent : text ∉ cache.order) (predicate : Predicate) :
    newTexts cache (cache.store text predicate) = [text] := by
  have isNew : cache.entries.contains text = false :=
    Bool.eq_false_iff.mpr fun present => absent (ordered.contains_iff.mp present)
  have keys := (ordered.store text predicate).keys
  rw [newTexts, keys, ordered.store_of_not_mem positive absent, List.filter_append,
    List.filter_eq_nil_iff.mpr, List.nil_append]
  · simp [isNew]
  · intro other remains
    have known := ordered.contains_iff.mpr (List.mem_of_mem_drop remains)
    simp [known]

/-- A look-up is counted and changes nothing else that a cache follows. -/
theorem Follows.lookup (follows : cache.Follows engine capacity inserted lookUps) (text : String) :
    (cache.lookup text).2.Follows engine capacity inserted (lookUps + 1) where
  ordered := follows.ordered.lookup text
  coherent := by
    have coherent := follows.coherent.lookup text
    rwa [lookup_fused] at coherent
  sameCapacity := (capacity_lookup cache text).trans follows.sameCapacity
  order := by rw [order_lookup, evictions_lookup, follows.order]
  evictions := by rw [evictions_lookup, entries_lookup, follows.evictions]
  lookUps := by rw [lookUps_lookup, follows.lookUps]
  disabled := follows.disabled

/-- What is stored under a new text is the next insertion. -/
theorem Follows.store (follows : cache.Follows engine capacity inserted lookUps) {text : String}
    {predicate : Predicate} (compiled : Query.compileSearch engine text = .ok (some predicate)) :
    (cache.store text predicate).Follows engine capacity
      (inserted ++ newTexts cache (cache.store text predicate)) lookUps := by
  have coherent := follows.coherent.store compiled
  rw [← follows.ordered.fused_store] at coherent
  have ordered := follows.ordered.store text predicate
  rcases follows.ordered.store_cases text predicate with same | ⟨positive, absent, added⟩
  · rw [same, newTexts_of_same rfl, List.append_nil]
    exact follows
  · have size := follows.ordered.size_entries
    have bounded := follows.ordered.bounded
    have total := follows.evictions
    rw [follows.ordered.newTexts_store positive absent]
    refine ⟨ordered, coherent, ?_, ?_, ?_, ?_, ?_⟩
    · rw [added]
      exact follows.sameCapacity
    · rw [added]
      dsimp only
      rw [follows.order, List.drop_drop, List.drop_append_of_le_length (by omega)]
    · rw [ordered.size_entries, added]
      simp only [List.length_append, List.length_drop, List.length_singleton]
      omega
    · rw [added]
      exact follows.lookUps
    · exact fun isZero => absurd (follows.sameCapacity.trans isZero) positive

/-- Every text in the queue compiles to a predicate. -/
theorem Follows.compileSearch_of_mem (follows : cache.Follows engine capacity inserted lookUps)
    {text : String} (present : text ∈ cache.order) :
    ∃ predicate, Query.compileSearch engine text = .ok (some predicate) := by
  obtain ⟨predicate, found⟩ := follows.ordered.mem_order_iff.mp present
  rw [← get?_fused] at found
  exact ⟨predicate, follows.coherent.compileSearch_of_get? found⟩

end QueuedCache

namespace Calls

variable {engine : PatternEngine} {calls : Calls QueuedCache} {capacity lookUps : Nat}
  {inserted : List String}

/-- A step keeps a cache in agreement with what was inserted and looked up. -/
theorem follows_step (follows : calls.cache.Follows engine capacity inserted lookUps)
    (compiled : calls.Compiled engine) (next : CallStep) :
    let after := (calls.step engine QueuedCache.shared next).cache
    after.Follows engine capacity (inserted ++ QueuedCache.newTexts calls.cache after)
      (lookUps + next.looksUp.toNat) := by
  have cases := calls.step_cases engine QueuedCache.shared next
  generalize (calls.step engine QueuedCache.shared next).cache = after at cases ⊢
  dsimp only
  obtain ⟨rfl, notCounted⟩ | ⟨text, _, rfl, counted⟩ | ⟨text, predicate, waits, rfl, notCounted⟩ :=
    cases
  · rw [notCounted, QueuedCache.newTexts_of_same rfl, List.append_nil]
    exact follows
  · have sameEntries : (QueuedCache.shared.lookup calls.cache text).2.entries =
        calls.cache.entries := calls.cache.entries_lookup text
    rw [counted, QueuedCache.newTexts_of_same sameEntries, List.append_nil]
    exact follows.lookup text
  · rw [notCounted]
    exact follows.store (compiled _ waits)

/-- Behind any steps a cache agrees with what they inserted and looked up. -/
theorem follows_foldl (follows : calls.cache.Follows engine capacity inserted lookUps)
    (compiled : calls.Compiled engine) (steps : List CallStep) :
    let after := steps.foldl (step engine QueuedCache.shared) calls
    after.Compiled engine ∧
      after.cache.Follows engine capacity (inserted ++ QueuedCache.insertedFrom engine calls steps)
        (lookUps + steps.countP CallStep.looksUp) := by
  induction steps generalizing calls inserted lookUps with
  | nil =>
    rw [QueuedCache.insertedFrom, List.append_nil]
    exact ⟨compiled, follows⟩
  | cons next rest inductionHypothesis =>
    have further := inductionHypothesis (follows_step follows compiled next) (compiled.step next)
    have counted : lookUps + next.looksUp.toNat + rest.countP CallStep.looksUp =
        lookUps + (next :: rest).countP CallStep.looksUp := by
      rw [List.countP_cons, Nat.add_assoc, Nat.add_comm next.looksUp.toNat]
      cases next.looksUp <;> rfl
    rw [counted, List.append_assoc] at further
    exact further

/-- Every run ends with compiled predicates and a cache that follows its insertions. -/
theorem follows_run (engine : PatternEngine) (capacity : Nat) (steps : List CallStep) :
    (run engine QueuedCache.shared capacity steps).Compiled engine ∧
      (run engine QueuedCache.shared capacity steps).cache.Follows engine capacity
        (QueuedCache.insertions engine capacity steps) (steps.countP CallStep.looksUp) := by
  have follows : (start QueuedCache.shared capacity).cache.Follows engine capacity [] 0 :=
    QueuedCache.follows_empty engine capacity
  have reached := follows_foldl follows (List.forall_mem_nil _) steps
  rwa [List.nil_append, Nat.zero_add] at reached

section Fused

variable {engine : PatternEngine} {calls : Calls QueuedCache}

/-- No step parts the map from the queue. -/
theorem ordered_step (ordered : calls.cache.Ordered) (next : CallStep) :
    (calls.step engine QueuedCache.shared next).cache.Ordered := by
  have cases := calls.step_cases engine QueuedCache.shared next
  generalize (calls.step engine QueuedCache.shared next).cache = after at cases ⊢
  obtain ⟨rfl, _⟩ | ⟨text, _, rfl, _⟩ | ⟨text, predicate, _, rfl, _⟩ := cases
  · exact ordered
  · exact ordered.lookup text
  · exact ordered.store text predicate

/-- On an ordered cache, a step does what it does on the list of entries. -/
theorem fused_step (ordered : calls.cache.Ordered) (next : CallStep) :
    (calls.step engine QueuedCache.shared next).fused =
      calls.fused.step engine QueryCache.shared next := by
  cases next with
  | lookUp text =>
    unfold step lookUp
    dsimp only [fused, QueuedCache.shared, QueryCache.shared]
    rw [QueuedCache.lookup_fused]
    rcases calls.cache.lookup text with ⟨_ | predicate, counted⟩
    · rcases Query.compileSearch engine text with error | _ | predicate <;> dsimp only <;>
        split <;> rfl
    · dsimp only
      split <;> rfl
  | keep place =>
    unfold step keep
    dsimp only [fused, QueuedCache.shared, QueryCache.shared]
    split
    · rw [ordered.fused_store]
    · rfl

/-- Behind the same steps, map and queue hold the same as the list of entries. -/
theorem fused_run (engine : PatternEngine) (capacity : Nat) (steps : List CallStep) :
    (run engine QueuedCache.shared capacity steps).fused =
      run engine QueryCache.shared capacity steps := by
  have fromCalls (calls : Calls QueuedCache) (ordered : calls.cache.Ordered) :
      (steps.foldl (step engine QueuedCache.shared) calls).fused =
        steps.foldl (step engine QueryCache.shared) calls.fused := by
    induction steps generalizing calls with
    | nil => rfl
    | cons next rest inductionHypothesis =>
      rw [List.foldl_cons, List.foldl_cons, ← fused_step ordered next,
        inductionHypothesis _ (ordered_step ordered next)]
  exact fromCalls (start QueuedCache.shared capacity) (QueuedCache.ordered_empty capacity)

end Fused

end Calls

namespace QueuedCache

/-- Only a store into a full cache evicts, and it evicts one entry. -/
theorem evictions_step {engine : PatternEngine} {calls : Calls QueuedCache}
    (ordered : calls.cache.Ordered) (next : CallStep) :
    let cache := calls.cache
    let after := (calls.step engine shared next).cache
    after.statistics.evictions = cache.statistics.evictions ∨
      cache.entries.size = cache.capacity ∧
        after.statistics.evictions = cache.statistics.evictions + 1 := by
  have cases := calls.step_cases engine shared next
  generalize (calls.step engine shared next).cache = after at cases ⊢
  dsimp only
  obtain ⟨rfl, _⟩ | ⟨text, _, rfl, _⟩ | ⟨text, predicate, _, rfl, _⟩ := cases
  · exact .inl rfl
  · exact .inl (evictions_lookup calls.cache text)
  · have bounded := ordered.bounded
    rcases ordered.store_cases text predicate with same | ⟨positive, _, added⟩
    · exact .inl (congrArg (·.statistics.evictions) same)
    · have counted := congrArg (·.statistics.evictions) added
      dsimp only at counted
      by_cases full : calls.cache.entries.size = calls.cache.capacity
      · refine .inr ⟨full, counted.trans ?_⟩
        omega
      · refine .inl (counted.trans ?_)
        omega

/-- For every capacity and every order in which the steps of any number of calls are taken:
the queue has no repetition and holds exactly the keys of the map, which are never more than
the capacity; evictions and entries make up all insertions, hits and misses all look-ups; the
keys are the last of the inserted texts, in their order, and neither a hit nor a repeated store
moves one, while a new text comes last and the oldest give way to it; only a full cache evicts; a
text that does not compile is never there; without capacity nothing is ever stored. The list of
entries behind the same steps holds the same. -/
theorem interleaved_calls_keep_order (engine : PatternEngine) (capacity : Nat)
    (steps : List CallStep) :
    let calls := Calls.run engine shared capacity steps
    let cache := calls.cache
    let inserted := insertions engine capacity steps
    cache.order.Nodup ∧
    (∀ text, text ∈ cache.order ↔ ∃ predicate, cache.entries.get? text = some predicate) ∧
    cache.entries.size = cache.order.length ∧
    cache.entries.size ≤ capacity ∧
    cache.statistics.evictions + cache.entries.size = inserted.length ∧
    cache.statistics.hits + cache.statistics.misses = steps.countP CallStep.looksUp ∧
    cache.order = inserted.drop cache.statistics.evictions ∧
    (∀ text, (calls.lookUp engine shared text).cache.entries = cache.entries ∧
      (calls.lookUp engine shared text).cache.order = cache.order) ∧
    (∀ place text predicate, calls.waiting[place]? = some (text, predicate) →
      text ∈ cache.order → (calls.keep shared place).cache = cache) ∧
    (∀ place text predicate, calls.waiting[place]? = some (text, predicate) →
      text ∉ cache.order → capacity ≠ 0 → (calls.keep shared place).cache.order =
        cache.order.drop (cache.entries.size + 1 - capacity) ++ [text]) ∧
    (∀ next, let after := (calls.step engine shared next).cache
      after.statistics.evictions = cache.statistics.evictions ∨
        cache.entries.size = capacity ∧
          after.statistics.evictions = cache.statistics.evictions + 1) ∧
    (∀ text error, Query.compileSearch engine text = .error error → text ∉ cache.order) ∧
    (capacity = 0 → cache.order = [] ∧ cache.statistics.evictions = 0 ∧ inserted = []) ∧
    Calls.run engine QueryCache.shared capacity steps = ⟨cache.fused, calls.waiting⟩ := by
  intro calls cache inserted
  obtain ⟨_, follows⟩ : calls.Compiled engine ∧ cache.Follows engine capacity inserted _ :=
    Calls.follows_run engine capacity steps
  have ordered := follows.ordered
  refine ⟨ordered.distinct, fun _ => ordered.mem_order_iff, ordered.size_entries,
    follows.sameCapacity ▸ ordered.bounded, follows.evictions, follows.lookUps, follows.order,
    ?lookUp, ?keepOld, ?keepNew, ?eviction, ?failing, ?noCapacity,
    (Calls.fused_run engine capacity steps).symm⟩
  case lookUp =>
    intro text
    by_cases blank : Text.isBlankText text = true
    · rw [Calls.lookUp, if_pos blank]
      exact ⟨rfl, rfl⟩
    · rw [Calls.cache_lookUp blank]
      exact ⟨entries_lookup cache text, order_lookup cache text⟩
  case keepOld =>
    intro place text predicate waits present
    rw [Calls.keep, waits]
    exact ordered.store_of_mem present
  case keepNew =>
    intro place text predicate waits absent positive
    rw [← follows.sameCapacity] at positive ⊢
    rw [Calls.keep, waits]
    exact congrArg QueuedCache.order (ordered.store_of_not_mem positive absent)
  case eviction =>
    intro next
    rw [← follows.sameCapacity]
    exact evictions_step ordered next
  case failing =>
    intro text error failed present
    obtain ⟨predicate, compiled⟩ := follows.compileSearch_of_mem present
    rw [failed] at compiled
    cases compiled
  case noCapacity =>
    intro isZero
    have total := follows.evictions
    rw [follows.disabled isZero, List.length_nil, ordered.size_entries] at total
    exact ⟨List.length_eq_zero_iff.mp (by omega), by omega, follows.disabled isZero⟩

/-- Three calls on a cache of one entry: the second misses the text of the first, and keeps it
when the third has already evicted it. -/
def restoringSteps : List CallStep :=
  [.lookUp "a:x", .lookUp "a:x", .keep 0, .lookUp "b:y", .keep 1, .keep 0]

/-- A text that was stored and evicted while a call compiled it is stored once more. -/
theorem restoring_steps_keep_order :
    insertions .standard 1 restoringSteps = ["a:x", "b:y", "a:x"] ∧
      let cache := (Calls.run .standard shared 1 restoringSteps).cache
      cache.order = ["a:x"] ∧ cache.entries.size = 1 ∧ cache.statistics.evictions = 2 ∧
      cache.statistics.hits + cache.statistics.misses = 3 := by
  have inserted : insertions .standard 1 restoringSteps = ["a:x", "b:y", "a:x"] := by decide +kernel
  have one : (Calls.run .standard shared 1 restoringSteps).cache.entries.size = 1 := by
    decide +kernel
  obtain ⟨_, _, _, _, total, lookUps, order, _⟩ :=
    interleaved_calls_keep_order .standard 1 restoringSteps
  rw [inserted, one] at total
  have two : (Calls.run .standard shared 1 restoringSteps).cache.statistics.evictions = 2 :=
    Nat.succ.inj total
  rw [inserted, two] at order
  exact ⟨inserted, order, one, two, lookUps⟩

end QueuedCache

end Dashboard
