import Dashboard.Proofs.Query.Acceptance
import Dashboard.Query.Cache

/-!
# The cache decides nothing

An entry of the cache is the predicate of its own text. Calls keep it so, whatever they
look up, keep or drop: what enters is freshly compiled, and nothing is changed after that.
A call then answers what the text compiles to.
-/

namespace Dashboard

namespace Query

/-- A blank text asks for no filter. -/
theorem compileSearch_of_isBlankText {engine : PatternEngine} {text : String}
    (blank : Text.isBlankText text = true) :
    compileSearch engine text = .ok none := by
  rw [compileSearch, parse_eq_none_iff.mpr blank]

/-- Only a blank text asks for no filter. -/
theorem compileSearch_eq_none_iff {engine : PatternEngine} {text : String} :
    compileSearch engine text = .ok none ↔ Text.isBlankText text = true := by
  refine ⟨fun unfiltered => ?_, compileSearch_of_isBlankText⟩
  unfold compileSearch at unfiltered
  split at unfiltered
  · cases unfiltered
  · rename_i parsed
    exact parse_eq_none_iff.mp parsed
  · split at unfiltered <;> cases unfiltered

end Query

namespace QueryCache

/-- Every entry is the predicate that its text compiles to. -/
def Coherent (engine : PatternEngine) (cache : QueryCache) : Prop :=
  ∀ entry ∈ cache.entries, Query.compileSearch engine entry.1 = .ok (some entry.2)

variable {engine : PatternEngine} {cache : QueryCache} {text : String} {predicate : Predicate}

theorem coherent_empty (capacity : Nat) : (empty capacity).Coherent engine :=
  List.forall_mem_nil _

/-- What a coherent cache finds is what the text compiles to. -/
theorem Coherent.compileSearch_of_get? (coherent : cache.Coherent engine)
    (found : cache.get? text = some predicate) :
    Query.compileSearch engine text = .ok (some predicate) := by
  obtain ⟨entry, isFound, rfl⟩ := Option.map_eq_some_iff.mp found
  have sameText := List.find?_some isFound
  obtain rfl := beq_iff_eq.mp sameText
  exact coherent entry (List.mem_of_find?_eq_some isFound)

/-- A look-up changes the counts only. -/
theorem entries_lookup (cache : QueryCache) (text : String) :
    (cache.lookup text).2.entries = cache.entries := by
  unfold lookup
  split <;> rfl

/-- A look-up answers what the cache holds. -/
theorem lookup_fst (cache : QueryCache) (text : String) :
    (cache.lookup text).1 = cache.get? text := by
  unfold lookup
  split <;> simp_all

/-- A look-up keeps a cache coherent. -/
theorem Coherent.lookup (coherent : cache.Coherent engine) (text : String) :
    (cache.lookup text).2.Coherent engine := by
  rw [Coherent, entries_lookup]
  exact coherent

/-- What is kept is compiled from its text, and what is dropped does no harm. -/
theorem Coherent.store (coherent : cache.Coherent engine)
    (compiled : Query.compileSearch engine text = .ok (some predicate)) :
    (cache.store text predicate).Coherent engine := by
  unfold QueryCache.store
  split
  · exact coherent
  · intro entry isEntry
    rcases List.mem_append.mp isEntry with kept | added
    · exact coherent entry (List.mem_of_mem_drop kept)
    · obtain rfl := List.mem_singleton.mp added
      exact compiled

/-- A call on a coherent cache answers what its text compiles to. -/
theorem Coherent.getOrCompile_fst (coherent : cache.Coherent engine) (text : String) :
    (cache.getOrCompile engine text).1 = Query.compileSearch engine text := by
  unfold getOrCompile
  split
  · rename_i blank
    exact (Query.compileSearch_of_isBlankText blank).symm
  · have looked := lookup_fst cache text
    split
    · rename_i predicate counted hit
      rw [hit] at looked
      exact (coherent.compileSearch_of_get? looked.symm).symm
    · split <;> simp_all

/-- A call leaves a coherent cache coherent. -/
theorem Coherent.getOrCompile (coherent : cache.Coherent engine) (text : String) :
    (cache.getOrCompile engine text).2.Coherent engine := by
  have counted := coherent.lookup text
  unfold QueryCache.getOrCompile
  split
  · exact coherent
  · split
    · rename_i hit
      rwa [hit] at counted
    · rename_i miss
      rw [miss] at counted
      split
      · rename_i compiled
        exact counted.store compiled
      · exact counted

/-- A call that fails keeps nothing and drops nothing. -/
theorem entries_getOrCompile_of_error {cause : Query.SearchError}
    (failed : (cache.getOrCompile engine text).1 = .error cause) :
    (cache.getOrCompile engine text).2.entries = cache.entries := by
  have counted := entries_lookup cache text
  unfold getOrCompile at failed ⊢
  generalize cache.lookup text = looked at failed counted ⊢
  split
  case isTrue => rfl
  case isFalse notBlank =>
    rw [if_neg notBlank] at failed
    obtain ⟨_ | predicate, looked⟩ := looked
    · dsimp only at failed ⊢
      -- What is stored is a term that compiles, and such a call does not fail.
      split
      case h_1 compiled =>
        rw [compiled] at failed
        cases failed
      case h_2 => exact counted
    · exact counted

/-- The cache of a capacity after calls with some texts, one after the other. -/
def afterCalls (engine : PatternEngine) (capacity : Nat) (texts : List String) : QueryCache :=
  texts.foldl (fun cache text => (cache.getOrCompile engine text).2) (empty capacity)

/-- Whatever calls were made, the cache behind them is coherent. -/
theorem coherent_afterCalls (engine : PatternEngine) (capacity : Nat) (texts : List String) :
    (afterCalls engine capacity texts).Coherent engine :=
  List.foldlRecOn texts _ (coherent_empty capacity)
    fun _ coherent text _ => coherent.getOrCompile text

end QueryCache

end Dashboard
