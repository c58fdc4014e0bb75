import Dashboard.Command.Diagnosis
import Dashboard.Pattern.Compiled
import Dashboard.Proofs.Listing.Page

/-!
# The entry points of a search

A search text is decided in three places: where it is compiled, at the cache in front of a
listing, and at the command that shows a query. All of them accept the same texts and refuse
the others with the same error.
-/

namespace Dashboard

open Command

/-- The command shows a text that compiles. -/
theorem Command.describeQuery_of_ok {engine : PatternEngine} {text : String}
    {answer : Option Predicate} (compiled : Query.compileSearch engine text = .ok answer) :
    ∃ data, describeQuery engine text = .ok data := by
  unfold Query.compileSearch at compiled
  split at compiled
  · cases compiled
  · rename_i parsed
    exact ⟨queryData .null [], by rw [describeQuery, parsed]⟩
  · rename_i query parsed
    split at compiled
    · rename_i predicate isPredicate
      exact ⟨queryData query.toJson query.fields,
        by simp only [describeQuery, parsed, isPredicate]⟩
    · cases compiled

/-- The command refuses a text with the error that compiling it has. -/
theorem Command.describeQuery_of_error {engine : PatternEngine} {text : String}
    {cause : Query.SearchError} (failed : Query.compileSearch engine text = .error cause) :
    describeQuery engine text = .error (.input (.query cause)) := by
  unfold Query.compileSearch at failed
  split at failed
  · rename_i error unreadable
    cases failed
    rw [describeQuery, unreadable]
  · cases failed
  · rename_i query parsed
    split at failed
    · cases failed
    · rename_i error refused
      cases failed
      simp only [describeQuery, parsed, refused]

/-- The command accepts the texts that compile. -/
theorem Command.describeQuery_eq_ok_iff {engine : PatternEngine} {text : String} :
    (∃ data, describeQuery engine text = .ok data) ↔
      ∃ answer, Query.compileSearch engine text = .ok answer := by
  refine ⟨?_, fun ⟨_, compiled⟩ => describeQuery_of_ok compiled⟩
  rintro ⟨data, shown⟩
  cases compiled : Query.compileSearch engine text with
  | ok answer => exact ⟨answer, rfl⟩
  | error cause => simp [describeQuery_of_error compiled] at shown

/-- The command refuses a text with the error that compiling it has, and with no other. -/
theorem Command.describeQuery_eq_error_iff {engine : PatternEngine} {text : String}
    {error : CommandError} :
    describeQuery engine text = .error error ↔
      ∃ cause, Query.compileSearch engine text = .error cause ∧ error = .input (.query cause) := by
  constructor
  · intro refused
    cases compiled : Query.compileSearch engine text with
    | ok answer =>
      obtain ⟨data, shown⟩ := describeQuery_of_ok compiled
      simp [shown] at refused
    | error cause =>
      rw [describeQuery_of_error compiled] at refused
      exact ⟨cause, rfl, (Except.error.inj refused).symm⟩
  · rintro ⟨cause, failed, rfl⟩
    exact describeQuery_of_error failed

/-- A call on the cache answers what its text compiles to, whatever the capacity and the calls
before; so a listing of any source is answered alike behind all caches. And the command that
shows a query accepts the texts that compile, and tells the error of the others. -/
theorem Query.compileSearch_decides_every_entry_point (engine : PatternEngine) :
    (∀ capacity texts text,
      ((QueryCache.afterCalls engine capacity texts).getOrCompile engine text).1 =
        compileSearch engine text) ∧
    (∀ (m : Type → Type) [Monad m] [LawfulMonad m] (source : Listing.RecordSource m)
        (collection : String) (request : Listing.ListRequest)
        (capacity otherCapacity : Nat) (texts otherTexts : List String),
      Prod.fst <$> Listing.runRequest engine source (.afterCalls engine capacity texts)
          collection request =
        Prod.fst <$> Listing.runRequest engine source (.afterCalls engine otherCapacity otherTexts)
          collection request) ∧
    (∀ text, (∃ data, describeQuery engine text = .ok data) ↔
      ∃ answer, compileSearch engine text = .ok answer) ∧
    (∀ text error, describeQuery engine text = .error error →
      ∃ cause, compileSearch engine text = .error cause ∧ error.message = cause.message) := by
  refine ⟨?_, ?_, fun text => describeQuery_eq_ok_iff, ?_⟩
  · intro capacity texts text
    exact (QueryCache.coherent_afterCalls engine capacity texts).getOrCompile_fst text
  · intro m _ _ source collection request capacity otherCapacity texts otherTexts
    rw [Listing.fst_runRequest (QueryCache.coherent_afterCalls engine capacity texts),
      Listing.fst_runRequest (QueryCache.coherent_afterCalls engine otherCapacity otherTexts)]
  · intro text error refused
    obtain ⟨cause, failed, rfl⟩ := describeQuery_eq_error_iff.mp refused
    exact ⟨cause, failed, rfl⟩

/-- Behind the cache of one entry a text that was dropped is compiled again, and a listing is
answered as behind no cache; a parenthesis that stays open is refused in the same words. -/
theorem Query.compileSearch_decides_behind_evictions :
    ((QueryCache.afterCalls .standard 1 ["a:x", "b:y", "a:("]).getOrCompile .standard "a:x").1 =
        compileSearch .standard "a:x" ∧
      (Listing.RecordStore.empty.list .standard (.afterCalls .standard 1 ["a:x", "b:y", "a:("])
          "tasks" (.first 5)).1 =
        (Listing.RecordStore.empty.list .standard (.afterCalls .standard 0 []) "tasks"
          (.first 5)).1 ∧
      describeQuery .standard "a:(" = .error (.input (.query (.malformed ⟨.unexpectedEnd, 3⟩))) ∧
      ∃ cause, compileSearch .standard "a:(" = .error cause ∧
        "Invalid search syntax: unexpected end of query at offset 3" = cause.message := by
  obtain ⟨cached, listed, _, refused⟩ := compileSearch_decides_every_entry_point .standard
  have sameAnswer := listed Id Listing.RecordStore.empty.source "tasks" (.first 5) 1 0
    ["a:x", "b:y", "a:("] []
  exact ⟨cached 1 ["a:x", "b:y", "a:("] "a:x", sameAnswer, rfl, refused "a:(" _ rfl⟩

end Dashboard
