import Dashboard.Pattern.Compiled
import Dashboard.Proofs.Query.Meaning
import Mathlib.Data.List.Basic

/-!
# The fields that a query reads

The fields of a query are the names that a reader of its tree meets, each listed once and in the
order of the first visits. The predicate of the query looks into no other field of a record, so
records that agree on the fields of a query are matched alike.
-/

namespace Dashboard

namespace Predicate

/-- Some part of a predicate searches the text of a field. -/
inductive Reads (field : String) : Predicate → Prop where
  | contains {pattern} : Reads field (.contains field pattern)
  | all {children child} (member : child ∈ children) (inside : Reads field child) :
      Reads field (.all children)
  | any {children child} (member : child ∈ children) (inside : Reads field child) :
      Reads field (.any children)

/-- A statement holds of every predicate when it holds of each as soon as it holds of its parts. -/
@[elab_as_elim]
theorem induction {motive : Predicate → Prop}
    (contains : ∀ field pattern, motive (.contains field pattern))
    (all : ∀ children, (∀ child ∈ children, motive child) → motive (.all children))
    (any : ∀ children, (∀ child ∈ children, motive child) → motive (.any children))
    (predicate : Predicate) : motive predicate :=
  Predicate.rec (motive_2 := fun children => ∀ child ∈ children, motive child)
    contains all any (by simp)
    (fun _ _ first others => List.forall_mem_cons.mpr ⟨first, others⟩) predicate

section Agreement

variable {first second : Json}

/-- Records on which all predicates agree are told alike by their conjunction. -/
theorem allHold_congr {children : List Predicate}
    (each : ∀ child ∈ children, child.holds first = child.holds second) :
    allHold first children = allHold second children := by
  induction children with
  | nil => rfl
  | cons child rest inductionHypothesis =>
    obtain ⟨same, others⟩ := List.forall_mem_cons.mp each
    rw [allHold, allHold, same, inductionHypothesis others]

theorem someHolds_congr {children : List Predicate}
    (each : ∀ child ∈ children, child.holds first = child.holds second) :
    someHolds first children = someHolds second children := by
  induction children with
  | nil => rfl
  | cons child rest inductionHypothesis =>
    obtain ⟨same, others⟩ := List.forall_mem_cons.mp each
    rw [someHolds, someHolds, same, inductionHypothesis others]

/-- Two records are matched alike when they agree on the fields that are read. -/
theorem holds_of_agree {predicate : Predicate}
    (agree : ∀ field, predicate.Reads field → first.get? field = second.get? field) :
    predicate.holds first = predicate.holds second := by
  induction predicate using Predicate.induction with
  | contains field pattern => simp only [holds, fieldText?, agree field .contains]
  | all children inductionHypothesis =>
    exact allHold_congr fun child member =>
      inductionHypothesis child member fun field inside => agree field (.all member inside)
  | any children inductionHypothesis =>
    exact someHolds_congr fun child member =>
      inductionHypothesis child member fun field inside => agree field (.any member inside)

end Agreement

end Predicate

namespace Query

mutual

/-- The names of fields that a reader of a query meets, from the outside in and from left to
right, with repetitions. -/
def visits : Query → List String
  | .term _ => []
  | .field name body => name :: visits body
  | .group body => visits body
  | .all children | .any children => visitsOfAll children

/-- The same over some queries, one query after the other. -/
def visitsOfAll : List Query → List String
  | [] => []
  | child :: rest => visits child ++ visitsOfAll rest

end

/-- Some names are listed once each, in the order of their first places in other names. -/
structure ListsFirst (names visited : List String) : Prop where
  mem_iff : ∀ name, name ∈ names ↔ name ∈ visited
  ordered : names.Pairwise fun earlier later => visited.idxOf earlier < visited.idxOf later

section Visits

variable {names visited : List String} {name : String} {children : List Query}

theorem visitsOfAll_eq_flatMap (children : List Query) :
    visitsOfAll children = children.flatMap visits := by
  induction children with
  | nil => rfl
  | cons child rest inductionHypothesis => simp [visitsOfAll, inductionHypothesis]

/-- No name is listed twice. -/
theorem ListsFirst.nodup (listed : ListsFirst names visited) : names.Nodup := by
  refine listed.ordered.imp ?_
  rintro earlier _ before rfl
  exact Nat.lt_irrefl _ before

/-- One more visit lists its name at the end, unless it is listed already. -/
theorem ListsFirst.addName (listed : ListsFirst names visited) (name : String) :
    ListsFirst (addName names name) (visited ++ [name]) := by
  have earlierPlaces : names.Pairwise fun earlier later =>
      (visited ++ [name]).idxOf earlier < (visited ++ [name]).idxOf later := by
    refine listed.ordered.imp_of_mem fun {earlier later} isEarlier isLater before => ?_
    rwa [List.idxOf_append_of_mem ((listed.mem_iff earlier).mp isEarlier),
      List.idxOf_append_of_mem ((listed.mem_iff later).mp isLater)]
  unfold Query.addName
  split
  · rename_i known
    have isVisited := (listed.mem_iff name).mp (by simpa using known)
    refine ⟨fun other => ?_, earlierPlaces⟩
    simp only [listed.mem_iff, List.mem_append, List.mem_singleton]
    constructor
    · exact .inl
    · rintro (isBefore | rfl)
      · exact isBefore
      · exact isVisited
  · rename_i unknown
    have notVisited : name ∉ visited := fun isVisited =>
      unknown (by simpa using (listed.mem_iff name).mpr isVisited)
    refine ⟨fun other => by simp [listed.mem_iff], ?_⟩
    refine List.pairwise_append.mpr ⟨earlierPlaces, List.pairwise_singleton _ _, ?_⟩
    intro earlier isEarlier last isLast
    cases List.mem_singleton.mp isLast
    have isBefore := (listed.mem_iff earlier).mp isEarlier
    rw [List.idxOf_append_of_mem isBefore, List.idxOf_append_of_notMem notVisited]
    have place := List.idxOf_lt_length_of_mem isBefore
    omega

/-- Names that are added one after the other are listed by their first places. -/
theorem ListsFirst.foldl_addName (listed : ListsFirst names visited) (further : List String) :
    ListsFirst (further.foldl Query.addName names) (visited ++ further) := by
  induction further generalizing names visited with
  | nil => simpa using listed
  | cons name rest inductionHypothesis =>
    have behind := inductionHypothesis (listed.addName name)
    rwa [List.append_assoc] at behind

/-- Collecting from several queries adds the names that they visit. -/
theorem collectFieldsAll_eq_foldl
    (each : ∀ child ∈ children, ∀ names,
      collectFields names child = child.visits.foldl addName names) (names : List String) :
    collectFieldsAll names children = (visitsOfAll children).foldl addName names := by
  induction children generalizing names with
  | nil => rfl
  | cons child rest inductionHypothesis =>
    obtain ⟨first, others⟩ := List.forall_mem_cons.mp each
    rw [collectFieldsAll, visitsOfAll, List.foldl_append, first, inductionHypothesis others]

/-- Collecting the fields of a query adds the visited names one by one. -/
theorem collectFields_eq_foldl (query : Query) (names : List String) :
    collectFields names query = query.visits.foldl addName names := by
  induction query using Query.induction generalizing names with
  | term value => rfl
  | field name body inductionHypothesis => exact inductionHypothesis (addName names name)
  | group body inductionHypothesis => exact inductionHypothesis names
  | all children inductionHypothesis | any children inductionHypothesis =>
    exact collectFieldsAll_eq_foldl inductionHypothesis names

/-- The fields of a query are its visited names in the order of the first visits. -/
theorem listsFirst_fields (query : Query) : ListsFirst query.fields query.visits := by
  have begun : ListsFirst [] [] := ⟨fun _ => Iff.rfl, .nil⟩
  rw [fields, collectFields_eq_foldl]
  exact begun.foldl_addName query.visits

end Visits

section Reads

variable {engine : PatternEngine} {scope : Option String} {query : Query} {children : List Query}
  {predicate : Predicate} {predicates : List Predicate} {field : String}

/-- Every predicate is that of one of the queries. -/
theorem exists_compileIn_of_mem (compiled : compileAllIn engine scope children = .ok predicates)
    (member : predicate ∈ predicates) :
    ∃ child ∈ children, compileIn engine scope child = .ok predicate := by
  induction children generalizing predicates with
  | nil =>
    cases compiled
    cases member
  | cons child rest inductionHypothesis =>
    obtain ⟨first, others, isFirst, areOthers, rfl⟩ := compileAllIn_cons_eq_ok_iff.mp compiled
    rcases List.mem_cons.mp member with rfl | isOther
    · exact ⟨child, .head _, isFirst⟩
    · obtain ⟨other, isChild, isPredicate⟩ := inductionHypothesis areOthers isOther
      exact ⟨other, .tail _ isChild, isPredicate⟩

/-- Where the predicate of a query reads a field, the field is in scope around the query or the
query shows it. -/
abbrev ShowsRead (engine : PatternEngine) (scope : Option String) (field : String)
    (query : Query) : Prop :=
  ∀ predicate, compileIn engine scope query = .ok predicate → predicate.Reads field →
    scope = some field ∨ field ∈ query.visits

/-- What one of the predicates reads is the field of the scope or was visited. -/
theorem scope_or_visited_of_children (each : ∀ child ∈ children, ShowsRead engine scope field child)
    (compiled : compileAllIn engine scope children = .ok predicates)
    (member : predicate ∈ predicates) (inside : predicate.Reads field) :
    scope = some field ∨ field ∈ visitsOfAll children := by
  obtain ⟨child, isChild, isCompiled⟩ := exists_compileIn_of_mem compiled member
  refine (each child isChild predicate isCompiled inside).imp_right fun isVisited => ?_
  rw [visitsOfAll_eq_flatMap]
  exact List.mem_flatMap_of_mem isChild isVisited

/-- Only the innermost field around a term is read, and each is shown on the way to the term. -/
theorem showsRead (engine : PatternEngine) (scope : Option String) (field : String)
    (query : Query) :
    ShowsRead engine scope field query := by
  induction query using Query.induction generalizing scope with
  | term value =>
    intro predicate compiled reads
    obtain ⟨name, pattern, rfl, -, rfl⟩ := compileTerm_eq_ok_iff.mp compiled
    cases reads
    exact .inl rfl
  | field name body inductionHypothesis =>
    intro predicate compiled reads
    rcases inductionHypothesis (some name) predicate compiled reads with isName | isVisited
    · cases isName
      exact .inr (.head _)
    · exact .inr (.tail _ isVisited)
  | group body inductionHypothesis => exact inductionHypothesis scope
  | all children inductionHypothesis | any children inductionHypothesis =>
    intro predicate compiled reads
    have each : ∀ child ∈ children, ShowsRead engine scope field child := fun child isChild =>
      inductionHypothesis child isChild scope
    unfold compileIn at compiled
    split at compiled
    · rename_i predicates areCompiled
      cases compiled
      cases reads
      rename_i inside member
      exact scope_or_visited_of_children each areCompiled member inside
    · cases compiled

/-- The predicate of a query reads only the fields of the query. -/
theorem mem_fields_of_reads (compiled : query.compile engine = .ok predicate)
    (reads : predicate.Reads field) : field ∈ query.fields := by
  rcases showsRead engine none field query predicate compiled reads with noScope | isVisited
  · cases noScope
  · exact ((listsFirst_fields query).mem_iff field).mpr isVisited

end Reads

/-- The fields of a query that becomes a predicate are listed without repetition, in the order in
which their names are first visited, and the predicate reads no other field. So it matches both or
neither of two records that agree on each of them, by lacking it or by equal values. -/
theorem query_reads_only_its_fields {engine : PatternEngine} {query : Query} {predicate : Predicate}
    (compiled : query.compile engine = .ok predicate) :
    query.fields.Nodup ∧
    (∀ name, name ∈ query.fields ↔ name ∈ query.visits) ∧
    (query.fields.Pairwise fun earlier later =>
      query.visits.idxOf earlier < query.visits.idxOf later) ∧
    (∀ field, predicate.Reads field → field ∈ query.fields) ∧
    ∀ first second : Json, (∀ name ∈ query.fields, first.get? name = second.get? name) →
      predicate.holds first = predicate.holds second := by
  have listed := listsFirst_fields query
  have reads {field : String} : predicate.Reads field → field ∈ query.fields :=
    mem_fields_of_reads compiled
  exact ⟨listed.nodup, listed.mem_iff, listed.ordered, fun _ => reads,
    fun _ _ agree => Predicate.holds_of_agree fun field isRead => agree field (reads isRead)⟩

/-- A field that only stands around others is listed like those that are searched, and a field
visited again is listed once. Two records that differ in another field are both matched. -/
theorem query_reads_only_three_fields :
    let query : Query := .field "stage" (.group (.all [.field "image" (.term "^web"),
      .any [.field "ready" (.term "tr"), .field "image" (.term "api")]]))
    let members : List (String × Json) := [("image", .string "web:rc-12"), ("ready", .bool true)]
    let first : Json := .object members
    let second : Json := .object (("extra", .null) :: members)
    query.fields = ["stage", "image", "ready"] ∧
    (∀ name ∈ query.fields, first.get? name = second.get? name) ∧
    ∃ predicate, query.compile .standard = .ok predicate ∧
      (∀ field, predicate.Reads field → field ∈ query.fields) ∧
      predicate.holds first = true ∧ predicate.holds second = true := by
  intro query members first second
  have agree : ∀ name ∈ query.fields, first.get? name = second.get? name := by decide
  have found : (query.compile .standard).toOption.map (Predicate.holds first) = some true := by
    decide +kernel
  obtain ⟨predicate, compiled⟩ : ∃ predicate, query.compile .standard = .ok predicate := ⟨_, rfl⟩
  have matched : predicate.holds first = true := by
    rw [compiled] at found
    exact Option.some.inj found
  obtain ⟨-, -, -, reads, alike⟩ := query_reads_only_its_fields compiled
  exact ⟨by decide, agree, predicate, compiled, reads, matched,
    (alike first second agree).symm.trans matched⟩

end Query

end Dashboard
