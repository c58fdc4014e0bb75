import Dashboard.Deployment.Overview
import Mathlib.Data.List.Induction
import Mathlib.Data.List.Pairwise

/-!
# The first of the latest tasks

Looking for the latest of some tasks, one after the other, ends at the first of those whose
time is greatest, whatever stands between them and does not count. Where times are distinct
that task does not depend on the order of the tasks.
-/

namespace Dashboard.Deployment

/-- The time of a task on the scale on which times compare; a task without one has the least. -/
def deployTime (task : Json) : Int := (taskTime task).units

/-- A task is the first of the latest among the tasks that count, by some time of theirs. -/
structure IsFirstLatest (time : Json → Int) (counts : Json → Prop) (tasks : List Json)
    (task : Json) : Prop where
  isCounted : counts task
  standsFirst : ∃ before after, tasks = before ++ task :: after ∧
    (∀ other ∈ before, counts other → time other < time task) ∧
    ∀ other ∈ after, counts other → time other ≤ time task

section FirstLatest

variable {time : Json → Int} {counts : Json → Prop} {tasks : List Json} {task other : Json}

theorem IsFirstLatest.mem (latest : IsFirstLatest time counts tasks task) : task ∈ tasks := by
  obtain ⟨before, after, rfl, -, -⟩ := latest.standsFirst
  simp

/-- No task that counts is later than the first of the latest ones. -/
theorem IsFirstLatest.time_le (latest : IsFirstLatest time counts tasks task)
    (isOther : other ∈ tasks) (otherCounts : counts other) :
    time other ≤ time task := by
  obtain ⟨before, after, rfl, earlier, later⟩ := latest.standsFirst
  rcases List.mem_append.mp isOther with isBefore | isBehind
  · exact Int.le_of_lt (earlier other isBefore otherCounts)
  · rcases List.mem_cons.mp isBehind with rfl | isAfter
    · exact Int.le_refl _
    · exact later other isAfter otherCounts

/-- Tasks before a place are earlier than the first of the latest when that stands there or
behind it. -/
theorem IsFirstLatest.time_lt_of_mem_before {before after : List Json} {middle : Json}
    (latest : IsFirstLatest time counts (before ++ middle :: after) task)
    (notBefore : task ∉ before) (isBefore : other ∈ before) (otherCounts : counts other) :
    time other < time task := by
  obtain ⟨taskBefore, taskAfter, isSplit, earlier, -⟩ := latest.standsFirst
  refine earlier other ?_ otherCounts
  rcases List.append_eq_append_iff.mp isSplit with
    ⟨between, rfl, -⟩ | ⟨_ | ⟨first, between⟩, rfl, isRest⟩
  · exact List.mem_append_left _ isBefore
  · simpa using isBefore
  · exact absurd (by simp [(List.cons.inj isRest).1]) notBefore

/-- A task behind all others that does not count changes nothing. -/
theorem IsFirstLatest.append_of_not (latest : IsFirstLatest time counts tasks task)
    (notCounts : ¬ counts other) : IsFirstLatest time counts (tasks ++ [other]) task := by
  obtain ⟨before, after, rfl, earlier, later⟩ := latest.standsFirst
  refine ⟨latest.isCounted, before, after ++ [other], by simp, earlier, fun behind isBehind => ?_⟩
  rcases List.mem_append.mp isBehind with isAfter | isLast
  · exact later behind isAfter
  · rw [List.mem_singleton.mp isLast]
    exact fun otherCounts => absurd otherCounts notCounts

/-- A task behind all others that is not later changes nothing. -/
theorem IsFirstLatest.append_of_le (latest : IsFirstLatest time counts tasks task)
    (notLater : time other ≤ time task) :
    IsFirstLatest time counts (tasks ++ [other]) task := by
  obtain ⟨before, after, rfl, earlier, later⟩ := latest.standsFirst
  refine ⟨latest.isCounted, before, after ++ [other], by simp, earlier, fun behind isBehind => ?_⟩
  rcases List.mem_append.mp isBehind with isAfter | isLast
  · exact later behind isAfter
  · rw [List.mem_singleton.mp isLast]
    exact fun _ => notLater

/-- A later task behind all others is the latest. -/
theorem IsFirstLatest.append_of_lt (latest : IsFirstLatest time counts tasks task)
    (isLater : time task < time other) (otherCounts : counts other) :
    IsFirstLatest time counts (tasks ++ [other]) other := by
  refine ⟨otherCounts, tasks, [], rfl, fun earlier isEarlier earlierCounts => ?_, by simp⟩
  exact Int.lt_of_le_of_lt (latest.time_le isEarlier earlierCounts) isLater

/-- Behind tasks that do not count, the next one that does is the first of the latest. -/
theorem isFirstLatest_append_of_none (none : ∀ earlier ∈ tasks, ¬ counts earlier)
    (otherCounts : counts other) : IsFirstLatest time counts (tasks ++ [other]) other :=
  ⟨otherCounts, tasks, [], rfl, fun earlier isEarlier earlierCounts =>
    absurd earlierCounts (none earlier isEarlier), by simp⟩

/-- Tasks have one first of their latest ones at most. -/
theorem IsFirstLatest.unique (latest : IsFirstLatest time counts tasks task)
    (otherLatest : IsFirstLatest time counts tasks other) : task = other := by
  have notLater := latest.time_le otherLatest.mem otherLatest.isCounted
  have notEarlier := otherLatest.time_le latest.mem latest.isCounted
  obtain ⟨before, after, isSplit, earlier, -⟩ := latest.standsFirst
  obtain ⟨otherBefore, otherAfter, isOtherSplit, otherEarlier, -⟩ := otherLatest.standsFirst
  -- Were they two, the one that stands first would be earlier than the other.
  rcases List.append_eq_append_iff.mp (isSplit.symm.trans isOtherSplit) with
    ⟨_ | ⟨first, between⟩, isBefore, isRest⟩ | ⟨_ | ⟨first, between⟩, isBefore, isRest⟩
  · exact (List.cons.inj isRest).1
  · have isFirst := (List.cons.inj isRest).1
    have isLess := otherEarlier task (by simp [isBefore, isFirst]) latest.isCounted
    omega
  · exact (List.cons.inj isRest).1.symm
  · have isFirst := (List.cons.inj isRest).1
    have isLess := earlier other (by simp [isBefore, isFirst]) otherLatest.isCounted
    omega

/-- The first of the latest is the same in every order in which no two times are the same. -/
theorem IsFirstLatest.eq_of_perm {others : List Json}
    (latest : IsFirstLatest time counts tasks task)
    (otherLatest : IsFirstLatest time counts others other) (same : others.Perm tasks)
    (distinct : tasks.Pairwise fun first second =>
      counts first → counts second → time first ≠ time second) : task = other := by
  have isTask : other ∈ tasks := same.mem_iff.mp otherLatest.mem
  have isOther : task ∈ others := same.mem_iff.mpr latest.mem
  have sameTime : time task = time other :=
    Int.le_antisymm (otherLatest.time_le isOther latest.isCounted)
      (latest.time_le isTask otherLatest.isCounted)
  by_contra differ
  have symmetric : Std.Symm fun first second : Json =>
      counts first → counts second → time first ≠ time second :=
    ⟨fun _ _ apart secondCounts firstCounts => (apart firstCounts secondCounts).symm⟩
  exact distinct.forall latest.mem isTask differ latest.isCounted otherLatest.isCounted sameTime

/-- Among some tasks that count one is the first of the latest. -/
theorem exists_isFirstLatest (time : Json → Int) (counts : Json → Prop) (tasks : List Json) :
    (∀ task ∈ tasks, ¬ counts task) ∨ ∃ task, IsFirstLatest time counts tasks task := by
  induction tasks using List.reverseRecOn with
  | nil => exact .inl (by simp)
  | append_singleton tasks task inductionHypothesis =>
    by_cases isCounted : counts task
    · right
      rcases inductionHypothesis with none | ⟨current, latest⟩
      · exact ⟨task, isFirstLatest_append_of_none none isCounted⟩
      · rcases Int.lt_or_le (time current) (time task) with isLater | notLater
        · exact ⟨task, latest.append_of_lt isLater isCounted⟩
        · exact ⟨current, latest.append_of_le notLater⟩
    · rcases inductionHypothesis with none | ⟨current, latest⟩
      · refine .inl fun other isOther => ?_
        rcases List.mem_append.mp isOther with isEarlier | isLast
        · exact none other isEarlier
        · rwa [List.mem_singleton.mp isLast]
      · exact .inr ⟨current, latest.append_of_not isCounted⟩

end FirstLatest

/-- A task takes the place of another only when it is strictly later. -/
theorem later_some (current task : Json) : later (some current) task =
    if deployTime current < deployTime task then some task else some current := by
  simp only [later, Double.compare, deployTime, beq_iff_eq]
  exact if_congr Int.compare_eq_lt rfl rfl

/-- No task that is not later replaces the one found. -/
theorem foldl_later_of_le {tasks : List Json} {task : Json}
    (notLater : ∀ other ∈ tasks, deployTime other ≤ deployTime task) :
    tasks.foldl later (some task) = some task := by
  induction tasks with
  | nil => rfl
  | cons other rest inductionHypothesis =>
    have isNotLater := notLater other (by simp)
    rw [List.foldl_cons, later_some, if_neg (Int.not_lt.mpr isNotLater)]
    exact inductionHypothesis fun behind isBehind =>
      notLater behind (List.mem_cons_of_mem _ isBehind)

/-- What is found is what was found before or one of the tasks. -/
theorem foldl_later_mem (found : Option Json) (tasks : List Json) :
    tasks.foldl later found = found ∨ ∃ task ∈ tasks, tasks.foldl later found = some task := by
  induction tasks generalizing found with
  | nil => exact .inl rfl
  | cons first rest inductionHypothesis =>
    have isEither : later found first = some first ∨ later found first = found := by
      cases found with
      | none => exact .inl rfl
      | some current =>
        rw [later_some]
        split
        · exact .inl rfl
        · exact .inr rfl
    rw [List.foldl_cons]
    rcases inductionHypothesis (later found first) with kept | ⟨task, isRest, isFound⟩
    · rw [kept]
      exact isEither.symm.imp_right fun isFirst => ⟨first, by simp, isFirst⟩
    · exact .inr ⟨task, List.mem_cons_of_mem _ isRest, isFound⟩

/-- Looking through the tasks that pass a test finds the first of the latest of them. -/
theorem foldl_later_of_isFirstLatest {keep : Json → Bool} {tasks : List Json} {task : Json}
    (latest : IsFirstLatest deployTime (keep · = true) tasks task) :
    (tasks.filter keep).foldl later none = some task := by
  obtain ⟨before, after, rfl, earlier, notLater⟩ := latest.standsFirst
  rw [List.filter_append, List.filter_cons_of_pos latest.isCounted, List.foldl_append,
    List.foldl_cons]
  have replaced : later ((before.filter keep).foldl later none) task = some task := by
    rcases foldl_later_mem none (before.filter keep) with notFound | ⟨current, isBefore, found⟩
    · rw [notFound]
      rfl
    · obtain ⟨isEarlier, isKept⟩ := List.mem_filter.mp isBefore
      rw [found, later_some, if_pos (earlier current isEarlier isKept)]
  rw [replaced]
  refine foldl_later_of_le fun other isAfter => ?_
  obtain ⟨isBehind, isKept⟩ := List.mem_filter.mp isAfter
  exact notLater other isBehind isKept

/-- Looking through the tasks that pass a test ends at the first of the latest, if there is
one. -/
theorem foldl_later_filter (keep : Json → Bool) (tasks : List Json) :
    ((tasks.filter keep).foldl later none = none ∧ ∀ task ∈ tasks, ¬ keep task = true) ∨
    ∃ task, (tasks.filter keep).foldl later none = some task ∧
      IsFirstLatest deployTime (keep · = true) tasks task := by
  rcases exists_isFirstLatest deployTime (keep · = true) tasks with none | ⟨task, latest⟩
  · refine .inl ⟨?_, none⟩
    rw [List.filter_eq_nil_iff.mpr none]
    rfl
  · exact .inr ⟨task, foldl_later_of_isFirstLatest latest, latest⟩

end Dashboard.Deployment
