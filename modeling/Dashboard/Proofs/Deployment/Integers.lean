import Dashboard.Proofs.Deployment.Overview
import Dashboard.Proofs.Listing.Integers

/-!
# Integers are ordered up to rounding

Where a field holds integers of 64 bits, sorting by it and looking for the latest time go by
the binary64 numbers nearest to them. Both are exact but for integers that round to the same
number, which merge: of these the first one counts, whichever is the greatest. Such integers are
`2 ^ 53` at least, on either side of zero, and differ by 2048 at most.
-/

namespace Dashboard.Deployment

open Double (Merge Near roundInt roundInt_mono)
open Listing (SortOrder)

section Times

variable {counts : Json → Prop} {tasks before after : List Json} {task greatest left right : Json}

/-- Of two updates at integer times the rounded times decide which is the later one. -/
theorem deployTime_le_iff (holdsLeft : left.HoldsWord "time")
    (holdsRight : right.HoldsWord "time") :
    deployTime left ≤ deployTime right ↔
      roundInt (left.integerOf "time") ≤ roundInt (right.integerOf "time") := by
  unfold deployTime taskTime
  rw [holdsLeft.holds, holdsRight.holds]
  exact Double.units_ofInt_le_iff holdsLeft.isWord holdsRight.isWord

/-- The first of the latest tasks merges with the one of the greatest integer time. -/
theorem IsFirstLatest.merges (latest : IsFirstLatest deployTime counts tasks task)
    (isGreatest : IsFirstLatest (Json.integerOf "time") counts tasks greatest)
    (holds : ∀ task ∈ tasks, counts task → task.HoldsWord "time") :
    Merge (task.integerOf "time") (greatest.integerOf "time") := by
  have notGreater := roundInt_mono (isGreatest.time_le latest.mem latest.isCounted)
  have notLater := latest.time_le isGreatest.mem isGreatest.isCounted
  rw [deployTime_le_iff (holds _ isGreatest.mem isGreatest.isCounted)
    (holds _ latest.mem latest.isCounted)] at notLater
  exact (Double.merge_iff (holds _ latest.mem latest.isCounted).isWord
    (holds _ isGreatest.mem isGreatest.isCounted).isWord).mpr (Int.le_antisymm notGreater notLater)

/-- The first of the latest tasks has the greatest integer time exactly when no task before the
first one of that time merges with it. -/
theorem IsFirstLatest.integer_eq_iff (latest : IsFirstLatest deployTime counts tasks task)
    (isCounted : counts greatest) (isSplit : tasks = before ++ greatest :: after)
    (earlier : ∀ other ∈ before, counts other →
      other.integerOf "time" < greatest.integerOf "time")
    (notGreater : ∀ other ∈ after, counts other →
      other.integerOf "time" ≤ greatest.integerOf "time")
    (holds : ∀ task ∈ tasks, counts task → task.HoldsWord "time") :
    task.integerOf "time" = greatest.integerOf "time" ↔
      ∀ other ∈ before, counts other →
        ¬ Merge (other.integerOf "time") (greatest.integerOf "time") := by
  subst isSplit
  have isGreatest : IsFirstLatest (Json.integerOf "time") counts (before ++ greatest :: after)
      greatest :=
    ⟨isCounted, before, after, rfl, earlier, notGreater⟩
  have holdsGreatest := holds greatest isGreatest.mem isCounted
  constructor
  · intro same other isBefore otherCounts merged
    have holdsOther := holds other (by simp [isBefore]) otherCounts
    have notBefore : task ∉ before := fun isEarlier => by
      have isLess := earlier task isEarlier latest.isCounted
      omega
    have isLess := latest.time_lt_of_mem_before notBefore isBefore otherCounts
    have notLess : deployTime task ≤ deployTime other :=
      (deployTime_le_iff (holds task latest.mem latest.isCounted) holdsOther).mpr
        (Int.le_of_eq (by
          rw [same, (Double.merge_iff holdsOther.isWord holdsGreatest.isWord).mp merged]))
    omega
  · intro noneMerges
    have isLatest : IsFirstLatest deployTime counts (before ++ greatest :: after) greatest := by
      refine ⟨isCounted, before, after, rfl, fun other isBefore otherCounts => ?_,
        fun other isAfter otherCounts => ?_⟩
      · have holdsOther := holds other (by simp [isBefore]) otherCounts
        refine Int.not_le.mp fun isLess => ?_
        rw [deployTime_le_iff holdsGreatest holdsOther] at isLess
        have notMerged := noneMerges other isBefore otherCounts
        rw [Double.merge_iff holdsOther.isWord holdsGreatest.isWord] at notMerged
        have isOrdered := roundInt_mono (Int.le_of_lt (earlier other isBefore otherCounts))
        omega
      · have holdsOther := holds other (by simp [isAfter]) otherCounts
        exact (deployTime_le_iff holdsOther holdsGreatest).mpr
          (roundInt_mono (notGreater other isAfter otherCounts))
    rw [latest.unique isLatest]

end Times

section Told

variable {pattern : Pattern} {service : Json} {tasks : List Json} {environment : String}

/-- Where an environment is named and something was updated there, the first of the latest
updates is told. -/
theorem exists_told (isNamed : Names service environment)
    (isUpdated : ∃ task ∈ tasks, IsUpdate pattern service environment task) :
    ∃ task image, IsFirstLatest deployTime (IsUpdate pattern service environment) tasks task ∧
      task.get? "image-name" = some (.string image) ∧
      (environment, runningImage (.string image) ((task.get? "time").getD .null)) ∈
        environmentMembers pattern service tasks := by
  have isKey : environment ∈ (environmentMembers pattern service tasks).map Prod.fst := by
    rw [environmentMembers, Json.mem_keys_gather]
    simpa using mem_environmentsOf_iff.mpr isNamed
  obtain ⟨⟨_, told⟩, isMember, rfl⟩ := List.mem_map.mp isKey
  obtain ⟨update, isTask, isUpdate⟩ := isUpdated
  cases tells_of_mem isMember with
  | @latest task image isLatest isImage => exact ⟨task, image, isLatest, isImage, isMember⟩
  | never noUpdate => exact absurd isUpdate (noUpdate update isTask)

end Told

/-- Sorting by integers of 64 bits and telling the latest update by them is exact up to integers
near each other. Sorted records are in the order of the integers exactly when no two that merge
stood the wrong way round. The update that is told has the greatest time exactly when no update
before the first one of that time merges with it. -/
theorem integers_are_ordered_up_to_rounding (engine : PatternEngine) (order : SortOrder)
    (records : List Json) (glob : String) (pattern : Pattern) (service : Json) (tasks : List Json)
    (environment : String) :
    ((∀ record ∈ records, record.HoldsWord order.field) →
      (order.sort records).Perm records ∧
      (order.sort records).Pairwise (fun earlier later => order.InOrder earlier later ∨
        Near (earlier.integerOf order.field) (later.integerOf order.field)) ∧
      ((order.sort records).Pairwise order.InOrder ↔ records.Pairwise fun earlier later =>
        order.Merges earlier later → order.InOrder earlier later)) ∧
    (engine.compile glob = .ok pattern → Names service environment →
      (∀ task ∈ tasks, IsUpdate pattern service environment task → task.HoldsWord "time") →
      (∃ task ∈ tasks, IsUpdate pattern service environment task) →
      ∃ members images task image before greatest after,
        overview engine service tasks glob =
          .ok (.object [("environments", .object members), ("images-deployed", images)]) ∧
        (environment, runningImage (.string image) (.number (.int (task.integerOf "time")))) ∈
          members ∧
        (task ∈ tasks ∧ IsUpdate pattern service environment task ∧
          task.get? "image-name" = some (.string image)) ∧
        (tasks = before ++ greatest :: after ∧ IsUpdate pattern service environment greatest ∧
          (∀ other ∈ before, IsUpdate pattern service environment other →
            other.integerOf "time" < greatest.integerOf "time") ∧
          ∀ other ∈ after, IsUpdate pattern service environment other →
            other.integerOf "time" ≤ greatest.integerOf "time") ∧
        (task.integerOf "time" = greatest.integerOf "time" ∨
          Near (task.integerOf "time") (greatest.integerOf "time")) ∧
        (task.integerOf "time" = greatest.integerOf "time" ↔
          ∀ other ∈ before, IsUpdate pattern service environment other →
            ¬ Merge (other.integerOf "time") (greatest.integerOf "time"))) := by
  refine ⟨fun holds => ?sorted, fun compiled isNamed holds isUpdated => ?told⟩
  case sorted =>
    exact ⟨List.mergeSort_perm _ _, SortOrder.pairwise_inOrder_or_near holds,
      SortOrder.pairwise_inOrder_sort_iff holds⟩
  case told =>
    obtain ⟨task, image, isLatest, isImage, isTold⟩ := exists_told isNamed isUpdated
    rcases exists_isFirstLatest (Json.integerOf "time") (IsUpdate pattern service environment)
      tasks with none | ⟨greatest, isGreatest⟩
    · exact absurd isLatest.isCounted (none task isLatest.mem)
    obtain ⟨before, after, isSplit, earlier, notGreater⟩ := isGreatest.standsFirst
    have holdsTask := holds task isLatest.mem isLatest.isCounted
    have holdsGreatest := holds greatest isGreatest.mem isGreatest.isCounted
    rw [holdsTask.holds, Option.getD_some] at isTold
    refine ⟨_, _, task, image, before, greatest, after,
      overview_of_compiled compiled service tasks, isTold,
      ⟨isLatest.mem, isLatest.isCounted, isImage⟩,
      ⟨isSplit, isGreatest.isCounted, earlier, notGreater⟩, ?near,
      isLatest.integer_eq_iff isGreatest.isCounted isSplit earlier notGreater holds⟩
    case near =>
      refine or_iff_not_imp_left.mpr fun differ => ?_
      exact (isLatest.merges isGreatest holds).near holdsTask.isWord holdsGreatest.isWord differ

/-- Integers of which none is a binary64 number are ordered, and the latest update is told, when
no two of them merge. -/
theorem odd_integers_are_ordered_by_rounding :
    let update (image : String) (time : Int) : Json :=
      .object [("environment", .string "prod"), ("event", .string "update-service"),
        ("image-name", .string image), ("status", .string "done"), ("time", .number (.int time))]
    let service : Json := .object [("environments", .array [.string "prod"]),
      ("image-name", .string "web")]
    let tasks : List Json := [update "web:1" 9007199254740993, update "web:2" 9007199254740995,
      update "web:3" (-9007199254740993)]
    let order : SortOrder := ⟨"time", .descending⟩
    ((∀ task ∈ tasks, task.HoldsWord "time") ∧ (order.sort tasks).Pairwise order.InOrder) ∧
      ∃ pattern, PatternEngine.standard.compile standardGlob = .ok pattern ∧ Names service "prod" ∧
        (∀ task ∈ tasks, IsUpdate pattern service "prod" task) ∧
        ∃ members images, overview .standard service tasks standardGlob =
            .ok (.object [("environments", .object members), ("images-deployed", images)]) ∧
          ("prod", runningImage (.string "web:2") (.number (.int 9007199254740995))) ∈ members := by
  intro update service tasks order
  have holds : ∀ task ∈ tasks, task.HoldsWord "time" := by decide +kernel
  obtain ⟨pattern, compiled, updates⟩ : ∃ pattern,
      PatternEngine.standard.compile standardGlob = .ok pattern ∧
      ∀ task ∈ tasks,
        (isUpdateOf "prod" task && belongs pattern (imageNameOf service) task) = true :=
    ⟨_, rfl, by decide +kernel⟩
  have isNamed : Names service "prod" := mem_environmentsOf_iff.mp (by decide +kernel)
  have areUpdates : ∀ task ∈ tasks, IsUpdate pattern service "prod" task :=
    fun task isTask => isUpdateOf_iff.mp (updates task isTask)
  obtain ⟨sorts, tells⟩ := integers_are_ordered_up_to_rounding .standard order tasks standardGlob
    pattern service tasks "prod"
  obtain ⟨members, images, task, image, before, greatest, after, isOverview, isMember,
    ⟨isTask, -, isImage⟩, ⟨isSplit, -, earlier, notGreater⟩, -, isGreatest⟩ :=
    tells compiled isNamed (fun task isTask _ => holds task isTask)
      ⟨_, List.mem_cons_self, areUpdates _ List.mem_cons_self⟩
  have isPart : ∀ other, other ∈ before ∨ other = greatest ∨ other ∈ after ↔ other ∈ tasks := by
    simp [isSplit]
  have apart : ∀ other ∈ tasks, ∀ greatest ∈ tasks,
      other.integerOf "time" < greatest.integerOf "time" →
        ¬ Merge (other.integerOf "time") (greatest.integerOf "time") := by
    decide +kernel
  have isExact : task.integerOf "time" = greatest.integerOf "time" := by
    refine isGreatest.mpr fun other isBefore isUpdate => ?_
    exact apart other ((isPart other).mp (.inl isBefore)) greatest
      ((isPart greatest).mp (.inr (.inl rfl))) (earlier other isBefore isUpdate)
  have isLatest : 9007199254740995 ≤ task.integerOf "time" := by
    have isUpdate := areUpdates (update "web:2" 9007199254740995) (by simp [tasks])
    rw [isExact]
    rcases (isPart (update "web:2" 9007199254740995)).mpr (by simp [tasks]) with
      isBefore | rfl | isAfter
    · exact Int.le_of_lt (earlier _ isBefore isUpdate)
    · exact Int.le_refl _
    · exact notGreater _ isAfter isUpdate
  have isTold : ∀ task ∈ tasks, 9007199254740995 ≤ task.integerOf "time" →
      task = update "web:2" 9007199254740995 := by
    decide +kernel
  obtain rfl := isTold task isTask isLatest
  cases isImage
  refine ⟨⟨holds, ?sorted⟩, pattern, compiled, isNamed, areUpdates, members, images, isOverview,
    isMember⟩
  exact (sorts holds).2.2.mpr (by decide +kernel)

/-- Two integers that merge stay out of order, and of two updates at such times the one that
stands first is told. -/
theorem merged_integers_stay_out_of_order :
    let update (image : String) (time : Int) : Json :=
      .object [("environment", .string "prod"), ("event", .string "update-service"),
        ("image-name", .string image), ("status", .string "done"), ("time", .number (.int time))]
    let service : Json := .object [("environments", .array [.string "prod"]),
      ("image-name", .string "web")]
    let records : List Json := [update "web:2" 9007199254740993, update "web:1" 9007199254740992]
    let order : SortOrder := ⟨"time", .ascending⟩
    (order.sort records = records ∧ ¬ (order.sort records).Pairwise order.InOrder) ∧
      overview .standard service records.reverse standardGlob = .ok (.object
        [("environments", .object [("prod",
          runningImage (.string "web:1") (.number (.int 9007199254740992)))]),
          ("images-deployed", .ofStrings ["web:2", "web:1"])]) := by
  intro update service records order
  have stays : order.sort records = records := SortOrder.sort_of_pairwise (by decide +kernel)
  refine ⟨⟨stays, ?_⟩, by decide +kernel⟩
  rw [stays]
  decide +kernel

end Dashboard.Deployment
