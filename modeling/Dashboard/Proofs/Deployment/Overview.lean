import Dashboard.Pattern.Compiled
import Dashboard.Proofs.Deployment.Latest
import Dashboard.Proofs.Json.Keys
import Mathlib.Data.List.Infix

/-!
# The overview of a service is exact

Which tasks belong to a service, which of them updates one of its environments, and what the
overview tells of them are stated here on the documents alone. The overview has each
environment of the service once, with the first of its latest updates, and the images of the
service once each, from the greatest down. The order of the tasks decides between updates of
the same time only.
-/

namespace Dashboard.Deployment

/-- A pattern captures a part of a text: the first group of the first match, or the whole match
when that group is absent. -/
def Captures (pattern : Pattern) (text part : String) : Prop :=
  ∃ groups, pattern.firstMatch? text = some groups ∧
    (groups[1]? = some (some part) ∨
      groups[1]?.join = none ∧ groups[0]? = some (some part))

/-- The image name of a service; the empty one when it is no text. -/
def imageNameOf (service : Json) : String := (textOf? service "image-name").getD ""

/-- A task belongs to a service: its image name is a text of which the pattern captures a part
that contains the image name of the service. -/
def Belongs (pattern : Pattern) (service task : Json) : Prop :=
  ∃ name part, task.get? "image-name" = some (.string name) ∧ Captures pattern name part ∧
    (imageNameOf service).toList <:+: part.toList

/-- A task is an update of a service in an environment that is done. -/
structure IsUpdate (pattern : Pattern) (service : Json) (environment : String) (task : Json) :
    Prop where
  belongs : Belongs pattern service task
  isDone : task.get? "status" = some (.string "done")
  isEvent : task.get? "event" = some (.string "update-service")
  isThere : task.get? "environment" = some (.string environment)

/-- An environment is one of the texts among the environments of a service. -/
def Names (service : Json) (environment : String) : Prop :=
  ∃ items, service.get? "environments" = some (.array items) ∧ .string environment ∈ items

/-- What is told of an environment in which an image runs since some time. -/
def runningImage (image time : Json) : Json := .object [("image-name", image), ("time", time)]

/-- What is told of an environment in which nothing of the service was updated. -/
def notRunning : Json := runningImage (.string "NA") .null

/-- What an overview tells of an environment: the image and the time of the first of the latest
updates there, or that there was none. -/
inductive Tells (pattern : Pattern) (service : Json) (tasks : List Json) (environment : String) :
    Json → Prop where
  | latest {task image}
      (isLatest : IsFirstLatest deployTime (IsUpdate pattern service environment) tasks task)
      (isNamed : task.get? "image-name" = some (.string image)) :
      Tells pattern service tasks environment
        (runningImage (.string image) ((task.get? "time").getD .null))
  | never (noUpdate : ∀ task ∈ tasks, ¬ IsUpdate pattern service environment task) :
      Tells pattern service tasks environment notRunning

section Parts

variable {pattern : Pattern} {service record task : Json} {environment name text part : String}

/-- Characters occur in others when they stand in them in one piece. -/
theorem occursIn_iff {part characters : List Char} :
    occursIn part characters = true ↔ part <:+: characters := by
  induction characters with
  | nil => simp [occursIn]
  | cons character rest inductionHypothesis =>
    simp [occursIn, List.infix_cons_iff, inductionHypothesis]

theorem string?_eq_some_iff {value : Json} : value.string? = some text ↔ value = .string text := by
  cases value <;> simp [Json.string?]

theorem textOf?_eq_some_iff :
    textOf? record name = some text ↔ record.get? name = some (.string text) := by
  simp [textOf?, Option.bind_eq_some_iff, string?_eq_some_iff]

/-- What is captured is the first group, or the whole match where that group is absent. -/
theorem capturedPart?_eq_some_iff :
    capturedPart? pattern text = some part ↔ Captures pattern text part := by
  unfold capturedPart? Captures
  rcases pattern.firstMatch? text with _ | _ | ⟨whole, _ | ⟨group, others⟩⟩
  · simp
  · simp
  · simp
  · cases group <;> simp

/-- The test of a task decides whether its image belongs to the service. -/
theorem belongs_iff :
    belongs pattern (imageNameOf service) task = true ↔ Belongs pattern service task := by
  unfold belongs Belongs
  cases named : textOf? task "image-name" with
  | none =>
    have noText (name : String) : task.get? "image-name" ≠ some (.string name) := by
      rw [ne_eq, ← textOf?_eq_some_iff, named]
      simp
    simp [noText]
  | some name =>
    have isName := textOf?_eq_some_iff.mp named
    rw [Option.bind_some]
    cases captured : capturedPart? pattern name with
    | none =>
      have noPart (part : String) : ¬ Captures pattern name part := by
        rw [← capturedPart?_eq_some_iff, captured]
        simp
      simp [isName, noPart]
    | some part =>
      have onlyPart (other : String) : Captures pattern name other ↔ part = other := by
        rw [← capturedPart?_eq_some_iff, captured, Option.some.injEq]
      simp [isName, onlyPart, occursIn_iff]

/-- The two tests of a task decide whether it is an update of the service in an environment. -/
theorem isUpdateOf_iff :
    (isUpdateOf environment task && belongs pattern (imageNameOf service) task) = true ↔
      IsUpdate pattern service environment task := by
  simp only [isUpdateOf, Bool.and_eq_true, beq_iff_eq, belongs_iff, textOf?_eq_some_iff]
  exact ⟨fun ⟨⟨⟨isDone, isEvent⟩, isThere⟩, belongs⟩ => ⟨belongs, isDone, isEvent, isThere⟩,
    fun update => ⟨⟨⟨update.isDone, update.isEvent⟩, update.isThere⟩, update.belongs⟩⟩

/-- The environments of a service are the texts that it names. -/
theorem mem_environmentsOf_iff :
    environment ∈ environmentsOf service ↔ Names service environment := by
  unfold environmentsOf Names
  rcases service.get? "environments" with _ | _ | _ | _ | _ | items | _
  case some.array => simp [List.mem_filterMap, string?_eq_some_iff]
  all_goals simp

end Parts

section Images

variable {text other : String} {texts : List String}

/-- Insertion adds the inserted text and loses none. -/
theorem mem_insertDescending :
    other ∈ insertDescending text texts ↔ other = text ∨ other ∈ texts := by
  induction texts with
  | nil => simp [insertDescending]
  | cons first rest inductionHypothesis =>
    unfold insertDescending
    split
    · simp
    · split
      · rename_i same
        simp [same]
      · rw [List.mem_cons, inductionHypothesis, List.mem_cons]
        exact or_left_comm

/-- A text is put where the list stays descending. -/
theorem pairwise_insertDescending (inOrder : texts.Pairwise fun greater less => less < greater) :
    (insertDescending text texts).Pairwise fun greater less => less < greater := by
  induction texts with
  | nil => simp [insertDescending]
  | cons first rest inductionHypothesis =>
    obtain ⟨below, restInOrder⟩ := List.pairwise_cons.mp inOrder
    unfold insertDescending
    split
    · rename_i greater
      refine List.pairwise_cons.mpr ⟨fun other isOther => ?_, inOrder⟩
      rcases List.mem_cons.mp isOther with rfl | isLater
      · exact greater
      · exact String.lt_trans (below other isLater) greater
    · rename_i notGreater
      split
      · exact inOrder
      · rename_i differ
        refine List.pairwise_cons.mpr ⟨fun other isOther => ?_, inductionHypothesis restInOrder⟩
        rcases mem_insertDescending.mp isOther with rfl | isLater
        · exact Text.lt_of_not_lt_of_ne notGreater differ
        · exact below other isLater

/-- The descending texts are the given ones. -/
theorem mem_descending : text ∈ descending texts ↔ text ∈ texts := by
  unfold descending
  induction texts with
  | nil => simp
  | cons first rest inductionHypothesis =>
    rw [List.foldr_cons, mem_insertDescending, inductionHypothesis, List.mem_cons]

/-- The descending texts fall strictly, so none is repeated. -/
theorem pairwise_descending (texts : List String) :
    (descending texts).Pairwise fun greater less => less < greater := by
  unfold descending
  induction texts with
  | nil => exact .nil
  | cons first rest inductionHypothesis => exact pairwise_insertDescending inductionHypothesis

/-- The distinct texts in descending order do not depend on the order of the texts. -/
theorem descending_eq_of_perm {others : List String} (same : others.Perm texts) :
    descending others = descending texts := by
  have distinct (texts : List String) : (descending texts).Nodup :=
    (pairwise_descending texts).imp fun {greater less} isLess equal => by
      rw [equal] at isLess
      exact String.lt_irrefl _ isLess
  have sameTexts : (descending others).Perm (descending texts) :=
    (List.perm_ext_iff_of_nodup (distinct _) (distinct _)).mpr fun text => by
      rw [mem_descending, mem_descending, same.mem_iff]
  refine sameTexts.eq_of_pairwise ?_ (pairwise_descending _) (pairwise_descending _)
  intro greater less _ _ isLess isGreater
  exact absurd isGreater (String.lt_asymm isLess)

end Images

section Overview

variable {pattern : Pattern} {service : Json} {environment : String} {tasks others : List Json}

/-- The tasks that are looked through for an environment are the updates there. -/
theorem latestUpdate?_belonging (environment : String) (tasks : List Json) :
    latestUpdate? environment (tasks.filter (belongs pattern (imageNameOf service))) =
      (tasks.filter fun task => isUpdateOf environment task &&
        belongs pattern (imageNameOf service) task).foldl later none := by
  rw [latestUpdate?, List.filter_filter]

/-- An environment has no update, or the first of its latest ones is found. -/
theorem latestUpdate?_cases (pattern : Pattern) (service : Json) (environment : String)
    (tasks : List Json) :
    (latestUpdate? environment (tasks.filter (belongs pattern (imageNameOf service))) = none ∧
      ∀ task ∈ tasks, ¬ IsUpdate pattern service environment task) ∨
    ∃ task,
      latestUpdate? environment (tasks.filter (belongs pattern (imageNameOf service))) =
        some task ∧
      IsFirstLatest deployTime (IsUpdate pattern service environment) tasks task := by
  have sameTasks : (fun task => (isUpdateOf environment task &&
      belongs pattern (imageNameOf service) task) = true) =
        IsUpdate pattern service environment :=
    funext fun task => propext isUpdateOf_iff
  rw [latestUpdate?_belonging, ← sameTasks]
  exact foldl_later_filter _ tasks

/-- The members of what is told of an update stand in the order of their keys already. -/
theorem ofMembers_runningImage (image time : Json) :
    Json.ofMembers [("image-name", image), ("time", time)] = runningImage image time :=
  Json.ofMembers_of_sorted (by simp only [List.map_cons, List.map_nil]; decide)

/-- What is told of an environment follows from the updates there. -/
theorem tells_running (pattern : Pattern) (service : Json) (environment : String)
    (tasks : List Json) :
    Tells pattern service tasks environment
      (running environment (tasks.filter (belongs pattern (imageNameOf service)))) := by
  unfold running
  simp only [ofMembers_runningImage]
  rcases latestUpdate?_cases pattern service environment tasks with
    ⟨notFound, noUpdate⟩ | ⟨task, found, isLatest⟩
  · rw [notFound]
    exact .never noUpdate
  · obtain ⟨name, -, isNamed, -, -⟩ := isLatest.isCounted.belongs
    simp only [found, isNamed, Option.getD_some]
    exact .latest isLatest isNamed

/-- Updates of distinct times may be reordered. -/
theorem running_eq_of_perm (same : others.Perm tasks)
    (distinct : tasks.Pairwise fun first second =>
      IsUpdate pattern service environment first → IsUpdate pattern service environment second →
        deployTime first ≠ deployTime second) :
    running environment (others.filter (belongs pattern (imageNameOf service))) =
      running environment (tasks.filter (belongs pattern (imageNameOf service))) := by
  unfold running
  rcases latestUpdate?_cases pattern service environment tasks with
    ⟨notFound, noUpdate⟩ | ⟨task, found, isLatest⟩ <;>
  rcases latestUpdate?_cases pattern service environment others with
    ⟨otherNotFound, noOther⟩ | ⟨other, otherFound, otherIsLatest⟩
  · rw [notFound, otherNotFound]
  · exact absurd otherIsLatest.isCounted (noUpdate other (same.mem_iff.mp otherIsLatest.mem))
  · exact absurd isLatest.isCounted (noOther task (same.mem_iff.mpr isLatest.mem))
  · rw [found, otherFound, isLatest.eq_of_perm otherIsLatest same distinct]

/-- The members that tell of the environments of a service. -/
def environmentMembers (pattern : Pattern) (service : Json) (tasks : List Json) :
    List (String × Json) :=
  Json.gather ((environmentsOf service).map fun environment =>
    (environment, running environment (tasks.filter (belongs pattern (imageNameOf service))))) []

/-- The images of a service, the greatest first. -/
def deployedImages (pattern : Pattern) (service : Json) (tasks : List Json) : List String :=
  descending ((tasks.filter (belongs pattern (imageNameOf service))).filterMap
    (textOf? · "image-name"))

/-- What stands in the overview under an environment is what is told of it. -/
theorem tells_of_mem {told : Json}
    (isMember : (environment, told) ∈ environmentMembers pattern service tasks) :
    Tells pattern service tasks environment told := by
  rcases Json.mem_gather isMember with isMember | isNone
  · obtain ⟨other, -, isOther⟩ := List.mem_map.mp isMember
    cases isOther
    exact tells_running pattern service environment tasks
  · cases isNone

/-- An update of an image that is called like none, without a time, reads like no update. -/
theorem Tells.eq_notRunning_iff {told : Json}
    (tells : Tells pattern service tasks environment told) :
    told = notRunning ↔ (∀ task ∈ tasks, ¬ IsUpdate pattern service environment task) ∨
      ∃ task, IsFirstLatest deployTime (IsUpdate pattern service environment) tasks task ∧
        task.get? "image-name" = some (.string "NA") ∧ (task.get? "time").getD .null = .null := by
  cases tells with
  | @latest task image isLatest isNamed =>
    have isUpdated : ¬ ∀ task ∈ tasks, ¬ IsUpdate pattern service environment task :=
      fun noUpdate => noUpdate task isLatest.mem isLatest.isCounted
    have isTold : runningImage (.string image) ((task.get? "time").getD .null) = notRunning ↔
        image = "NA" ∧ (task.get? "time").getD .null = .null := by
      simp [notRunning, runningImage]
    rw [isTold, or_iff_right isUpdated]
    constructor
    · rintro ⟨rfl, noTime⟩
      exact ⟨task, isLatest, isNamed, noTime⟩
    · rintro ⟨other, otherIsLatest, otherIsNamed, noTime⟩
      cases isLatest.unique otherIsLatest
      rw [isNamed] at otherIsNamed
      cases otherIsNamed
      exact ⟨rfl, noTime⟩
  | never noUpdate => exact iff_of_true rfl (.inl noUpdate)

/-- The images that are listed are those of the tasks that belong to the service. -/
theorem mem_deployedImages {image : String} :
    image ∈ deployedImages pattern service tasks ↔
      ∃ task ∈ tasks, Belongs pattern service task ∧
        task.get? "image-name" = some (.string image) := by
  simp [deployedImages, mem_descending, List.mem_filterMap, belongs_iff, textOf?_eq_some_iff,
    and_assoc]

/-- With a pattern that compiles, an overview has its environments and its images. -/
theorem overview_of_compiled {engine : PatternEngine} {glob : String}
    (compiled : engine.compile glob = .ok pattern) (service : Json) (tasks : List Json) :
    overview engine service tasks glob =
      .ok (.object [("environments", .object (environmentMembers pattern service tasks)),
        ("images-deployed", .ofStrings (deployedImages pattern service tasks))]) := by
  unfold overview
  rw [compiled]
  exact congrArg Except.ok
    (Json.ofMembers_of_sorted (by simp only [List.map_cons, List.map_nil]; decide))

end Overview

/-- Behind a pattern that compiles the overview has the environments that the service names,
each once. It tells of each the image and the time of the first of the latest updates there, or
that there was none, and lists the distinct images of the tasks that belong to the service, the
greatest first octet by octet. Tasks may be reordered where no two updates of an environment
have the same time. What tells that there was no update is also told of an update of an image
that is called so, without a time. -/
theorem overview_is_exact {engine : PatternEngine} {glob : String} {pattern : Pattern}
    (compiled : engine.compile glob = .ok pattern) (service : Json) (tasks : List Json) :
    (∃ members images, overview engine service tasks glob =
        .ok (.object [("environments", .object members), ("images-deployed", .ofStrings images)]) ∧
      (members.map Prod.fst).Pairwise (· < ·) ∧
      (∀ environment, environment ∈ members.map Prod.fst ↔ Names service environment) ∧
      (∀ environment told, (environment, told) ∈ members →
        Tells pattern service tasks environment told ∧
        (told = notRunning ↔
          (∀ task ∈ tasks, ¬ IsUpdate pattern service environment task) ∨
          ∃ task, IsFirstLatest deployTime (IsUpdate pattern service environment) tasks task ∧
            task.get? "image-name" = some (.string "NA") ∧
            (task.get? "time").getD .null = .null)) ∧
      images.Pairwise (fun greater less => Text.Utf8.ofString less < Text.Utf8.ofString greater) ∧
      ∀ image, image ∈ images ↔
        ∃ task ∈ tasks, Belongs pattern service task ∧
          task.get? "image-name" = some (.string image)) ∧
    ∀ others, others.Perm tasks →
      (∀ environment, Names service environment → tasks.Pairwise fun first second =>
        IsUpdate pattern service environment first →
          IsUpdate pattern service environment second →
            deployTime first ≠ deployTime second) →
      overview engine service others glob = overview engine service tasks glob := by
  refine ⟨⟨_, _, overview_of_compiled compiled service tasks, Json.sorted_gather .nil,
    fun environment => ?names, fun environment told isMember => ⟨?tells, ?notRunning⟩,
    ?descending, fun image => ?images⟩, fun others same distinct => ?reordered⟩
  case names =>
    rw [environmentMembers, Json.mem_keys_gather, ← mem_environmentsOf_iff]
    simp
  case tells => exact tells_of_mem isMember
  case notRunning => exact (tells_of_mem isMember).eq_notRunning_iff
  case descending =>
    exact (pairwise_descending _).imp fun less => (Text.Utf8.ofString_lt_iff _ _).mpr less
  case images => exact mem_deployedImages
  case reordered =>
    have sameEnvironments :
        environmentMembers pattern service others = environmentMembers pattern service tasks := by
      refine congrArg (Json.gather · []) (List.map_congr_left fun environment isNamed => ?_)
      rw [running_eq_of_perm same (distinct environment (mem_environmentsOf_iff.mp isNamed))]
    have sameImages : deployedImages pattern service others =
        deployedImages pattern service tasks :=
      descending_eq_of_perm ((same.filter _).filterMap _)
    rw [overview_of_compiled compiled, overview_of_compiled compiled, sameEnvironments,
      sameImages]

/-- A failed update of an image counts among its images only, an environment that is named
twice is told of once, and the order of updates with distinct times does not matter. -/
theorem overview_is_exact_standardGlob :
    let service : Json := .object [("environments", .array [.string "prod", .string "dev",
      .string "prod"]), ("image-name", .string "web")]
    let update (image status : String) (time : Int) : Json :=
      .object [("environment", .string "prod"), ("event", .string "update-service"),
        ("image-name", .string image), ("status", .string status), ("time", .number (.int time))]
    let tasks : List Json := [update "web:1" "done" 10, update "web:2" "done" 20,
      update "web:3" "failed" 30, update "api:9" "done" 40]
    let told : Json := .object
      [("environments", .object [("dev", notRunning),
        ("prod", runningImage (.string "web:2") (.number (.int 20)))]),
        ("images-deployed", .ofStrings ["web:3", "web:2", "web:1"])]
    overview .standard service tasks standardGlob = .ok told ∧
      overview .standard service tasks.reverse standardGlob = .ok told ∧
      ∃ pattern, PatternEngine.standard.compile standardGlob = .ok pattern ∧
        Tells pattern service tasks "prod"
          (runningImage (.string "web:2") (.number (.int 20))) ∧
        ∀ task ∈ tasks, ¬ IsUpdate pattern service "dev" task := by
  intro service update tasks told
  have isTold : overview .standard service tasks standardGlob = .ok told := by decide +kernel
  obtain ⟨pattern, compiled⟩ : ∃ pattern,
      PatternEngine.standard.compile standardGlob = .ok pattern := ⟨_, rfl⟩
  obtain ⟨⟨members, images, isOverview, -, -, tells, -⟩, reordered⟩ :=
    overview_is_exact compiled service tasks
  obtain rfl : members = [("dev", notRunning),
      ("prod", runningImage (.string "web:2") (.number (.int 20)))] := by
    rw [isTold] at isOverview
    have sameMembers := Except.ok.inj isOverview
    simp only [told, Json.object.injEq, List.cons.injEq, Prod.mk.injEq, true_and] at sameMembers
    exact sameMembers.1.symm
  refine ⟨isTold, ?reversed, pattern, compiled, (tells "prod" _ (by simp)).1, ?never⟩
  case reversed =>
    refine (reordered _ (List.reverse_perm tasks) fun environment _ => ?_).trans isTold
    have apart : tasks.Pairwise fun first second => deployTime first ≠ deployTime second := by
      decide +kernel
    exact apart.imp fun differ _ _ => differ
  case never =>
    refine ((tells "dev" notRunning (by simp)).2.mp rfl).resolve_right ?_
    rintro ⟨task, isLatest, isNamed, -⟩
    have otherNames : ∀ task ∈ tasks, task.get? "image-name" ≠ some (.string "NA") := by
      decide +kernel
    exact otherNames task isLatest.mem isNamed

/-- An update of an image that is called like none is told of like no update. -/
theorem overview_of_update_called_none :
    let service : Json := .object [("environments", .array [.string "prod"]),
      ("image-name", .string "NA")]
    let task : Json := .object [("environment", .string "prod"),
      ("event", .string "update-service"), ("image-name", .string "NA"),
      ("status", .string "done")]
    ∃ pattern, PatternEngine.standard.compile standardGlob = .ok pattern ∧
      IsUpdate pattern service "prod" task ∧
      overview .standard service [task] standardGlob = .ok (.object
        [("environments", .object [("prod", notRunning)]),
          ("images-deployed", .ofStrings ["NA"])]) := by
  intro service task
  obtain ⟨pattern, compiled, updates⟩ : ∃ pattern,
      PatternEngine.standard.compile standardGlob = .ok pattern ∧
      (isUpdateOf "prod" task && belongs pattern (imageNameOf service) task) = true :=
    ⟨_, rfl, by decide +kernel⟩
  exact ⟨pattern, compiled, isUpdateOf_iff.mp updates, by decide +kernel⟩

end Dashboard.Deployment
