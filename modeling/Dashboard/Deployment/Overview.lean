import Dashboard.Json.Basic
import Dashboard.Pattern.Engine

/-!
# The overview of a service

Which image of a service runs in each of its environments, and which images of it
were ever deployed. Tasks tell both: a task belongs to a service when the part of its
image name that a pattern captures contains the service's image name, and the image
that runs in an environment is the one of the latest update there that is done.
-/

namespace Dashboard.Deployment

/-- Whether a run of characters occurs in another. -/
def occursIn (part : List Char) : List Char → Bool
  | [] => part.isEmpty
  | character :: rest => part.isPrefixOf (character :: rest) || occursIn part rest

/-- The text of a member; `none` when it is missing or no text. -/
def textOf? (record : Json) (name : String) : Option String :=
  (record.get? name).bind Json.string?

/-- The part of a text that a pattern captures: the first group, or the whole match when
that group took no part. -/
def capturedPart? (pattern : Pattern) (text : String) : Option String :=
  match pattern.firstMatch? text with
  | some (whole :: group :: _) => group <|> whole
  | some [whole] => whole
  | _ => none

/-- Whether a task belongs to the service of an image name. -/
def belongs (pattern : Pattern) (imageName : String) (task : Json) : Bool :=
  match (textOf? task "image-name").bind (capturedPart? pattern) with
  | some part => occursIn imageName.toList part.toList
  | none => false

/-- The time of a task as a number; a task without one comes before all others. -/
def taskTime (task : Json) : Double :=
  match task.get? "time" with
  | some (.number time) => time.toDouble
  | _ => Double.lowest

/-- Whether a task is an update of a service in an environment that is done. -/
def isUpdateOf (environment : String) (task : Json) : Bool :=
  task.get? "status" == some (.string "done") &&
    task.get? "event" == some (.string "update-service") &&
    textOf? task "environment" == some environment

/-- The later of a task found so far and another; the one found so far when neither is
later. -/
def later (found : Option Json) (task : Json) : Option Json :=
  match found with
  | none => some task
  | some current =>
    if (taskTime current).compare (taskTime task) == .lt then some task else some current

/-- The first of the latest updates of an environment. -/
def latestUpdate? (environment : String) (tasks : List Json) : Option Json :=
  (tasks.filter (isUpdateOf environment)).foldl later none

/-- What is told about an environment. -/
def running (environment : String) (tasks : List Json) : Json :=
  match latestUpdate? environment tasks with
  | some task =>
    Json.ofMembers
      [("image-name", (task.get? "image-name").getD .null),
       ("time", (task.get? "time").getD .null)]
  | none => Json.ofMembers [("image-name", .string "NA"), ("time", .null)]

/-- Puts a text into its place in a strictly descending list. -/
def insertDescending (text : String) : List String → List String
  | [] => [text]
  | first :: rest =>
    if first < text then text :: first :: rest
    else if first = text then first :: rest
    else first :: insertDescending text rest

/-- The distinct texts of a list in descending order. -/
def descending (texts : List String) : List String :=
  texts.foldr insertDescending []

/-- The environments that a service names; other values are passed over. -/
def environmentsOf (service : Json) : List String :=
  match service.get? "environments" with
  | some (.array items) => items.filterMap Json.string?
  | _ => []

/-- The overview of a service over tasks that belong to it. -/
def overviewOf (service : Json) (tasks : List Json) : Json :=
  Json.ofMembers
    [("environments", Json.ofMembers ((environmentsOf service).map fun environment =>
        (environment, running environment tasks))),
     ("images-deployed", .ofStrings (descending (tasks.filterMap (textOf? · "image-name"))))]

/-- The overview of a service over all tasks, with the pattern of image names. -/
def overview (engine : PatternEngine) (service : Json) (tasks : List Json) (glob : String) :
    Except String Json := do
  let pattern ← engine.compile glob
  let imageName := (textOf? service "image-name").getD ""
  return overviewOf service (tasks.filter (belongs pattern imageName))

/-- The pattern of image names when none is set: what stands before the first colon. -/
def standardGlob : String := "^([^:]+)"

end Dashboard.Deployment
