import Dashboard.Command.Diagnosis
import Dashboard.Proofs.Permission.Combination

/-!
# What a check reads of its values

A walk along a path looks up the placeholders that the path names and no others. Values that agree
on these names are therefore checked alike. So a path without placeholders need not ask its
resolver, and the command that checks a path against all values it is given answers as the
expression of the path with these values does.
-/

namespace Dashboard.Permission

/-- Some placeholders are bound to equal values by both of two bindings, or by neither. -/
def AgreeOn (names : List String) (first second : Placeholders) : Prop :=
  ∀ name ∈ names, Json.lookup name first = Json.lookup name second

section Agreement

variable {path : Path} {first second : Placeholders}

/-- The names of a path are those of its placeholder segments. -/
theorem Path.mem_placeholderNames_iff {name : String} :
    name ∈ path.placeholderNames ↔ .placeholder name ∈ path.segments := by
  rw [placeholderNames, List.mem_filterMap]
  constructor
  · rintro ⟨segment, isSegment, isName⟩
    cases segment with
    | literal key => cases isName
    | placeholder other =>
      cases isName
      exact isSegment
  · intro isSegment
    exact ⟨_, isSegment, rfl⟩

/-- A path without placeholders has no names. -/
theorem Path.placeholderNames_of_not_hasPlaceholders (none : path.hasPlaceholders = false) :
    path.placeholderNames = [] := by
  apply List.eq_nil_iff_forall_not_mem.mpr
  intro name isName
  exact List.any_eq_false.mp none _ (mem_placeholderNames_iff.mp isName) rfl

/-- A walk only looks up the placeholders among its segments. -/
theorem walk_of_agree {segments : List Segment}
    (agree : ∀ name, .placeholder name ∈ segments →
      Json.lookup name first = Json.lookup name second) (node : Json) :
    walk first segments node = walk second segments node := by
  induction segments generalizing node with
  | nil => rfl
  | cons segment rest inductionHypothesis =>
    cases rest with
    | nil => cases segment <;> rfl
    | cons next rest =>
      have further : walk first (next :: rest) = walk second (next :: rest) :=
        funext (inductionHypothesis fun name isLater => agree name (.tail _ isLater))
      cases segment with
      | literal key => simp only [walk, further]
      | placeholder name => simp only [walk, further, agree name (.head _)]

/-- A path is evaluated alike with values that agree on its names. -/
theorem Path.evaluate_of_agree (agree : AgreeOn path.placeholderNames first second)
    (tree : Json) : path.evaluate tree first = path.evaluate tree second :=
  walk_of_agree (fun name isSegment => agree name (mem_placeholderNames_iff.mpr isSegment)) tree

/-- Without placeholders all values are alike. -/
theorem Path.evaluate_of_not_hasPlaceholders (none : path.hasPlaceholders = false) (tree : Json) :
    path.evaluate tree first = path.evaluate tree second := by
  apply evaluate_of_agree
  rw [placeholderNames_of_not_hasPlaceholders none]
  exact nofun

end Agreement

/-- A leaf without a resolver, or with one that gives values, whether the path needs them or not. -/
def Leaf.IsAnswered (context : RequestContext) (leaf : Leaf) : Prop :=
  ∀ resolve, leaf.resolver = some resolve → ∃ values, resolve context = .ok values

namespace Expression

section Asking

variable {σ : Type} {report : σ → String → σ} {tree : Json} {context : RequestContext}

/-- The values that a resolver gives, asked for any path. -/
def askedValues (resolver : Option Resolver) (context : RequestContext) :
    Except PermissionError Placeholders :=
  match resolver with
  | some resolve => resolve context
  | none => .ok []

/-- The check that asks every resolver, also that of a path without placeholders. -/
def checkAsking (report : σ → String → σ) (tree : Json) (context : RequestContext) :
    Expression → σ → Except PermissionError Bool × σ
  | .path target resolver => fun sink =>
    match askedValues resolver context with
    | .error error => (.error error, sink)
    | .ok values =>
      let outcome := target.evaluate tree values
      (.ok outcome.granted, (target.reports outcome).foldl report sink)
  | .and left right =>
    inTurn (· && ·) (checkAsking report tree context left) (checkAsking report tree context right)
  | .or left right =>
    inTurn (· || ·) (checkAsking report tree context left) (checkAsking report tree context right)

/-- Where the resolver answers, a leaf is checked as if it were always asked. -/
theorem check_path_of_answered {target : Path} {resolver : Option Resolver}
    (answered : Leaf.IsAnswered context ⟨target, resolver⟩) :
    (path target resolver).check report tree context =
      (path target resolver).checkAsking report tree context := by
  funext sink
  cases resolver with
  | none => rfl
  | some resolve =>
    obtain ⟨values, resolved⟩ := answered resolve rfl
    cases asked : target.hasPlaceholders with
    | true => simp only [check, checkAsking, valuesFor, askedValues, asked, if_true, resolved]
    | false =>
      have unread : target.evaluate tree [] = target.evaluate tree values :=
        Path.evaluate_of_not_hasPlaceholders asked tree
      simp [check, checkAsking, valuesFor, askedValues, asked, resolved, unread]

/-- Where every resolver gives values, asking it only for paths with placeholders is enough. -/
theorem check_eq_checkAsking {expression : Expression}
    (answered : ∀ leaf ∈ expression.leaves, leaf.IsAnswered context) :
    expression.check report tree context = expression.checkAsking report tree context := by
  induction expression with
  | path target resolver => exact check_path_of_answered (answered _ (by simp [leaves]))
  | and left right leftHypothesis rightHypothesis
  | or left right leftHypothesis rightHypothesis =>
    obtain ⟨answeredLeft, answeredRight⟩ := List.forall_mem_append.mp answered
    simp only [check_and, check_or_eq_inTurn, checkAsking, leftHypothesis answeredLeft,
      rightHypothesis answeredRight]

/-- An expression whose leaves are all answered comes to a decision. -/
theorem exists_check_of_answered {expression : Expression}
    (answered : ∀ leaf ∈ expression.leaves, leaf.IsAnswered context) (sink : σ) :
    ∃ decision reported, expression.check report tree context sink = (.ok decision, reported) :=
  ⟨_, _, check_of_succeeds (fun leaf isLeaf _ => answered leaf isLeaf) sink⟩

end Asking

/-- The expression of one path with fixed values is checked as the path is with these values. -/
theorem check_path_fixed {σ : Type} (report : σ → String → σ) (target : Path)
    (values : Placeholders) (tree : Json) (context : RequestContext) (sink : σ) :
    (path target (some (Resolver.fixed values))).check report tree context sink =
      (.ok (target.evaluate tree values).granted,
        (target.reports (target.evaluate tree values)).foldl report sink) := by
  have answered : Leaf.IsAnswered context ⟨target, some (Resolver.fixed values)⟩ := by
    rintro _ ⟨⟩
    exact ⟨values, rfl⟩
  rw [check_path_of_answered answered]
  rfl

end Expression

section Diagnosis

open Command (evaluatePermission readPlaceholders)

variable {tree path : String} {placeholders : Option String} {root : Json}
  {values : Placeholders} {cause : PermissionError}

/-- A JSON text is read in three steps: as its tokens, as a document, as a value. -/
theorem parse?_of_tokens {text : String} {tokens : List Json.Token} {document : Json.Document}
    (split : Json.Token.ofOctets? (Text.Utf8.ofString text) = some tokens)
    (built : Json.Document.build .value [] tokens = some document)
    (denotes : document.value? = some root) : Json.parse? text = some root := by
  rw [Json.parse?, Json.ofOctets?, Json.Document.ofOctets?, split, Option.bind_some, built,
    Option.bind_some, denotes]

/-- A tree that is no JSON text is the first thing to be refused. -/
theorem evaluatePermission_of_no_tree (noTree : Json.parse? tree = none) :
    evaluatePermission tree path placeholders = .error (.input .tree) := by
  simp only [evaluatePermission, Command.readQuestion, noTree]

/-- Behind a tree, a text that is no path is refused as its expression is. -/
theorem evaluatePermission_of_no_path {resolver : Option Resolver}
    (isTree : Json.parse? tree = some root)
    (refused : Expression.ofPath path resolver = .error cause) :
    evaluatePermission tree path placeholders = .error (.input (.path cause)) := by
  unfold Expression.ofPath at refused
  split at refused
  · cases refused
  · rename_i fault unread
    cases refused
    simp only [evaluatePermission, Command.readQuestion, isTree, unread]

/-- What the command tells of a path is what the check of its expression decides and reports. -/
theorem evaluatePermission_eq_check {expression : Expression}
    (isTree : Json.parse? tree = some root) (given : readPlaceholders placeholders = .ok values)
    (built : Expression.ofPath path (some (Resolver.fixed values)) = .ok expression)
    (context : RequestContext) :
    ∃ decision reasons,
      expression.check DenialReasons.report root context .empty = (.ok decision, reasons) ∧
      evaluatePermission tree path placeholders = .ok (Json.ofMembers
        [("allowed", .bool decision), ("reasons", .ofStrings reasons.toList)]) := by
  unfold Expression.ofPath at built
  split at built
  · rename_i target parsed
    cases built
    refine ⟨_, _, Expression.check_path_fixed _ target values root context _, ?_⟩
    simp only [evaluatePermission, Command.readQuestion, isTree, parsed, given, Except.map]
  · cases built

end Diagnosis

/-- A check reads of its values only what its paths name. Values that agree on the placeholders of
a path give the same outcome of the path, and so the same decision and reports. Where all resolvers
give values, a check decides and reports as the one that asks every resolver, also for a path
without placeholders. And the command that checks a path against an object of values answers with
the decision and the reasons of the expression of the path with these fixed values. -/
theorem checks_read_named_placeholders :
    (∀ (path : Path) (tree : Json) (first second : Placeholders),
      AgreeOn path.placeholderNames first second →
        path.evaluate tree first = path.evaluate tree second ∧
        path.reports (path.evaluate tree first) = path.reports (path.evaluate tree second)) ∧
    (∀ (σ : Type) (report : σ → String → σ) (tree : Json) (context : RequestContext)
        (expression : Expression) (sink : σ),
      (∀ leaf ∈ expression.leaves, leaf.IsAnswered context) →
        ∃ decision reported,
          expression.check report tree context sink = (.ok decision, reported) ∧
          expression.checkAsking report tree context sink = (.ok decision, reported)) ∧
    ∀ (tree path placeholders : String) (members : List (String × Json)),
      Json.parse? placeholders = some (.object members) →
        (Json.parse? tree = none →
          Command.evaluatePermission tree path (some placeholders) = .error (.input .tree)) ∧
        ∀ root, Json.parse? tree = some root →
          ∃ values, Resolver.ofJson (.object members) = .ok values ∧
            (∀ cause, Expression.ofPath path (some (Resolver.fixed values)) = .error cause →
              Command.evaluatePermission tree path (some placeholders) =
                .error (.input (.path cause))) ∧
            ∀ expression, Expression.ofPath path (some (Resolver.fixed values)) = .ok expression →
              ∀ context, ∃ decision reasons,
                expression.check DenialReasons.report root context .empty =
                  (.ok decision, reasons) ∧
                Command.evaluatePermission tree path (some placeholders) = .ok (Json.ofMembers
                  [("allowed", .bool decision), ("reasons", .ofStrings reasons.toList)]) := by
  refine ⟨fun path tree first second agree => ?_,
    fun σ report tree context expression sink answered => ?_,
    fun tree path placeholders members isObject =>
      ⟨evaluatePermission_of_no_tree, fun root isTree => ?_⟩⟩
  · have same := Path.evaluate_of_agree agree tree
    exact ⟨same, congrArg path.reports same⟩
  · obtain ⟨decision, reported, checked⟩ := Expression.exists_check_of_answered answered sink
    exact ⟨decision, reported, checked,
      (congrFun (Expression.check_eq_checkAsking answered) sink).symm.trans checked⟩
  · have given : Command.readPlaceholders (some placeholders) = .ok members := by
      simp only [Command.readPlaceholders, isObject]
    exact ⟨members, rfl, fun _ refused => evaluatePermission_of_no_path isTree refused,
      fun _ built context => evaluatePermission_eq_check isTree given built context⟩

/-- A path that fans out over two environments, one of them not in the tree. Values of another
placeholder change nothing, a resolver for the path without placeholders is asked in vain, and the
command tells the path once for the environment that is denied. -/
theorem checks_read_environments :
    let service : Path := ⟨"$env.service", [.placeholder "env", .literal "service"]⟩
    let literal : Path := ⟨"prod.service", [.literal "prod", .literal "service"]⟩
    let root : Json := .object [("prod", .array [.string "service"])]
    let bound : Placeholders := [("env", .array [.string "prod", .string "test"])]
    let more : Placeholders := ("team", .null) :: bound
    let expression : Expression := .and (.path literal (some (Resolver.fixed more)))
      (.path service (some (Resolver.fixed bound)))
    AgreeOn service.placeholderNames bound more ∧
    service.evaluate root bound = service.evaluate root more ∧
    (∀ leaf ∈ expression.leaves, leaf.IsAnswered .empty) ∧
    (∃ decision reported,
      expression.check appendReport root .empty [] = (.ok decision, reported) ∧
      expression.checkAsking appendReport root .empty [] = (.ok decision, reported)) ∧
    Json.parse? "\x7b\"env\":[\"prod\",\"test\"]\x7d" = some (.object bound) ∧
    Json.parse? "\x7b\"prod\":[\"service\"]\x7d" = some root ∧
    Command.evaluatePermission "\x7b\"prod\":[\"service\"]\x7d" "$env.service"
      (some "\x7b\"env\":[\"prod\",\"test\"]\x7d") = .ok (Json.ofMembers
        [("allowed", .bool false), ("reasons", .ofStrings ["$env.service"])]) := by
  intro service literal root bound more expression
  obtain ⟨alike, asked, told⟩ := checks_read_named_placeholders
  have agree : AgreeOn service.placeholderNames bound more := by
    intro name isName
    cases List.mem_singleton.mp (show name ∈ ["env"] from isName)
    rfl
  have answered : ∀ leaf ∈ expression.leaves, leaf.IsAnswered .empty := by
    intro leaf isLeaf
    simp only [expression, Expression.leaves, List.cons_append, List.nil_append, List.mem_cons,
      List.not_mem_nil, or_false] at isLeaf
    rcases isLeaf with rfl | rfl
    all_goals
      rintro _ ⟨⟩
      exact ⟨_, rfl⟩
  have objectTokens : Json.Token.ofOctets? (Text.Utf8.ofString
      "\x7b\"env\":[\"prod\",\"test\"]\x7d") = some [.openObject, .string (some "env"), .colon,
        .openArray, .string (some "prod"), .comma, .string (some "test"), .closeArray,
        .closeObject] := by decide
  have treeTokens : Json.Token.ofOctets? (Text.Utf8.ofString "\x7b\"prod\":[\"service\"]\x7d") =
      some [.openObject, .string (some "prod"), .colon, .openArray, .string (some "service"),
        .closeArray, .closeObject] := by decide
  have isObject : Json.parse? "\x7b\"env\":[\"prod\",\"test\"]\x7d" = some (.object bound) :=
    parse?_of_tokens objectTokens rfl rfl
  have isTree : Json.parse? "\x7b\"prod\":[\"service\"]\x7d" = some root :=
    parse?_of_tokens treeTokens rfl rfl
  obtain ⟨values, given, -, checked⟩ := (told _ "$env.service" _ _ isObject).2 root isTree
  cases given
  have decided : (Expression.path service (some (Resolver.fixed bound))).check
      DenialReasons.report root .empty .empty = (.ok false, ⟨["$env.service"]⟩) := rfl
  obtain ⟨decision, reasons, isChecked, isTold⟩ := checked _ rfl .empty
  cases decided.symm.trans isChecked
  exact ⟨agree, (alike service root bound more agree).1, answered,
    asked _ _ root .empty expression [] answered, isObject, isTree, isTold⟩

end Dashboard.Permission
