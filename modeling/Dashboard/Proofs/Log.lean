import Dashboard.Log
import Dashboard.Proofs.Json.Keys
import Dashboard.Proofs.Json.Quoted

/-!
# What a log line says

A printed line holds one event and nothing else: it ends with its only control, and as a JSON
text it has the event, the severity and the fields, each with its text. No text of a field can end
the line or stand outside of its quotes, whoever chose it.
-/

namespace Dashboard.Log.Event

open Json

variable {event : Event} {fields : List (String × String)}

/-- The keys of the fields are told apart, from each other and from the two keys of every line. -/
structure KeysApart (event : Event) : Prop where
  distinct : (event.fields.map Prod.fst).Nodup
  noName : "event" ∉ event.fields.map Prod.fst
  noSeverity : "severity" ∉ event.fields.map Prod.fst

/-- What an event says with its fields in some order. -/
def entries (event : Event) (fields : List (String × String)) : List (String × String) :=
  ("event", event.name) :: ("severity", event.severity.text) :: fields

/-- Where the keys of the fields are told apart, the line repeats none of its keys. -/
theorem nodup_entries (apart : event.KeysApart) :
    ((event.entries event.fields).map Prod.fst).Nodup := by
  have differ : "event" ≠ "severity" := by decide
  refine List.nodup_cons.mpr ⟨?_, List.nodup_cons.mpr ⟨apart.noSeverity, apart.distinct⟩⟩
  exact List.not_mem_cons_of_ne_of_not_mem differ apart.noName

/-- A line opens with its event and its severity, and its fields follow in the order of their
keys. -/
theorem line_eq (event : Event) :
    event.line = "\x7b" ++ memberText ("event", event.name) ++
      furtherText (("severity", event.severity.text) :: event.sortedFields) ++ "\x7d" := by
  have name : quote "event" = "\"event\"" := by decide
  have severity : quote "severity" = "\"severity\"" := by decide
  have field : fieldText = fun field => "," ++ memberText field := by
    funext field
    simp only [fieldText, memberText, String.append_assoc]
  rw [line, furtherText_cons, furtherText, memberText, memberText, name, severity, field]
  simp only [String.append_assoc]
  rfl

/-- Sorting the fields loses none of them and repeats none. -/
theorem sortedFields_perm (event : Event) : event.sortedFields.Perm event.fields :=
  List.mergeSort_perm _ _

/-- The fields of a line are in the strict order of their keys. -/
theorem pairwise_sortedFields (apart : event.KeysApart) :
    event.sortedFields.Pairwise fun left right => left.1 < right.1 := by
  have trans : ∀ first second third : String × String, decide (first.1 ≤ second.1) = true →
      decide (second.1 ≤ third.1) = true → decide (first.1 ≤ third.1) = true := by
    simp only [decide_eq_true_eq]
    exact fun _ _ _ => String.le_trans
  have total : ∀ left right : String × String,
      (decide (left.1 ≤ right.1) || decide (right.1 ≤ left.1)) = true := by
    simp only [Bool.or_eq_true, decide_eq_true_eq]
    exact fun _ _ => String.le_total _ _
  have inOrder : event.sortedFields.Pairwise fun left right => left.1 ≤ right.1 :=
    (List.pairwise_mergeSort trans total event.fields).imp of_decide_eq_true
  have differ : event.sortedFields.Pairwise fun left right => left.1 ≠ right.1 := by
    rw [← List.pairwise_map (R := (· ≠ ·))]
    exact ((event.sortedFields_perm.map Prod.fst).nodup_iff).mpr apart.distinct
  exact (inOrder.and differ).imp fun ⟨notAfter, differ⟩ =>
    Text.lt_of_not_lt_of_ne (String.not_lt.mpr notAfter) differ.symm

/-- The order in which an event is given its fields makes no difference. -/
theorem sortedFields_of_perm (apart : event.KeysApart) {other : Event}
    (reordered : other.fields.Perm event.fields) : other.sortedFields = event.sortedFields := by
  have otherApart : other.KeysApart :=
    ⟨((reordered.map Prod.fst).nodup_iff).mpr apart.distinct,
      fun held => apart.noName ((reordered.map Prod.fst).mem_iff.mp held),
      fun held => apart.noSeverity ((reordered.map Prod.fst).mem_iff.mp held)⟩
  refine List.Perm.eq_of_pairwise (fun _ _ _ _ before after => ?_)
    (pairwise_sortedFields otherApart) (pairwise_sortedFields apart)
    ((other.sortedFields_perm.trans reordered).trans event.sortedFields_perm.symm)
  exact absurd after (String.lt_asymm before)

/-- The octets of the keys are in the order of the keys. -/
theorem pairwise_octets (inOrder : fields.Pairwise fun left right => left.1 < right.1) :
    (fields.map fun field => Text.Utf8.ofString field.1).Pairwise (· < ·) := by
  rw [List.pairwise_map]
  exact inOrder.imp fun less => (Text.Utf8.ofString_lt_iff _ _).mpr less

/-- A printed line is its event and nothing else. It is one line, the newline at its end is its
only control, and what stands before is the text of an object: as written it has the name, then
the severity, then the fields in the order of the octets of their keys, and as a value it has
exactly these, each with the text that the event was given. In whatever order the event was given
its fields, the line is the same. -/
theorem printed_line_is_its_event (event : Event) (apart : event.KeysApart) :
    ∃ body, event.printed = body ++ "\n" ∧
      (∀ character ∈ body.toList, 0x20 ≤ character.toNat) ∧
      (∃ fields, fields.Perm event.fields ∧
        (fields.map fun field => Text.Utf8.ofString field.1).Pairwise (· < ·) ∧
        Document.ofOctets? (Text.Utf8.ofString body) =
          some (.object ((event.entries fields).map fun entry =>
            (some entry.1, .string (some entry.2))))) ∧
      (∃ members, parse? body = some (.object members) ∧
        members.Perm ((event.entries event.fields).map fun entry => (entry.1, .string entry.2))) ∧
      ∀ other : Event, other.severity = event.severity → other.name = event.name →
        other.fields.Perm event.fields → other.printed = event.printed := by
  have written : Document.ofOctets? (Text.Utf8.ofString event.line) =
      some (.object ((event.entries event.sortedFields).map Document.ofTextMember)) := by
    rw [line_eq, Document.ofOctets?_object]
    rfl
  have sorted : (event.entries event.sortedFields).Perm (event.entries event.fields) :=
    (event.sortedFields_perm.cons _).cons _
  refine ⟨event.line, rfl, ?_, ⟨event.sortedFields, event.sortedFields_perm,
    pairwise_octets (pairwise_sortedFields apart), written⟩, ?_, ?_⟩
  · rw [line_eq]
    exact noControl_object _ _
  · have distinct : (((event.entries event.sortedFields).map fun entry =>
        (entry.1, Json.string entry.2)).map Prod.fst).Nodup := by
      rw [List.map_map]
      exact ((sorted.map Prod.fst).nodup_iff).mpr (nodup_entries apart)
    obtain ⟨members, isObject, held⟩ := ofMembers_perm distinct
    refine ⟨members, ?_, held.trans (sorted.map _)⟩
    rw [parse?, ofOctets?, written, Option.bind_some, Document.value?_object, isObject]
  · intro other sameSeverity sameName reordered
    rw [printed, printed, line_eq, line_eq, sameSeverity, sameName,
      sortedFields_of_perm apart reordered]

/-- A user name that looks like the end of a line and the start of another one. -/
def forgedName : String := "x\"\x7d\n\x7b\"event\":\"ADMIN_BOOTSTRAPPED\",\"name\":\"\\"

/-- The event of a login under such a name. -/
def forgedEvent : Event :=
  ⟨.warn, "LOGIN_FAILED", [("username", forgedName), ("\u00e9", "\x00\u2028"), ("\t", "")]⟩

/-- The line of such a login is one line and one event, with the name as it was given. -/
theorem forged_line_is_its_event :
    forgedEvent.KeysApart ∧ '\n' ∈ forgedName.toList ∧
    ∃ body members, forgedEvent.printed = body ++ "\n" ∧ '\n' ∉ body.toList ∧
      Json.parse? body = some (.object members) ∧ members.length = 5 ∧
      ("username", .string forgedName) ∈ members ∧ ("event", .string "LOGIN_FAILED") ∈ members ∧
      (Event.mk .warn "LOGIN_FAILED" forgedEvent.fields.reverse).printed = forgedEvent.printed := by
  have apart : forgedEvent.KeysApart :=
    ⟨by decide +kernel, by decide +kernel, by decide +kernel⟩
  obtain ⟨body, isPrinted, noControl, -, ⟨members, read, held⟩, reordered⟩ :=
    printed_line_is_its_event forgedEvent apart
  refine ⟨apart, by decide +kernel, body, members, isPrinted, fun newline => ?_, read,
    held.length_eq, held.mem_iff.mpr ?_, held.mem_iff.mpr ?_,
    reordered _ rfl rfl (List.reverse_perm _)⟩
  · exact absurd (noControl '\n' newline) (by decide)
  · exact .tail _ (.tail _ (.head _))
  · exact .head _

end Dashboard.Log.Event
