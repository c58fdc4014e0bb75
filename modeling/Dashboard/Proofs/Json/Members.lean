import Dashboard.Json.Record

/-!
# Members of objects

What a look-up finds after a member was put in, and how the two readings of one document
agree: a value keeps the last of several members with one key, a record refuses a known
key that is repeated. So where a record is read, both see the same document for a field.
-/

namespace Dashboard.Json

/-- A member put in is what its key finds; every other key finds what it found before. -/
theorem lookup_insertMember (key other : String) (value : Json)
    (members : List (String × Json)) :
    lookup key (insertMember other value members) =
      if key = other then some value else lookup key members := by
  induction members with
  | nil => simp [insertMember, lookup]
  | cons member rest inductionHypothesis =>
    obtain ⟨memberKey, memberValue⟩ := member
    unfold insertMember
    split
    · simp [lookup]
    · split
      · rename_i same
        subst same
        by_cases found : key = other <;> simp [lookup, found]
      · rename_i differ
        by_cases found : key = memberKey
        · simp [lookup, found, Ne.symm differ]
        · simp [lookup, found, inductionHypothesis]

/-- The members that are put in one after the other, the later over the earlier. -/
def gather (members gathered : List (String × Json)) : List (String × Json) :=
  members.foldl (fun sorted member => insertMember member.1 member.2 sorted) gathered

theorem gather_cons (key : String) (value : Json) (members gathered : List (String × Json)) :
    gather ((key, value) :: members) gathered =
      gather members (insertMember key value gathered) := rfl

/-- Members under other keys do not change what a key finds. -/
theorem lookup_gather_of_absent {key : String} {members : List (String × Json)}
    (absent : ∀ value, (key, value) ∉ members) (gathered : List (String × Json)) :
    lookup key (gather members gathered) = lookup key gathered := by
  induction members generalizing gathered with
  | nil => rfl
  | cons member rest inductionHypothesis =>
    have differ : key ≠ member.1 := by
      rintro rfl
      exact absent member.2 (by simp)
    have others : ∀ value, (key, value) ∉ rest := fun value isMember =>
      absent value (List.mem_cons_of_mem _ isMember)
    calc lookup key (gather rest (insertMember member.1 member.2 gathered))
      _ = lookup key (insertMember member.1 member.2 gathered) := inductionHypothesis others _
      _ = lookup key gathered := by rw [lookup_insertMember, if_neg differ]

/-- The last of the members with a key is the one that the key finds. -/
theorem get?_ofMembers_append {key : String} {before after : List (String × Json)}
    {value : Json} (last : ∀ other, (key, other) ∉ after) :
    (ofMembers (before ++ (key, value) :: after)).get? key = some value := by
  have gathered : ofMembers (before ++ (key, value) :: after) =
      .object (gather after (insertMember key value (gather before []))) := by
    simp [ofMembers, gather, List.foldl_append]
  rw [gathered, get?, lookup_gather_of_absent last, lookup_insertMember, if_pos rfl]

namespace FieldDocuments

theorem get?_eq_none_iff {fields : FieldDocuments} {name : String} :
    fields.get? name = none ↔ ∀ document, (name, document) ∉ fields := by
  simp only [get?, Option.map_eq_none_iff, List.find?_eq_none]
  constructor
  · intro noField document member
    exact noField _ member (by simp)
  · rintro noField ⟨other, document⟩ member isName
    cases eq_of_beq isName
    exact noField document member

theorem mem_of_get? {fields : FieldDocuments} {name : String} {document : Document}
    (found : fields.get? name = some document) : (name, document) ∈ fields := by
  obtain ⟨⟨other, _⟩, isFound, rfl⟩ := Option.map_eq_some_iff.mp found
  have isName := List.find?_some isFound
  cases eq_of_beq isName
  exact List.mem_of_find?_eq_some isFound

/-- The documents found for a field denote the value that its key finds among the members
gathered so far. -/
def Agree (name : String) (depth : Nat) (found : FieldDocuments)
    (gathered : List (String × Json)) : Prop :=
  ∀ document, (name, document) ∈ found →
    ∃ value, Document.valueWithin depth document = some value ∧
      lookup name gathered = some value

section Agreement

variable {name key : String} {depth : Nat} {found : FieldDocuments}
  {gathered : List (String × Json)} {document : Document} {value : Json}

/-- A field that was not found before agrees once its document is found and its value put in. -/
theorem Agree.first (fresh : ∀ other, (name, other) ∉ found)
    (denotes : Document.valueWithin depth document = some value) :
    Agree name depth ((name, document) :: found) (insertMember name value gathered) := by
  intro other isOther
  rcases List.mem_cons.mp isOther with isFirst | isFound
  · cases isFirst
    exact ⟨value, denotes, by rw [lookup_insertMember, if_pos rfl]⟩
  · exact absurd isFound (fresh other)

/-- A member under another key, which the record ignores, keeps a field agreeing. -/
theorem Agree.passedOver (agree : Agree name depth found gathered) (differ : key ≠ name)
    (value : Json) : Agree name depth found (insertMember key value gathered) := by
  intro other isFound
  obtain ⟨held, denotes, isHeld⟩ := agree other isFound
  exact ⟨held, denotes, by rw [lookup_insertMember, if_neg differ.symm, isHeld]⟩

/-- A document that is found under another name keeps a field agreeing. -/
theorem Agree.otherField (agree : Agree name depth found gathered) (differ : key ≠ name)
    (document : Document) : Agree name depth ((key, document) :: found) gathered := by
  intro other isOther
  rcases List.mem_cons.mp isOther with isFirst | isFound
  · cases isFirst
    exact absurd rfl differ
  · exact agree other isFound

end Agreement

/-- A known member that a record takes from an object is also the member of the value:
since it stands once, no later one comes over it. -/
theorem agree_of_ofMembers? {known : List String} {name : String}
    (isKnown : known.contains name = true) {depth : Nat}
    {members : List (Option String × Document)} {found fields : FieldDocuments}
    {values gathered : List (String × Json)}
    (taken : ofMembers? known found members = some fields)
    (read : Document.membersWithin depth members = some values)
    (agree : Agree name depth found gathered) :
    Agree name depth fields (gather values gathered) := by
  induction members generalizing found values gathered with
  | nil =>
    cases taken
    cases read
    intro document member
    exact agree document (List.mem_reverse.mp member)
  | cons first rest inductionHypothesis =>
    obtain ⟨_ | key, firstDocument⟩ := first
    · cases taken
    · simp only [Document.membersWithin, Option.bind_eq_bind, Option.bind_some,
        Option.bind_eq_some_iff, Option.pure_def, Option.some.injEq] at read
      obtain ⟨value, denotes, others, readRest, rfl⟩ := read
      rw [gather_cons]
      unfold ofMembers? at taken
      by_cases same : key = name
      · subst same
        rw [if_pos isKnown] at taken
        split at taken
        · cases taken
        · rename_i fresh
          have absent := get?_eq_none_iff.mp (Option.not_isSome_iff_eq_none.mp fresh)
          exact inductionHypothesis taken readRest (.first absent denotes)
      · have kept := agree.passedOver same value
        split at taken
        · split at taken
          · cases taken
          · exact inductionHypothesis taken readRest (kept.otherField same firstDocument)
        · exact inductionHypothesis taken readRest kept

/-- The value of a document that is an object gives each field of a record the value of
the document that the record takes for it. -/
theorem lookup_of_ofDocument? {specs : List FieldSpec} {document fieldDocument : Document}
    {fields : FieldDocuments} {members : List (String × Json)} {name : String}
    (isKnown : (specs.map FieldSpec.name).contains name = true)
    (taken : ofDocument? specs document = some fields)
    (read : document.value? = some (.object members))
    (isField : fields.get? name = some fieldDocument) :
    ∃ depth value, Document.valueWithin depth fieldDocument = some value ∧
      lookup name members = some value := by
  cases document with
  | object documents =>
    have inner : (Document.membersWithin 126 documents).map ofMembers =
        some (.object members) := read
    obtain ⟨values, readMembers, isObject⟩ := Option.map_eq_some_iff.mp inner
    cases isObject
    have nothingYet : Agree name 126 [] [] := by simp [Agree]
    have agree := agree_of_ofMembers? isKnown taken readMembers nothingYet
    exact ⟨126, agree fieldDocument (mem_of_get? isField)⟩
  | array items =>
    simp [Document.value?, Document.valueWithin, Document.maxDepth] at read
  | null | bool _ | number _ | string _ => cases taken

end FieldDocuments

namespace Document

/-- Documents that are read as texts denote the strings of these texts. -/
theorem values_of_mapM_text? {items : List Document} {texts : List String} {depth : Nat}
    {values : List Json} (read : items.mapM text? = some texts)
    (denote : valuesWithin depth items = some values) : values = texts.map .string := by
  induction items generalizing texts values with
  | nil =>
    cases read
    cases denote
    rfl
  | cons item rest inductionHypothesis =>
    simp only [List.mapM_cons, valuesWithin, Option.bind_eq_bind, Option.bind_eq_some_iff,
      Option.pure_def, Option.some.injEq] at read denote
    obtain ⟨text, isText, others, readRest, rfl⟩ := read
    obtain ⟨value, denotesFirst, values, denoteRest, rfl⟩ := denote
    have first : value = .string text := by
      cases item with
      | string held =>
        cases isText
        cases denotesFirst
        rfl
      | null | bool _ | number _ | array _ | object _ => cases isText
    rw [first, inductionHypothesis readRest denoteRest, List.map_cons]

/-- Texts read from an array are the strings of its value. -/
theorem value_of_texts? {document : Document} {texts : List String} {depth : Nat}
    {value : Json} (read : document.texts? = some texts)
    (denotes : valueWithin depth document = some value) : value = ofStrings texts := by
  cases document with
  | array items =>
    simp only [valueWithin, Option.ite_none_left_eq_some, Option.map_eq_some_iff] at denotes
    obtain ⟨_, values, readItems, rfl⟩ := denotes
    rw [values_of_mapM_text? read readItems, ofStrings]
  | null | bool _ | number _ | string _ | object _ => cases read

end Document

end Dashboard.Json
