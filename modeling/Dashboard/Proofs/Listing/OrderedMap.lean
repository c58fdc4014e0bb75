import Dashboard.Listing.Store

/-!
# Ordered maps of records

What a record store is to its callers: under each name a map from keys to records, in the
order in which the keys came. `OrderedMaps.Step` has one rule for each thing that a call can
do to such maps, apart from any store; a store that refines them is in
`Proofs/Listing/Refinement`.
-/

namespace Dashboard.Listing

/-- The key of a record is the text under its primary key: a string as it is, a number as it
is written. Other records have none. -/
inductive HasKey (primaryKey : String) (record : Json) : String → Prop where
  | string {text} (found : record.get? primaryKey = some (.string text)) :
      HasKey primaryKey record text
  | number {value} (found : record.get? primaryKey = some (.number value)) :
      HasKey primaryKey record value.text

/-- The key of a record is the text or the number in its primary field. -/
theorem keyOf?_eq_some_iff {primaryKey key : String} {record : Json} :
    keyOf? primaryKey record = some key ↔ HasKey primaryKey record key := by
  constructor
  · intro isKey
    unfold keyOf? at isKey
    split at isKey
    · rename_i found
      cases isKey
      exact .string found
    · rename_i found
      cases isKey
      exact .number found
    · cases isKey
  · intro hasKey
    cases hasKey with
    | string found | number found => simp [keyOf?, found]

theorem keyOf?_eq_none_iff {primaryKey : String} {record : Json} :
    keyOf? primaryKey record = none ↔ ∀ key, ¬ HasKey primaryKey record key := by
  simp only [← keyOf?_eq_some_iff, Option.eq_none_iff_forall_ne_some, ne_eq]

/-- Two records have the same key. -/
def SameKey (primaryKey : String) (first second : Json) : Prop :=
  ∃ key, HasKey primaryKey first key ∧ HasKey primaryKey second key

theorem HasKey.unique {primaryKey first second : String} {record : Json}
    (isFirst : HasKey primaryKey record first) (isSecond : HasKey primaryKey record second) :
    first = second :=
  Option.some.inj ((keyOf?_eq_some_iff.mpr isFirst).symm.trans (keyOf?_eq_some_iff.mpr isSecond))

/-- A call that may change a store. -/
inductive StoreCall where
  | create (name primaryKey : String) (indexes : List String)
  | insert (name : String) (record : Json)
  | upsert (name : String) (record : Json)
  | delete (name key : String)
  deriving DecidableEq, Repr

namespace StoreCall

/-- The name of the collection that a call is about. -/
def collection : StoreCall → String
  | create name _ _ | insert name _ | upsert name _ | delete name _ => name

/-- The call creates the collection that it is about. -/
def Creates (call : StoreCall) : Prop :=
  ∃ primaryKey indexes, call = create call.collection primaryKey indexes

/-- The call brings a record to a collection. -/
def Brings (call : StoreCall) (name : String) (record : Json) : Prop :=
  call = insert name record ∨ call = upsert name record

end StoreCall

/-- What a call answers when it succeeds. -/
inductive StoreAnswer where
  | created
  /-- The key of the record that was brought. -/
  | kept (key : String)
  /-- The record of the key, if it was there. -/
  | removed (record : Option Json)
  deriving DecidableEq, Repr

/-- A map from keys to records in order, with the primary key that its keys come from. -/
structure OrderedMap where
  primaryKey : String
  entries : List (String × Json)

namespace OrderedMap

/-- The keys in order. -/
def keys (map : OrderedMap) : List String := map.entries.map Prod.fst

/-- The records in order. -/
def records (map : OrderedMap) : List Json := map.entries.map Prod.snd

end OrderedMap

/-- Ordered maps by name. -/
abbrev OrderedMaps := String → Option OrderedMap

namespace OrderedMaps

/-- No maps. -/
def empty : OrderedMaps := fun _ => none

/-- The same maps with another one under a name. -/
def set (maps : OrderedMaps) (name : String) (map : OrderedMap) : OrderedMaps :=
  fun other => if other = name then some map else maps other

/-- What a call does to ordered maps, and what it answers. A new key comes last, a record
that replaces another takes its place, and a removal leaves the others in order. -/
inductive Step (maps : OrderedMaps) :
    StoreCall → Except StorageError StoreAnswer → OrderedMaps → Prop where
  | created {name primaryKey indexes} :
      Step maps (.create name primaryKey indexes) (.ok .created) (maps.set name ⟨primaryKey, []⟩)
  | unknown {call} (noCreation : ¬ call.Creates) (missing : maps call.collection = none) :
      Step maps call (.error (.collectionNotFound call.collection)) maps
  | unusable {call name record map} (brings : call.Brings name record)
      (found : maps name = some map) (noKey : ∀ key, ¬ HasKey map.primaryKey record key) :
      Step maps call
        (.error (.invalidRecord ("missing primary key '" ++ map.primaryKey ++ "'"))) maps
  | duplicate {name record map key} (found : maps name = some map)
      (hasKey : HasKey map.primaryKey record key) (present : key ∈ map.keys) :
      Step maps (.insert name record) (.error (.duplicateKey name key)) maps
  | appended {call name record map key} (brings : call.Brings name record)
      (found : maps name = some map) (hasKey : HasKey map.primaryKey record key)
      (absent : key ∉ map.keys) :
      Step maps call (.ok (.kept key))
        (maps.set name ⟨map.primaryKey, map.entries ++ [(key, record)]⟩)
  | replaced {name record primaryKey before key old after}
      (found : maps name = some ⟨primaryKey, before ++ (key, old) :: after⟩)
      (hasKey : HasKey primaryKey record key) :
      Step maps (.upsert name record) (.ok (.kept key))
        (maps.set name ⟨primaryKey, before ++ (key, record) :: after⟩)
  | removed {name primaryKey before key record after}
      (found : maps name = some ⟨primaryKey, before ++ (key, record) :: after⟩) :
      Step maps (.delete name key) (.ok (.removed (some record)))
        (maps.set name ⟨primaryKey, before ++ after⟩)
  | nothingRemoved {name key map} (found : maps name = some map) (absent : key ∉ map.keys) :
      Step maps (.delete name key) (.ok (.removed none)) maps

/-- What some calls do to ordered maps, one after the other, and what they answer. -/
inductive Runs : OrderedMaps → List StoreCall →
    List (Except StorageError StoreAnswer) → OrderedMaps → Prop where
  | done {maps} : Runs maps [] [] maps
  | call {maps call answer next rest answers final} (step : Step maps call answer next)
      (further : Runs next rest answers final) :
      Runs maps (call :: rest) (answer :: answers) final

/-- The records under a name; none where there is no map. -/
def recordsOf (maps : OrderedMaps) (name : String) : List Json :=
  match maps name with
  | some map => map.records
  | none => []

/-- A map that is set changes the records of its own collection alone. -/
theorem recordsOf_set (maps : OrderedMaps) (name other : String) (map : OrderedMap) :
    (maps.set name map).recordsOf other =
      if other = name then map.records else maps.recordsOf other := by
  unfold recordsOf set
  by_cases same : other = name <;> simp [same]

/-- Only a creation and the removal of the last record leave a name without records that had
some before. -/
theorem Step.of_emptied {maps next : OrderedMaps} {call : StoreCall}
    {answer : Except StorageError StoreAnswer} {name : String}
    (step : Step maps call answer next) (held : maps.recordsOf name ≠ [])
    (emptied : next.recordsOf name = []) :
    call.collection = name ∧
      (call.Creates ∨ ∃ key record, call = .delete name key ∧ maps.recordsOf name = [record]) := by
  cases step with
  | unknown | unusable | duplicate | nothingRemoved => exact absurd emptied held
  | @created target primaryKey indexes =>
    rw [recordsOf_set] at emptied
    split at emptied
    · rename_i same
      exact ⟨same.symm, .inl ⟨primaryKey, indexes, rfl⟩⟩
    · exact absurd emptied held
  | appended | replaced =>
    rw [recordsOf_set] at emptied
    split at emptied
    · simp [OrderedMap.records] at emptied
    · exact absurd emptied held
  | @removed target primaryKey before key record after found =>
    rw [recordsOf_set] at emptied
    split at emptied
    · rename_i same
      subst same
      refine ⟨rfl, .inr ⟨key, record, rfl, ?_⟩⟩
      obtain ⟨rfl, rfl⟩ : before = [] ∧ after = [] := by
        simpa [OrderedMap.records] using emptied
      simp [recordsOf, found, OrderedMap.records]
    · exact absurd emptied held

/-- A key stands in a map where one of its entries does. -/
theorem mem_keys_iff {map : OrderedMap} {key : String} :
    key ∈ map.keys ↔ ∃ before record after, map.entries = before ++ (key, record) :: after := by
  constructor
  · intro isKey
    obtain ⟨⟨_, record⟩, isEntry, rfl⟩ := List.mem_map.mp isKey
    obtain ⟨before, after, split⟩ := List.append_of_mem isEntry
    exact ⟨before, record, after, split⟩
  · rintro ⟨before, record, after, split⟩
    simp [OrderedMap.keys, split]

/-- There is a rule for every call. -/
theorem exists_step (maps : OrderedMaps) (call : StoreCall) :
    ∃ answer next, Step maps call answer next := by
  by_cases creation : call.Creates
  · obtain ⟨primaryKey, indexes, isCreation⟩ := creation
    rw [isCreation]
    exact ⟨_, _, .created⟩
  cases found : maps call.collection with
  | none => exact ⟨_, _, .unknown creation found⟩
  | some map =>
    cases call with
    | create name primaryKey indexes => exact absurd ⟨primaryKey, indexes, rfl⟩ creation
    | insert name record =>
      by_cases keyed : ∃ key, HasKey map.primaryKey record key
      · obtain ⟨key, hasKey⟩ := keyed
        by_cases present : key ∈ map.keys
        · exact ⟨_, _, .duplicate found hasKey present⟩
        · exact ⟨_, _, .appended (.inl rfl) found hasKey present⟩
      · exact ⟨_, _, .unusable (.inl rfl) found (not_exists.mp keyed)⟩
    | upsert name record =>
      by_cases keyed : ∃ key, HasKey map.primaryKey record key
      · obtain ⟨key, hasKey⟩ := keyed
        by_cases present : key ∈ map.keys
        · obtain ⟨before, old, after, split⟩ := mem_keys_iff.mp present
          obtain ⟨primaryKey, entries⟩ := map
          cases split
          exact ⟨_, _, .replaced found hasKey⟩
        · exact ⟨_, _, .appended (.inr rfl) found hasKey present⟩
      · exact ⟨_, _, .unusable (.inr rfl) found (not_exists.mp keyed)⟩
    | delete name key =>
      by_cases present : key ∈ map.keys
      · obtain ⟨before, old, after, split⟩ := mem_keys_iff.mp present
        obtain ⟨primaryKey, entries⟩ := map
        cases split
        exact ⟨_, _, .removed found⟩
      · exact ⟨_, _, .nothingRemoved found present⟩

/-- Ordered maps take any calls. -/
theorem exists_runs (maps : OrderedMaps) (calls : List StoreCall) :
    ∃ answers final, Runs maps calls answers final := by
  induction calls generalizing maps with
  | nil => exact ⟨_, _, .done⟩
  | cons call rest inductionHypothesis =>
    obtain ⟨answer, next, step⟩ := exists_step maps call
    obtain ⟨answers, final, further⟩ := inductionHypothesis next
    exact ⟨_, _, .call step further⟩

end OrderedMaps

end Dashboard.Listing
