import Dashboard.Proofs.Listing.OrderedMap
import Dashboard.Proofs.Listing.Store
import Dashboard.Proofs.Number.Text
import Mathlib.Data.Option.Defs

/-!
# Record stores as ordered maps

A store refines the ordered maps of its collections: a relation between the two is kept by
every call, both sides answer alike, and the look-ups read what the maps hold. The relation
says that each record is an entry under its own key and that no key is there twice, which
the calls only ensure by scanning the records for a key.
-/

namespace Dashboard.Listing

namespace Collection

section Places

variable {test : Json → Bool} {record old : Json} {before after : List Json}

/-- The first record that passes a test is replaced where it stands. -/
theorem replaceFirst_append (noneBefore : ∀ other ∈ before, test other = false)
    (passes : test old = true) :
    replaceFirst test record (before ++ old :: after) = before ++ record :: after := by
  induction before with
  | nil => simp [replaceFirst, passes]
  | cons other rest inductionHypothesis =>
    obtain ⟨fails, noneInRest⟩ := List.forall_mem_cons.mp noneBefore
    simp [replaceFirst, fails, inductionHypothesis noneInRest]

/-- The first record that passes a test is taken out from where it stands. -/
theorem removeFirst_append (noneBefore : ∀ other ∈ before, test other = false)
    (passes : test old = true) : removeFirst test (before ++ old :: after) = before ++ after := by
  induction before with
  | nil => simp [removeFirst, passes]
  | cons other rest inductionHypothesis =>
    obtain ⟨fails, noneInRest⟩ := List.forall_mem_cons.mp noneBefore
    simp [removeFirst, fails, inductionHypothesis noneInRest]

/-- The first record that passes a test is found. -/
theorem find?_append_of_passes (noneBefore : ∀ other ∈ before, test other = false)
    (passes : test old = true) : (before ++ old :: after).find? test = some old := by
  refine List.find?_eq_some_iff_append.mpr ⟨passes, before, after, rfl, fun other isBefore => ?_⟩
  simp [noneBefore other isBefore]

end Places

/-- The records of a collection are the entries of a map, each under its own key, and no key
is there twice. -/
structure Represents (collection : Collection) (map : OrderedMap) : Prop where
  primaryKey : map.primaryKey = collection.primaryKey
  records : map.records = collection.records
  keyed : ∀ entry ∈ map.entries, HasKey map.primaryKey entry.2 entry.1
  distinct : map.keys.Nodup

theorem represents_empty (primaryKey : String) (indexes : List String) :
    (empty primaryKey indexes).Represents ⟨primaryKey, []⟩ where
  primaryKey := rfl
  records := rfl
  keyed := by simp
  distinct := .nil

theorem hasKey_iff {collection : Collection} {key : String} {record : Json} :
    collection.hasKey key record = true ↔ HasKey collection.primaryKey record key := by
  rw [hasKey, beq_iff_eq, keyOf?_eq_some_iff]

namespace Represents

variable {collection : Collection} {map : OrderedMap} {key primaryKey : String}
  {record old : Json} {before after : List (String × Json)}

/-- What has a key in the map has the same one in the collection. -/
theorem keyOf?_of_hasKey (represents : collection.Represents map)
    (hasKey : HasKey map.primaryKey record key) :
    keyOf? collection.primaryKey record = some key := by
  rw [represents.primaryKey] at hasKey
  exact keyOf?_eq_some_iff.mpr hasKey

/-- A record passes the scan for a key when that is the key of its entry. -/
theorem hasKey_iff (represents : collection.Represents map) {entry : String × Json}
    (isEntry : entry ∈ map.entries) : collection.hasKey key entry.2 = true ↔ entry.1 = key := by
  have keyed := represents.keyed entry isEntry
  rw [Collection.hasKey_iff, ← represents.primaryKey]
  constructor
  · exact keyed.unique
  · rintro rfl
    exact keyed

/-- The scan for a key passes over the entries before that of the key. -/
theorem hasKey_before
    (represents : collection.Represents ⟨primaryKey, before ++ (key, old) :: after⟩) :
    ∀ other ∈ before.map Prod.snd, collection.hasKey key other = false := by
  intro other isBefore
  obtain ⟨entry, isEntry, rfl⟩ := List.mem_map.mp isBefore
  rw [Bool.eq_false_iff, Ne, represents.hasKey_iff (by simp [isEntry])]
  have distinct := represents.distinct
  rw [OrderedMap.keys, List.map_append, List.map_cons] at distinct
  exact (List.nodup_append.mp distinct).2.2 entry.1 (List.mem_map_of_mem isEntry) key (by simp)

theorem hasKey_at (represents : collection.Represents ⟨primaryKey, before ++ (key, old) :: after⟩) :
    collection.hasKey key old = true :=
  (represents.hasKey_iff (by simp : (key, old) ∈ before ++ (key, old) :: after)).mpr rfl

theorem records_eq
    (represents : collection.Represents ⟨primaryKey, before ++ (key, old) :: after⟩) :
    collection.records = before.map Prod.snd ++ old :: after.map Prod.snd := by
  rw [← represents.records, OrderedMap.records, List.map_append, List.map_cons]

/-- A key finds the record of its entry. -/
theorem get?_of_entry
    (represents : collection.Represents ⟨primaryKey, before ++ (key, old) :: after⟩) :
    collection.get? key = some old := by
  rw [get?, represents.records_eq]
  exact find?_append_of_passes represents.hasKey_before represents.hasKey_at

/-- A key without an entry finds no record. -/
theorem get?_of_absent (represents : collection.Represents map) (absent : key ∉ map.keys) :
    collection.get? key = none := by
  rw [get?, List.find?_eq_none, ← represents.records]
  intro record isRecord
  obtain ⟨entry, isEntry, rfl⟩ := List.mem_map.mp isRecord
  rw [represents.hasKey_iff isEntry]
  rintro rfl
  exact absent (List.mem_map_of_mem isEntry)

/-- A key finds the record of its entry. -/
theorem get?_eq_some_iff (represents : collection.Represents map) :
    collection.get? key = some record ↔ (key, record) ∈ map.entries := by
  constructor
  · intro found
    have present : key ∈ map.keys := by
      apply Classical.byContradiction
      intro absent
      simp [represents.get?_of_absent absent] at found
    obtain ⟨before, held, after, split⟩ := OrderedMaps.mem_keys_iff.mp present
    obtain ⟨primaryKey, entries⟩ := map
    cases split
    cases represents.get?_of_entry.symm.trans found
    simp
  · intro isEntry
    obtain ⟨before, after, split⟩ := List.append_of_mem isEntry
    obtain ⟨primaryKey, entries⟩ := map
    cases split
    exact represents.get?_of_entry

/-- Each record of a map has a key. -/
theorem exists_hasKey (represents : collection.Represents map) :
    ∀ record ∈ collection.records, ∃ key, HasKey collection.primaryKey record key := by
  rw [← represents.records, ← represents.primaryKey]
  intro record isRecord
  obtain ⟨entry, isEntry, rfl⟩ := List.mem_map.mp isRecord
  exact ⟨entry.1, represents.keyed entry isEntry⟩

/-- No two records of a map have the same key. -/
theorem pairwise_not_sameKey (represents : collection.Represents map) :
    collection.records.Pairwise fun first second =>
      ¬ SameKey collection.primaryKey first second := by
  have distinct := represents.distinct
  rw [OrderedMap.keys, List.Nodup, List.pairwise_map] at distinct
  rw [← represents.records, ← represents.primaryKey, OrderedMap.records, List.pairwise_map]
  refine distinct.imp_of_mem fun {first second} isFirst isSecond differ => ?_
  rintro ⟨key, ofFirst, ofSecond⟩
  have firstKey := (represents.keyed first isFirst).unique ofFirst
  have secondKey := (represents.keyed second isSecond).unique ofSecond
  exact differ (firstKey.trans secondKey.symm)

/-- A record under a new key becomes the last entry. -/
theorem append (represents : collection.Represents map)
    (hasKey : HasKey map.primaryKey record key) (absent : key ∉ map.keys) :
    (collection.append record).Represents ⟨map.primaryKey, map.entries ++ [(key, record)]⟩ where
  primaryKey := represents.primaryKey
  records := by simp [OrderedMap.records, Collection.append, ← represents.records]
  keyed := by
    intro entry isEntry
    rcases List.mem_append.mp isEntry with isOld | isNew
    · exact represents.keyed entry isOld
    · cases List.mem_singleton.mp isNew
      exact hasKey
  distinct := by
    rw [OrderedMap.keys, List.map_append]
    refine List.nodup_append.mpr ⟨represents.distinct, by simp, ?_⟩
    rintro other isOther _ (_ | ⟨_, ⟨⟩⟩) rfl
    exact absent isOther

/-- A record under the key of an entry takes the place of the entry. -/
theorem put (represents : collection.Represents ⟨primaryKey, before ++ (key, old) :: after⟩)
    (hasKey : HasKey primaryKey record key) :
    (collection.put key record).Represents ⟨primaryKey, before ++ (key, record) :: after⟩ := by
  have replaced : collection.put key record =
      { collection with records := before.map Prod.snd ++ record :: after.map Prod.snd } := by
    rw [Collection.put, represents.get?_of_entry, Option.isSome_some, if_pos rfl,
      represents.records_eq, replaceFirst_append represents.hasKey_before represents.hasKey_at]
  rw [replaced]
  refine ⟨represents.primaryKey, by simp [OrderedMap.records], ?_, ?_⟩
  · intro entry isEntry
    rcases List.mem_append.mp isEntry with isBefore | isBehind
    · exact represents.keyed entry (by simp [isBefore])
    · rcases List.mem_cons.mp isBehind with rfl | isAfter
      · exact hasKey
      · exact represents.keyed entry (by simp [isAfter])
  · simpa [OrderedMap.keys] using represents.distinct

/-- A record that is put under a new key becomes the last entry. -/
theorem put_of_absent (represents : collection.Represents map)
    (hasKey : HasKey map.primaryKey record key) (absent : key ∉ map.keys) :
    (collection.put key record).Represents
      ⟨map.primaryKey, map.entries ++ [(key, record)]⟩ := by
  rw [Collection.put, represents.get?_of_absent absent]
  exact represents.append hasKey absent

/-- The entry of an erased key is gone, and the others stay in their order. -/
theorem erase (represents : collection.Represents ⟨primaryKey, before ++ (key, old) :: after⟩) :
    (collection.erase key).Represents ⟨primaryKey, before ++ after⟩ := by
  have removed : collection.erase key =
      { collection with records := before.map Prod.snd ++ after.map Prod.snd } := by
    rw [Collection.erase, represents.records_eq,
      removeFirst_append represents.hasKey_before represents.hasKey_at]
  have fewer : (before ++ after).Sublist (before ++ (key, old) :: after) :=
    List.Sublist.append_left (List.sublist_cons_self _ _) _
  rw [removed]
  refine ⟨represents.primaryKey, by simp [OrderedMap.records], ?_, ?_⟩
  · intro entry isEntry
    exact represents.keyed entry (fewer.subset isEntry)
  · exact represents.distinct.sublist (fewer.map Prod.fst)

end Represents

end Collection

namespace RecordStore

/-- The answer and the store behind a call; a call that fails leaves the store. -/
def settle {α : Type} (store : RecordStore) (answer : α → StoreAnswer) :
    Except StorageError (α × RecordStore) → Except StorageError StoreAnswer × RecordStore
  | .ok (value, after) => (.ok (answer value), after)
  | .error error => (.error error, store)

/-- What a call answers, with the store behind it. -/
def perform (store : RecordStore) :
    StoreCall → Except StorageError StoreAnswer × RecordStore
  | .create name primaryKey indexes =>
    (.ok .created, store.createCollection name primaryKey indexes)
  | .insert name record => store.settle .kept (store.insert name record)
  | .upsert name record => store.settle .kept (store.upsert name record)
  | .delete name key => store.settle .removed (store.delete name key)

/-- What some calls answer one after the other, with the store behind the last. -/
def run (store : RecordStore) :
    List StoreCall → List (Except StorageError StoreAnswer) × RecordStore
  | [] => ([], store)
  | call :: rest =>
    let (answer, next) := store.perform call
    let (answers, final) := next.run rest
    (answer :: answers, final)

/-- Each collection is the map of its name. -/
def Represents (store : RecordStore) (maps : OrderedMaps) : Prop :=
  ∀ name, Option.Rel Collection.Represents (store.collections.get? name) (maps name)

section Calls

variable {store : RecordStore} {maps next : OrderedMaps} {name key : String} {record : Json}
  {collection : Collection} {map : OrderedMap} {call : StoreCall}
  {answer : Except StorageError StoreAnswer}

theorem represents_empty : RecordStore.empty.Represents .empty := fun _ => .none

/-- A collection that is changed with its map keeps the store representing the maps. -/
theorem Represents.withCollection (represents : store.Represents maps)
    (changed : collection.Represents map) :
    (store.withCollection name collection).Represents (maps.set name map) := by
  intro other
  rw [RecordStore.withCollection, Table.get?_insert, OrderedMaps.set]
  split
  · exact .some changed
  · exact represents other

/-- A name without a map has no collection. -/
theorem Represents.get?_of_unknown (represents : store.Represents maps)
    (missing : maps name = none) : store.collections.get? name = none := by
  have related := represents name
  rw [missing] at related
  generalize store.collections.get? name = found at related ⊢
  cases related
  rfl

/-- A name with a map has a collection that represents it. -/
theorem Represents.get?_of_known (represents : store.Represents maps)
    (found : maps name = some map) :
    ∃ collection, store.collections.get? name = some collection ∧ collection.Represents map := by
  have related := represents name
  rw [found] at related
  generalize store.collections.get? name = held at related ⊢
  cases related with
  | some represented => exact ⟨_, rfl, represented⟩

/-- Every collection is some map. -/
theorem Represents.exists_map (represents : store.Represents maps)
    (isCollection : store.collections.get? name = some collection) :
    ∃ map, collection.Represents map := by
  cases found : maps name with
  | none => cases isCollection.symm.trans (represents.get?_of_unknown found)
  | some map =>
    obtain ⟨held, isHeld, represented⟩ := represents.get?_of_known found
    cases isCollection.symm.trans isHeld
    exact ⟨map, represented⟩

theorem Represents.find_of_unknown (represents : store.Represents maps)
    (missing : maps name = none) : store.find name = .error (.collectionNotFound name) := by
  rw [find, represents.get?_of_unknown missing]

theorem Represents.find_of_known (represents : store.Represents maps)
    (found : maps name = some map) :
    ∃ collection, store.find name = .ok collection ∧ collection.Represents map := by
  obtain ⟨collection, isCollection, represented⟩ := represents.get?_of_known found
  exact ⟨collection, find_eq_ok_iff.mpr isCollection, represented⟩

/-- Calls other than a creation are refused for a collection that is not there. -/
theorem perform_of_unknown (noCreation : ¬ call.Creates)
    (missing : store.find call.collection = .error (.collectionNotFound call.collection)) :
    store.perform call = (.error (.collectionNotFound call.collection), store) := by
  cases call with
  | create name primaryKey indexes => exact absurd ⟨primaryKey, indexes, rfl⟩ noCreation
  | insert name record | upsert name record | delete name key =>
    rw [StoreCall.collection] at missing
    simp [perform, insert, upsert, delete, missing, bind, Except.bind, settle,
      StoreCall.collection]

/-- A record without a key is refused before the store looks for others. -/
theorem perform_of_unusable (found : store.find name = .ok collection)
    (noKey : keyOf? collection.primaryKey record = none) (brings : call.Brings name record) :
    store.perform call =
      (.error (.invalidRecord ("missing primary key '" ++ collection.primaryKey ++ "'")),
        store) := by
  rcases brings with rfl | rfl <;>
    simp [perform, insert, upsert, found, usableKey, noKey, bind, Except.bind, settle]

/-- An insertion is refused for a key that is taken, else it appends the record. -/
theorem insert_of_keyed (found : store.find name = .ok collection)
    (isKey : keyOf? collection.primaryKey record = some key) :
    store.perform (.insert name record) =
      if (collection.get? key).isSome then (.error (.duplicateKey name key), store)
      else (.ok (.kept key), store.withCollection name (collection.append record)) := by
  cases present : (collection.get? key).isSome <;>
    simp [perform, insert, found, usableKey, isKey, present, bind, Except.bind, pure, Except.pure,
      throw, throwThe, MonadExceptOf.throw, settle]

/-- A record with a key is always put. -/
theorem upsert_of_keyed (found : store.find name = .ok collection)
    (isKey : keyOf? collection.primaryKey record = some key) :
    store.perform (.upsert name record) =
      (.ok (.kept key), store.withCollection name (collection.put key record)) := by
  simp [perform, upsert, found, usableKey, isKey, bind, Except.bind, pure, Except.pure, settle]

/-- A deletion erases the record of the key and answers with it, if there is one. -/
theorem delete_of_found (found : store.find name = .ok collection) :
    store.perform (.delete name key) =
      match collection.get? key with
      | some record =>
        (.ok (.removed (some record)), store.withCollection name (collection.erase key))
      | none => (.ok (.removed none), store) := by
  cases held : collection.get? key <;>
    simp [perform, delete, found, held, bind, Except.bind, pure, Except.pure, settle]

/-- A rule for ordered maps is what the store does that they represent. -/
theorem Represents.perform_of_step (represents : store.Represents maps)
    (step : OrderedMaps.Step maps call answer next) :
    (store.perform call).1 = answer ∧ (store.perform call).2.Represents next := by
  -- Each rule says where in the map the key stands; there, and nowhere before, the scan of the
  -- records stops.
  cases step with
  | created => exact ⟨rfl, represents.withCollection (Collection.represents_empty _ _)⟩
  | unknown noCreation missing =>
    rw [perform_of_unknown noCreation (represents.find_of_unknown missing)]
    exact ⟨rfl, represents⟩
  | unusable brings found noKey =>
    obtain ⟨collection, isCollection, represented⟩ := represents.find_of_known found
    rw [represented.primaryKey] at noKey ⊢
    rw [perform_of_unusable isCollection (keyOf?_eq_none_iff.mpr noKey) brings]
    exact ⟨rfl, represents⟩
  | duplicate found hasKey present =>
    obtain ⟨collection, isCollection, represented⟩ := represents.find_of_known found
    obtain ⟨⟨_, old⟩, isEntry, rfl⟩ := List.mem_map.mp present
    rw [insert_of_keyed isCollection (represented.keyOf?_of_hasKey hasKey),
      represented.get?_eq_some_iff.mpr isEntry]
    exact ⟨rfl, represents⟩
  | appended brings found hasKey absent =>
    obtain ⟨collection, isCollection, represented⟩ := represents.find_of_known found
    have isKey := represented.keyOf?_of_hasKey hasKey
    rcases brings with rfl | rfl
    · rw [insert_of_keyed isCollection isKey, represented.get?_of_absent absent]
      exact ⟨rfl, represents.withCollection (represented.append hasKey absent)⟩
    · rw [upsert_of_keyed isCollection isKey]
      exact ⟨rfl, represents.withCollection (represented.put_of_absent hasKey absent)⟩
  | replaced found hasKey =>
    obtain ⟨collection, isCollection, represented⟩ := represents.find_of_known found
    rw [upsert_of_keyed isCollection (represented.keyOf?_of_hasKey hasKey)]
    exact ⟨rfl, represents.withCollection (represented.put hasKey)⟩
  | removed found =>
    obtain ⟨collection, isCollection, represented⟩ := represents.find_of_known found
    rw [delete_of_found isCollection, represented.get?_of_entry]
    exact ⟨rfl, represents.withCollection represented.erase⟩
  | nothingRemoved found absent =>
    obtain ⟨collection, isCollection, represented⟩ := represents.find_of_known found
    rw [delete_of_found isCollection, represented.get?_of_absent absent]
    exact ⟨rfl, represents⟩

/-- A store lists the records of its maps, in their order. -/
theorem Represents.recordsOf (represents : store.Represents maps) (name : String) :
    store.recordsOf name = maps.recordsOf name := by
  unfold RecordStore.recordsOf OrderedMaps.recordsOf
  cases found : maps name with
  | none => rw [represents.get?_of_unknown found]
  | some map =>
    obtain ⟨collection, isCollection, represented⟩ := represents.get?_of_known found
    rw [isCollection]
    exact represented.records.symm

/-- Ordered maps that take the same calls answer alike, and hold what the store holds. -/
theorem Represents.run_of_runs {calls : List StoreCall}
    {answers : List (Except StorageError StoreAnswer)} (represents : store.Represents maps)
    (runs : OrderedMaps.Runs maps calls answers next) :
    (store.run calls).1 = answers ∧ (store.run calls).2.Represents next := by
  induction runs generalizing store with
  | done => exact ⟨rfl, represents⟩
  | call step further inductionHypothesis =>
    obtain ⟨sameAnswer, behind⟩ := represents.perform_of_step step
    obtain ⟨sameAnswers, final⟩ := inductionHypothesis behind
    exact ⟨congr (congrArg List.cons sameAnswer) sameAnswers, final⟩

/-- A call that fails leaves the store as it is. -/
theorem perform_of_error {error : StorageError}
    (failed : (store.perform call).1 = .error error) : (store.perform call).2 = store := by
  have settled {α : Type} {answer : α → StoreAnswer}
      {outcome : Except StorageError (α × RecordStore)}
      (failed : (store.settle answer outcome).1 = .error error) :
      (store.settle answer outcome).2 = store := by
    cases outcome with
    | ok _ => cases failed
    | error _ => rfl
  cases call with
  | create _ _ _ => cases failed
  | insert _ _ | upsert _ _ | delete _ _ => exact settled failed

/-- A call changes no other collection than its own. -/
theorem agreeBut_perform (store : RecordStore) (call : StoreCall) :
    AgreeBut call.collection store (store.perform call).2 := by
  have settled {α : Type} {name : String} {answer : α → StoreAnswer}
      {outcome : Except StorageError (α × RecordStore)}
      (each : ∀ value after, outcome = .ok (value, after) → AgreeBut name store after) :
      AgreeBut name store (store.settle answer outcome).2 := by
    cases outcome with
    | ok changed => exact each changed.1 changed.2 rfl
    | error _ => exact agreeBut_refl name store
  cases call with
  | create name _ _ => exact agreeBut_withCollection store name _
  | insert name record => exact settled fun _ _ => agreeBut_of_insert
  | upsert name record => exact settled fun _ _ => agreeBut_of_upsert
  | delete name key => exact settled fun _ _ => agreeBut_of_delete

/-- The look-ups of a store read some ordered maps. -/
structure ReadsAs (store : RecordStore) (maps : OrderedMaps) : Prop where
  unknown : ∀ name, maps name = none →
    (∀ key, store.get name key = .error (.collectionNotFound name)) ∧
    (∀ keep, store.scan name keep = .error (.collectionNotFound name)) ∧
    store.count name = .error (.collectionNotFound name)
  get : ∀ name map, maps name = some map → ∀ key,
    (∀ record, store.get name key = .ok (some record) ↔ (key, record) ∈ map.entries) ∧
    (store.get name key = .ok none ↔ key ∉ map.keys)
  scan : ∀ name map, maps name = some map →
    ∀ keep, store.scan name keep = .ok (map.records.filter keep)
  count : ∀ name map, maps name = some map → store.count name = .ok map.entries.length

/-- Every look-up of a store that represents maps reads them. -/
theorem Represents.readsAs (represents : store.Represents maps) : store.ReadsAs maps where
  unknown := by
    intro name missing
    have notFound := represents.find_of_unknown missing
    simp [RecordStore.get, RecordStore.scan, RecordStore.count, notFound, bind, Except.bind]
  get := by
    intro name map found key
    obtain ⟨collection, isCollection, represented⟩ := represents.find_of_known found
    have isRead : store.get name key = .ok (collection.get? key) := by
      simp [RecordStore.get, isCollection, bind, Except.bind, pure, Except.pure]
    rw [isRead]
    refine ⟨fun record => ?_, ?_⟩
    · rw [Except.ok.injEq, represented.get?_eq_some_iff]
    · rw [Except.ok.injEq]
      constructor
      · intro none isKey
        obtain ⟨⟨_, record⟩, isEntry, rfl⟩ := List.mem_map.mp isKey
        simp [represented.get?_eq_some_iff.mpr isEntry] at none
      · exact represented.get?_of_absent
  scan := by
    intro name map found keep
    obtain ⟨collection, isCollection, represented⟩ := represents.find_of_known found
    simp [RecordStore.scan, isCollection, bind, Except.bind, pure, Except.pure,
      represented.records]
  count := by
    intro name map found
    obtain ⟨collection, isCollection, represented⟩ := represents.find_of_known found
    simp [RecordStore.count, isCollection, bind, Except.bind, pure, Except.pure,
      ← represented.records, OrderedMap.records]

/-- Only a creation and the removal of the last record leave a collection without records that
had some before. -/
theorem Represents.of_emptied (represents : store.Represents maps)
    (held : store.recordsOf name ≠ []) (emptied : (store.perform call).2.recordsOf name = []) :
    call.collection = name ∧
      (call.Creates ∨ ∃ key record, call = .delete name key ∧ store.recordsOf name = [record]) := by
  obtain ⟨answer, next, step⟩ := OrderedMaps.exists_step maps call
  rw [represents.recordsOf] at held ⊢
  rw [(represents.perform_of_step step).2.recordsOf] at emptied
  exact step.of_emptied held emptied

end Calls

/-- Two keys are the same when their texts are: a whole number has the key of the string that
writes it, and no binary64 number has its key. -/
theorem sameKey_of_texts {primaryKey : String} {record other : Json} {whole : Int}
    (isWhole : record.get? primaryKey = some (.number (.int whole))) :
    (other.get? primaryKey = some (.string (toString whole)) →
      SameKey primaryKey record other) ∧
    ∀ fraction, other.get? primaryKey = some (.number (.double fraction)) →
      ¬ SameKey primaryKey record other := by
  have ofRecord : HasKey primaryKey record (toString whole) := .number isWhole
  refine ⟨fun isString => ⟨_, ofRecord, .string isString⟩, ?_⟩
  rintro fraction isFraction ⟨key, ofBoth, ofOther⟩
  have wholeText := ofRecord.unique ofBoth
  have fractionText := ofOther.unique (.number isFraction)
  exact JsonNumber.text_int_ne_text_double whole fraction (wholeText.trans fractionText)

/-- A store is ordered maps to its callers. Behind any calls each record has a key, the keys are
distinct, the answers and the look-ups are those of the maps, a call that fails changes nothing
and one that succeeds only its own collection. -/
theorem run_refines_ordered_maps (calls : List StoreCall) :
    let answers := (RecordStore.empty.run calls).1
    let store := (RecordStore.empty.run calls).2
    (∃ given maps, OrderedMaps.Runs .empty calls given maps) ∧
    (∀ given maps, OrderedMaps.Runs .empty calls given maps →
      answers = given ∧ store.Represents maps ∧ store.ReadsAs maps) ∧
    (∀ name collection, store.collections.get? name = some collection →
      (∀ record ∈ collection.records, ∃ key, HasKey collection.primaryKey record key) ∧
      collection.records.Pairwise fun first second =>
        ¬ SameKey collection.primaryKey first second) ∧
    (∀ primaryKey record other whole,
      record.get? primaryKey = some (.number (.int whole)) →
      (other.get? primaryKey = some (.string (toString whole)) →
        SameKey primaryKey record other) ∧
      ∀ fraction, other.get? primaryKey = some (.number (.double fraction)) →
        ¬ SameKey primaryKey record other) ∧
    ∀ call,
      AgreeBut call.collection store (store.perform call).2 ∧
      (∀ error, (store.perform call).1 = .error error → (store.perform call).2 = store) ∧
      ∀ name, store.recordsOf name ≠ [] → (store.perform call).2.recordsOf name = [] →
        call.collection = name ∧
          (call.Creates ∨
            ∃ key record, call = .delete name key ∧ store.recordsOf name = [record]) := by
  intro answers store
  obtain ⟨given, maps, runs⟩ := OrderedMaps.exists_runs .empty calls
  have represents : store.Represents maps := (represents_empty.run_of_runs runs).2
  refine ⟨⟨given, maps, runs⟩, ?_, ?_, ?_, ?_⟩
  · intro given maps runs
    obtain ⟨sameAnswers, represented⟩ := represents_empty.run_of_runs runs
    exact ⟨sameAnswers, represented, represented.readsAs⟩
  · intro name collection isCollection
    obtain ⟨map, represented⟩ := represents.exists_map isCollection
    exact ⟨represented.exists_hasKey, represented.pairwise_not_sameKey⟩
  · intro primaryKey record other whole isWhole
    exact sameKey_of_texts isWhole
  · intro call
    exact ⟨agreeBut_perform store call, fun _ => perform_of_error,
      fun _ => represents.of_emptied⟩

/-- The number 1 and the string "1" are one key, and 1.0 is another: the string takes the place
of the number, and 1.0 stays behind the two when the key 1 is removed. -/
theorem run_refines_ordered_maps_with_mixed_keys :
    let keyed (key : Json) : Json := .object [("id", key)]
    let whole := keyed (.number (.int 1))
    let text := keyed (.string "1")
    let fraction := keyed (.number (.double ⟨false, Nat.pow 2 52, -52⟩))
    let before : List StoreCall :=
      [.create "orders" "id" [], .insert "orders" whole, .insert "orders" fraction,
        .insert "orders" text, .upsert "orders" text]
    let after := before ++ [.upsert "orders" .null, .insert "bills" whole, .delete "orders" "1"]
    (∃ maps, OrderedMaps.Runs .empty before
        [.ok .created, .ok (.kept "1"), .ok (.kept "1.0"), .error (.duplicateKey "orders" "1"),
          .ok (.kept "1")] maps ∧
      maps.recordsOf "orders" = [text, fraction]) ∧
    ∃ maps, OrderedMaps.Runs .empty after
        [.ok .created, .ok (.kept "1"), .ok (.kept "1.0"), .error (.duplicateKey "orders" "1"),
          .ok (.kept "1"), .error (.invalidRecord "missing primary key 'id'"),
          .error (.collectionNotFound "bills"), .ok (.removed (some text))] maps ∧
      maps.recordsOf "orders" = [fraction] := by
  intro keyed whole text fraction before after
  have told (calls : List StoreCall) {answers : List (Except StorageError StoreAnswer)}
      {records : List Json} (answered : (empty.run calls).1 = answers)
      (left : (empty.run calls).2.recordsOf "orders" = records) :
      ∃ maps, OrderedMaps.Runs .empty calls answers maps ∧ maps.recordsOf "orders" = records := by
    obtain ⟨⟨given, maps, runs⟩, agree, -⟩ := run_refines_ordered_maps calls
    obtain ⟨same, represents, -⟩ := agree given maps runs
    rw [← answered, ← left, same, represents.recordsOf]
    exact ⟨maps, runs, rfl⟩
  exact ⟨told before rfl rfl, told after rfl rfl⟩

end RecordStore

end Dashboard.Listing
