import Dashboard.Listing.Store
import Dashboard.Proofs.Table

/-!
# Changes of record stores

What an insertion, a replacement and a removal leave behind: one collection changes, the
others stay as they are, and an insertion adds its record at the end.
-/

namespace Dashboard.Listing

/-- A computation of two parts succeeds when both do. -/
theorem bind_eq_ok_iff {ε α β : Type} {first : Except ε α} {next : α → Except ε β}
    {value : β} :
    first >>= next = .ok value ↔ ∃ between, first = .ok between ∧ next between = .ok value := by
  cases first <;> simp [bind, Except.bind]

namespace RecordStore

variable {store after : RecordStore} {name key : String} {record : Json}

/-- The records of a collection; none when there is no collection of the name. -/
def recordsOf (store : RecordStore) (name : String) : List Json :=
  match store.collections.get? name with
  | some collection => collection.records
  | none => []

/-- At most the collection of a name differs between two stores. -/
def AgreeBut (name : String) (before after : RecordStore) : Prop :=
  ∀ other, other ≠ name → after.collections.get? other = before.collections.get? other

theorem agreeBut_refl (name : String) (store : RecordStore) : AgreeBut name store store :=
  fun _ _ => rfl

/-- A collection that is put in place leaves all others. -/
theorem agreeBut_withCollection (store : RecordStore) (name : String)
    (collection : Collection) : AgreeBut name store (store.withCollection name collection) := by
  intro other differ
  rw [withCollection, Table.get?_insert, if_neg differ]

/-- A look-up finds the collection that is stored under the name. -/
theorem find_eq_ok_iff {collection : Collection} :
    store.find name = .ok collection ↔ store.collections.get? name = some collection := by
  unfold find
  cases store.collections.get? name <;> simp

/-- An insertion that succeeds adds the record behind those of its collection. -/
theorem withCollection_of_insert (inserted : store.insert name record = .ok (key, after)) :
    ∃ collection, store.collections.get? name = some collection ∧
      collection.get? key = none ∧
      after = store.withCollection name (collection.append record) := by
  simp only [insert, bind_eq_ok_iff] at inserted
  obtain ⟨collection, found, usable, _, rest⟩ := inserted
  split at rest
  · cases rest
  · rename_i fresh
    cases rest
    exact ⟨collection, find_eq_ok_iff.mp found, Option.not_isSome_iff_eq_none.mp fresh, rfl⟩

/-- An insertion leaves all other collections as they are. -/
theorem agreeBut_of_insert (inserted : store.insert name record = .ok (key, after)) :
    AgreeBut name store after := by
  obtain ⟨collection, _, _, rfl⟩ := withCollection_of_insert inserted
  exact agreeBut_withCollection store name _

/-- An insertion that succeeds appends the record. -/
theorem recordsOf_of_insert (inserted : store.insert name record = .ok (key, after)) :
    after.recordsOf name = store.recordsOf name ++ [record] := by
  obtain ⟨collection, found, _, rfl⟩ := withCollection_of_insert inserted
  simp [recordsOf, withCollection, Table.get?_insert, found, Collection.append]

theorem agreeBut_of_upsert (put : store.upsert name record = .ok (key, after)) :
    AgreeBut name store after := by
  simp only [upsert, bind_eq_ok_iff] at put
  obtain ⟨collection, _, usable, _, rest⟩ := put
  cases rest
  exact agreeBut_withCollection store name _

theorem agreeBut_of_delete {removed : Option Json}
    (deleted : store.delete name key = .ok (removed, after)) : AgreeBut name store after := by
  simp only [delete, bind_eq_ok_iff] at deleted
  obtain ⟨collection, _, rest⟩ := deleted
  split at rest
  · cases rest
    exact agreeBut_withCollection store name _
  · cases rest
    exact agreeBut_refl name store

theorem recordsOf_of_same
    (same : after.collections.get? name = store.collections.get? name) :
    after.recordsOf name = store.recordsOf name := by
  rw [recordsOf, same, recordsOf]

/-- Where only one collection may differ, the records of the others are the same. -/
theorem recordsOf_of_agreeBut {other : String} (agree : AgreeBut name store after)
    (differ : other ≠ name) : after.recordsOf other = store.recordsOf other :=
  recordsOf_of_same (agree other differ)

end RecordStore

end Dashboard.Listing
