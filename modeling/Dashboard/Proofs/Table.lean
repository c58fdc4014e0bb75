import Dashboard.Table

/-!
# Look-ups in tables

What a table finds after a value was put under a key or a key was removed, and where the
entries stand.
-/

namespace Dashboard.Table

variable {α : Type}

/-- A value that is put under a key is found there, and nothing else that is found changes. -/
theorem find_put (key other : String) (value : α) (entries : List (String × α)) :
    find key (put other value entries) =
      if key = other then some value else find key entries := by
  induction entries with
  | nil => simp [put, find, eq_comm]
  | cons entry rest inductionHypothesis =>
    obtain ⟨entryKey, entryValue⟩ := entry
    unfold put
    split
    · rename_i same
      subst same
      by_cases found : key = entryKey <;> simp [find, found, eq_comm]
    · rename_i differ
      by_cases found : entryKey = key
      · subst found
        simp [find, differ]
      · simp [find, found, inductionHypothesis]

/-- A value that is put under a key is what the key finds; other keys find what they
found before. -/
theorem get?_insert (table : Table α) (key other : String) (value : α) :
    (table.insert other value).get? key =
      if key = other then some value else table.get? key :=
  find_put key other value table.entries

theorem put_of_find_none {key : String} {entries : List (String × α)}
    (absent : find key entries = none) (value : α) :
    put key value entries = entries ++ [(key, value)] := by
  induction entries with
  | nil => rfl
  | cons entry rest inductionHypothesis =>
    obtain ⟨entryKey, entryValue⟩ := entry
    unfold find at absent
    split at absent
    · cases absent
    · rename_i differ
      rw [put, if_neg differ, inductionHypothesis absent, List.cons_append]

/-- A value under a new key comes behind all entries. -/
theorem entries_insert_of_absent {table : Table α} {key : String}
    (absent : table.get? key = none) (value : α) :
    (table.insert key value).entries = table.entries ++ [(key, value)] :=
  put_of_find_none absent value

/-- What a search finds stands among the entries. -/
theorem mem_of_find {key : String} {value : α} {entries : List (String × α)}
    (found : find key entries = some value) : (key, value) ∈ entries := by
  induction entries with
  | nil => cases found
  | cons entry rest inductionHypothesis =>
    unfold find at found
    split at found
    · rename_i same
      cases found
      simp [← same]
    · exact .tail _ (inductionHypothesis found)

theorem mem_of_get? {table : Table α} {key : String} {value : α}
    (found : table.get? key = some value) : (key, value) ∈ table.entries :=
  mem_of_find found

/-- What a table holds after a value was put under a key, it held before or is the value. -/
theorem mem_put {key : String} {value : α} {entry : String × α}
    {entries : List (String × α)} (member : entry ∈ put key value entries) :
    entry = (key, value) ∨ entry ∈ entries := by
  induction entries with
  | nil => exact .inl (List.mem_singleton.mp member)
  | cons other rest inductionHypothesis =>
    unfold put at member
    split at member
    · rcases List.mem_cons.mp member with isNew | isOld
      · exact .inl isNew
      · exact .inr (.tail _ isOld)
    · rcases List.mem_cons.mp member with isFirst | further
      · exact .inr (by simp [isFirst])
      · exact (inductionHypothesis further).imp_right (.tail _)

/-- A search fails exactly for the keys that do not stand in the list. -/
theorem find_eq_none_iff {key : String} {entries : List (String × α)} :
    find key entries = none ↔ key ∉ entries.map Prod.fst := by
  induction entries with
  | nil => simp [find]
  | cons entry rest inductionHypothesis =>
    unfold find
    split
    · rename_i same
      simp [same]
    · rename_i differ
      simp [inductionHypothesis, Ne.symm differ]

/-- A value that is put under a present key leaves the keys as they are. -/
theorem keys_put_of_present {key : String} {entries : List (String × α)}
    (present : key ∈ entries.map Prod.fst) (value : α) :
    (put key value entries).map Prod.fst = entries.map Prod.fst := by
  induction entries with
  | nil => cases present
  | cons entry rest inductionHypothesis =>
    unfold put
    split
    · rename_i same
      simp [same]
    · rename_i differ
      have further : key ∈ rest.map Prod.fst := by
        simpa [Ne.symm differ] using present
      rw [List.map_cons, List.map_cons, inductionHypothesis further]

/-- Keys stay distinct when a value is put under one. -/
theorem nodup_keys_insert {table : Table α} (distinct : table.keys.Nodup) (key : String)
    (value : α) : (table.insert key value).keys.Nodup := by
  cases absent : table.get? key with
  | none =>
    have fresh := find_eq_none_iff.mp absent
    rw [keys, entries_insert_of_absent absent, List.map_append]
    exact List.nodup_append.mpr ⟨distinct, by simp, by
      rintro other isOther _ (_ | ⟨_, ⟨⟩⟩) rfl
      exact fresh isOther⟩
  | some found =>
    have present : key ∈ table.keys := List.mem_map_of_mem (mem_of_get? absent)
    rwa [keys, insert, keys_put_of_present present]

/-- Removal takes entries out and moves none. -/
theorem remove_sublist (key : String) (entries : List (String × α)) :
    (remove key entries).Sublist entries := by
  induction entries with
  | nil => exact .slnil
  | cons entry rest inductionHypothesis =>
    unfold remove
    split
    · exact List.sublist_cons_self entry rest
    · exact inductionHypothesis.cons_cons entry

theorem nodup_keys_erase {table : Table α} (distinct : table.keys.Nodup) (key : String) :
    (table.erase key).keys.Nodup :=
  distinct.sublist ((remove_sublist key table.entries).map Prod.fst)

/-- Under distinct keys a removed key is not found any more, and every other one is found as
before. -/
theorem find_remove {key other : String} {entries : List (String × α)}
    (distinct : (entries.map Prod.fst).Nodup) :
    find key (remove other entries) = if key = other then none else find key entries := by
  induction entries with
  | nil => simp [remove, find]
  | cons entry rest inductionHypothesis =>
    obtain ⟨fresh, distinctRest⟩ := List.nodup_cons.mp distinct
    unfold remove
    split
    · rename_i same
      by_cases isKey : key = other
      · rw [if_pos isKey, find_eq_none_iff, isKey, ← same]
        exact fresh
      · rw [if_neg isKey, find, if_neg (by rw [same]; exact Ne.symm isKey)]
    · rename_i differ
      by_cases isEntry : entry.1 = key
      · rw [find, if_pos isEntry, find, if_pos isEntry, if_neg (by rwa [← isEntry])]
      · rw [find, if_neg isEntry, find, if_neg isEntry, inductionHypothesis distinctRest]

/-- Where keys are distinct, a key that is removed finds nothing; other keys find what they
found before. -/
theorem get?_erase {table : Table α} (distinct : table.keys.Nodup) (key other : String) :
    (table.erase other).get? key = if key = other then none else table.get? key :=
  find_remove distinct

/-- A key finds the changed value of what it found before. -/
theorem get?_map {β : Type} (table : Table α) (change : α → β) (key : String) :
    (table.map change).get? key = (table.get? key).map change := by
  have onEntries (entries : List (String × α)) :
      find key (entries.map fun entry => (entry.1, change entry.2)) =
        (find key entries).map change := by
    induction entries with
    | nil => rfl
    | cons entry rest inductionHypothesis =>
      by_cases same : entry.1 = key <;> simp [find, same, inductionHypothesis]
  exact onEntries table.entries

/-- Where keys are distinct, a key finds the value of its entry. -/
theorem get?_eq_some_iff {table : Table α} (distinct : table.keys.Nodup) {key : String}
    {value : α} : table.get? key = some value ↔ (key, value) ∈ table.entries := by
  have onEntries (entries : List (String × α)) (distinct : (entries.map Prod.fst).Nodup)
      (member : (key, value) ∈ entries) : find key entries = some value := by
    induction entries with
    | nil => cases member
    | cons entry rest inductionHypothesis =>
      obtain ⟨fresh, distinctRest⟩ := List.nodup_cons.mp distinct
      rcases List.mem_cons.mp member with isEntry | further
      · simp [find, ← isEntry]
      · have differ : entry.1 ≠ key := by
          rintro rfl
          exact fresh (List.mem_map.mpr ⟨_, further, rfl⟩)
        rw [find, if_neg differ, inductionHypothesis distinctRest further]
  exact ⟨mem_of_get?, onEntries table.entries distinct⟩

/-- The keys of a table are those under which it holds a value. -/
theorem mem_keys_iff {table : Table α} {key : String} :
    key ∈ table.keys ↔ ∃ value, table.get? key = some value := by
  rw [← Option.ne_none_iff_exists', ne_eq, get?, find_eq_none_iff, Decidable.not_not,
    keys]

theorem nodup_keys_filter {table : Table α} (distinct : table.keys.Nodup) (test : α → Bool) :
    (table.filter test).keys.Nodup :=
  distinct.sublist (List.filter_sublist.map Prod.fst)

theorem keys_map {β : Type} (table : Table α) (change : α → β) :
    (table.map change).keys = table.keys := by
  simp [keys, map, Function.comp_def]

/-- Where keys are distinct, a key finds what it found before, when that passes the test. -/
theorem get?_filter {table : Table α} (distinct : table.keys.Nodup) (test : α → Bool)
    (key : String) : (table.filter test).get? key = (table.get? key).filter test := by
  ext value
  rw [get?_eq_some_iff (nodup_keys_filter distinct test), Option.filter_eq_some_iff,
    get?_eq_some_iff distinct]
  exact List.mem_filter

end Dashboard.Table
