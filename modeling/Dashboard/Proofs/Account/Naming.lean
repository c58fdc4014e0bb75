import Dashboard.Proofs.Account.Registration

/-!
# Names as they are written

A table takes a user under the name that the user has, and looks for one under the normal form
of a name. The two fit where users have names in normal form, as registered users do. Of any
other user it is shown what the table does: it keeps the user apart from those with other
written names, it replaces the user under the written name, and it never finds the user.
-/

namespace Dashboard.Account

/-- The name of the user is in normal form. -/
def User.IsNormal (user : User) : Prop := normalizeUsername user.username = user.username

namespace UserTable

/-- A call that may change the users of a table. -/
inductive Call where
  | create (user : User)
  | update (user : User)
  | delete (username : String)

/-- A call replaces or removes the user under a written name. -/
def Call.Changes (name : String) : Call → Prop
  | create _ => False
  | update user => user.username = name
  | delete username => normalizeUsername username = name

/-- The table that a call leaves: its own, or the one before it when it fails. -/
def settle (table : UserTable) : Except AccountError UserTable → UserTable
  | .ok next => next
  | .error _ => table

/-- The table behind a call. -/
def perform (table : UserTable) : Call → UserTable
  | .create user => table.settle (table.create user)
  | .update user => table.settle (table.update user)
  | .delete username => (table.delete username).2

/-- The table behind some calls. -/
def afterCalls (calls : List Call) : UserTable := calls.foldl perform .empty

/-- Users stand under their own names as they are written, one under each name. -/
structure Written (table : UserTable) : Prop where
  distinct : table.users.keys.Nodup
  written : ∀ entry ∈ table.users.entries, entry.2.username = entry.1

/-- All that a call can do to a table. -/
inductive Effect (table : UserTable) : Call → UserTable → Prop where
  | nothing {call} : Effect table call table
  | created {user} (free : table.users.get? user.username = none) :
      Effect table (.create user) ⟨table.users.insert user.username user⟩
  | updated {user} (present : ∃ old, table.users.get? user.username = some old) :
      Effect table (.update user) ⟨table.users.insert user.username user⟩
  | deleted {username} :
      Effect table (.delete username) ⟨table.users.erase (normalizeUsername username)⟩

section Calls

variable {table next : UserTable} {call : Call} {user : User} {name : String}

/-- A creation looks for the name as it is written, and stores the user under it. -/
theorem create_eq_ok_iff :
    table.create user = .ok next ↔
      table.users.get? user.username = none ∧
        next = ⟨table.users.insert user.username user⟩ := by
  unfold create Table.contains
  cases table.users.get? user.username <;> simp [eq_comm]

/-- An update looks for the name as it is written, and replaces the user under it. -/
theorem update_eq_ok_iff :
    table.update user = .ok next ↔
      (∃ old, table.users.get? user.username = some old) ∧
        next = ⟨table.users.insert user.username user⟩ := by
  unfold update Table.contains
  cases table.users.get? user.username <;> simp [eq_comm]

/-- Every call does one of the things that calls do. -/
theorem perform_effect (table : UserTable) (call : Call) :
    Effect table call (table.perform call) := by
  cases call with
  | create user =>
    unfold perform
    dsimp only
    cases created : table.create user with
    | error error => exact .nothing
    | ok next =>
      obtain ⟨free, rfl⟩ := create_eq_ok_iff.mp created
      exact .created free
  | update user =>
    unfold perform
    dsimp only
    cases updated : table.update user with
    | error error => exact .nothing
    | ok next =>
      obtain ⟨present, rfl⟩ := update_eq_ok_iff.mp updated
      exact .updated present
  | delete username => exact .deleted

theorem written_empty : empty.Written where
  distinct := List.nodup_nil
  written := List.forall_mem_nil _

/-- A user stands under its written name behind every creation and update. -/
theorem Written.insert (written : table.Written) :
    (⟨table.users.insert user.username user⟩ : UserTable).Written := by
  refine ⟨Table.nodup_keys_insert written.distinct _ _, fun entry isEntry => ?_⟩
  rcases Table.mem_put isEntry with rfl | isOld
  · rfl
  · exact written.written entry isOld

/-- A removal leaves the other users under their written names. -/
theorem Written.erase (written : table.Written) (name : String) :
    (⟨table.users.erase name⟩ : UserTable).Written :=
  ⟨Table.nodup_keys_erase written.distinct _,
    fun entry isEntry => written.written entry ((Table.remove_sublist _ _).subset isEntry)⟩

/-- Every call leaves users under their written names. -/
theorem Effect.written (effect : Effect table call next) (before : table.Written) :
    next.Written := by
  cases effect with
  | nothing => exact before
  | created | updated => exact before.insert
  | deleted => exact before.erase _

/-- A user that is stored stays stored until it is replaced or removed under its written
name. -/
theorem Effect.get?_of_not_changes (effect : Effect table call next) (written : table.Written)
    (found : table.users.get? name = some user) (spared : ¬ call.Changes name) :
    next.users.get? name = some user := by
  cases effect with
  | nothing => exact found
  | created free =>
    rw [Table.get?_insert, if_neg, found]
    rintro rfl
    rw [free] at found
    cases found
  | updated => rw [Table.get?_insert, if_neg (Ne.symm spared), found]
  | deleted => rw [Table.get?_erase written.distinct, if_neg (Ne.symm spared), found]

/-- A table of users under names in normal form stays one, but for new users with other
names. -/
theorem Effect.named (effect : Effect table call next) (named : table.Named)
    (normal : ∀ user, call = .create user → user.IsNormal) : next.Named := by
  cases effect with
  | nothing => exact named
  | created => exact named.insert (normal _ rfl)
  | updated present =>
    obtain ⟨old, found⟩ := present
    exact named.insert (named.normal_of_get? found)
  | deleted => exact named.erase _

/-- No sequence of calls takes a user from under its written name. -/
theorem written_foldl (written : table.Written) (calls : List Call) :
    (calls.foldl perform table).Written :=
  List.foldlRecOn (motive := Written) calls perform written fun reached before call _ =>
    (perform_effect reached call).written before

/-- Behind every run users stand under their written names. -/
theorem written_afterCalls (calls : List Call) : (afterCalls calls).Written :=
  written_foldl written_empty calls

/-- When all names that are created are in normal form, users stand under normal names. -/
theorem named_afterCalls {calls : List Call}
    (normal : ∀ user, Call.create user ∈ calls → user.IsNormal) : (afterCalls calls).Named :=
  List.foldlRecOn (motive := Named) calls perform named_empty fun reached before call isCall =>
    (perform_effect reached call).named before fun user isCreation =>
      normal user (isCreation ▸ isCall)

/-- Calls that spare a name leave its user as it is. -/
theorem get?_foldl_of_not_changes {later : List Call} (written : table.Written)
    (found : table.users.get? name = some user)
    (spared : ∀ call ∈ later, ¬ call.Changes name) :
    (later.foldl perform table).users.get? name = some user := by
  induction later generalizing table with
  | nil => exact found
  | cons call later inductionHypothesis =>
    obtain ⟨first, others⟩ := List.forall_mem_cons.mp spared
    have effect := perform_effect table call
    exact inductionHypothesis (effect.written written)
      (effect.get?_of_not_changes written found first) others

end Calls

section Views

variable {table : UserTable} {user : User} {username : String}

/-- A user is stored exactly when its written name leads to it. -/
theorem Written.mem_values_iff (written : table.Written) :
    user ∈ table.users.values ↔ table.users.get? user.username = some user := by
  rw [Table.get?_eq_some_iff written.distinct]
  constructor
  · intro isValue
    obtain ⟨⟨name, _⟩, isEntry, rfl⟩ := List.mem_map.mp isValue
    rwa [written.written _ isEntry]
  · exact fun isEntry => List.mem_map_of_mem isEntry

/-- The user under a name is the stored one that is written so. -/
theorem Written.get?_eq_some_iff (written : table.Written) {name : String} :
    table.users.get? name = some user ↔ user ∈ table.users.values ∧ user.username = name := by
  constructor
  · intro found
    have isNamed : user.username = name := written.written _ (Table.mem_of_get? found)
    exact ⟨written.mem_values_iff.mpr (isNamed ▸ found), isNamed⟩
  · rintro ⟨isValue, rfl⟩
    exact written.mem_values_iff.mp isValue

/-- A name finds the stored user whose written name is its normal form. -/
theorem Written.find_eq_some_iff (written : table.Written) :
    table.find username = some user ↔
      user ∈ table.users.values ∧ user.username = normalizeUsername username :=
  written.get?_eq_some_iff

/-- No two users that are stored have one written name. -/
theorem Written.nodup_usernames (written : table.Written) :
    (table.users.values.map User.username).Nodup := by
  have areKeys : table.users.values.map User.username = table.users.keys := by
    rw [Table.values, Table.keys, List.map_map]
    exact List.map_congr_left written.written
  rw [areKeys]
  exact written.distinct

/-- A stored user is found under its own name exactly when the name is in normal form. -/
theorem Written.find_username_iff (written : table.Written) (isStored : user ∈ table.users.values) :
    table.find user.username = some user ↔ user.IsNormal := by
  rw [written.find_eq_some_iff, User.IsNormal, eq_comm (a := user.username)]
  exact and_iff_right isStored

/-- A user can be created exactly when no stored one is written the same. -/
theorem Written.create_iff (written : table.Written) :
    (∃ next, table.create user = .ok next) ↔
      ∀ stored ∈ table.users.values, stored.username ≠ user.username := by
  simp only [create_eq_ok_iff, exists_and_left, exists_eq, and_true,
    Option.eq_none_iff_forall_ne_some, ne_eq, written.get?_eq_some_iff, not_and]

theorem Written.update_iff (written : table.Written) :
    (∃ next, table.update user = .ok next) ↔
      ∃ stored ∈ table.users.values, stored.username = user.username := by
  simp only [update_eq_ok_iff, exists_and_left, exists_eq, and_true, written.get?_eq_some_iff]

/-- A removal takes away the user that its name finds, and no other. -/
theorem Written.mem_values_delete_iff (written : table.Written) :
    user ∈ (table.delete username).2.users.values ↔
      user ∈ table.users.values ∧ table.find username ≠ some user := by
  have remains : (table.delete username).2.Written := written.erase _
  rw [remains.mem_values_iff, delete, Table.get?_erase written.distinct]
  split
  case isTrue same => simp [written.find_eq_some_iff, same]
  case isFalse differs => simp [written.find_eq_some_iff, written.mem_values_iff, differs]

end Views

/-- Behind every run of calls no two users have one written name, and a name finds the user
whose written name is its normal form. A new user must have a written name that no other has; it
stays until a call replaces or removes it under that name, and is found under it exactly when it
is in normal form. A replacement wants a user of the written name, which for a name in normal
form is one that it finds. A removal takes away what its name finds. Where all new users have
names in normal form, every user that is stored is found under its name, and no two have names
with one normal form. -/
theorem users_stand_under_written_names (calls : List Call) :
    let table := afterCalls calls
    (table.users.values.map User.username).Nodup ∧
    (∀ username user, table.find username = some user ↔
      user ∈ table.users.values ∧ user.username = normalizeUsername username) ∧
    (∀ user, (∃ next, table.create user = .ok next) ↔
      ∀ stored ∈ table.users.values, stored.username ≠ user.username) ∧
    (∀ user next, table.create user = .ok next →
      ∀ later : List Call, (∀ call ∈ later, ¬ call.Changes user.username) →
      let reached := later.foldl perform next
      user ∈ reached.users.values ∧
        (reached.find user.username = some user ↔ user.IsNormal)) ∧
    (∀ user, (∃ next, table.update user = .ok next) ↔
      ∃ stored ∈ table.users.values, stored.username = user.username) ∧
    (∀ user, user.IsNormal →
      ((∃ next, table.update user = .ok next) ↔ ∃ old, table.find user.username = some old)) ∧
    (∀ username,
      ((table.delete username).1 = true ↔ ∃ user, table.find username = some user) ∧
      ∀ user, user ∈ (table.delete username).2.users.values ↔
        user ∈ table.users.values ∧ table.find username ≠ some user) ∧
    ((∀ user, Call.create user ∈ calls → user.IsNormal) →
      (∀ user ∈ table.users.values, table.find user.username = some user) ∧
      (table.users.values.map fun user => normalizeUsername user.username).Nodup) := by
  intro table
  have written : table.Written := written_afterCalls calls
  refine ⟨written.nodup_usernames, fun _ _ => written.find_eq_some_iff,
    fun _ => written.create_iff, ?creation, fun _ => written.update_iff, ?replacement,
    fun username => ⟨?removal, fun _ => written.mem_values_delete_iff⟩, ?normal⟩
  case creation =>
    intro user next created later spared reached
    obtain ⟨-, rfl⟩ := create_eq_ok_iff.mp created
    have isNew : (table.users.insert user.username user).get? user.username = some user :=
      (Table.get?_insert _ _ _ _).trans (if_pos rfl)
    have stored := get?_foldl_of_not_changes written.insert isNew spared
    have isStored := (written_foldl written.insert later).mem_values_iff.mpr stored
    exact ⟨isStored, (written_foldl written.insert later).find_username_iff isStored⟩
  case replacement =>
    intro user isNormal
    rw [written.update_iff]
    simp only [written.find_eq_some_iff]
    rw [isNormal]
  case removal => exact Option.isSome_iff_exists
  case normal =>
    intro allNormal
    have named : table.Named := named_afterCalls allNormal
    refine ⟨fun user isStored => (written.find_username_iff isStored).mpr ?_, named.nodup_normal⟩
    exact named.normal_of_get? (written.mem_values_iff.mp isStored)

/-- Beside the user of a written name in normal form there is room for one whose name is another
spelling of it. A removal by that spelling takes away the first and leaves the other, which is
stored, can be replaced, and is not found. -/
theorem twins_of_alice_stand_apart :
    let calls : List Call := [.create (Accounts.alice noPermissions)]
    let twin : User := { Accounts.alice noPermissions with username := "Alice" }
    let later : List Call := [.delete "ALICE"]
    (∀ user, Call.create user ∈ calls → user.IsNormal) ∧
    (afterCalls calls).find "Alice" = some (Accounts.alice noPermissions) ∧
    (Accounts.alice noPermissions).IsNormal ∧
    (∃ next, (afterCalls calls).update (Accounts.alice noPermissions) = .ok next) ∧
    ((afterCalls calls).users.values.map fun user => normalizeUsername user.username).Nodup ∧
    ∃ next, (afterCalls calls).create twin = .ok next ∧
      (∀ call ∈ later, ¬ call.Changes twin.username) ∧
      twin ∈ (later.foldl perform next).users.values ∧
      (later.foldl perform next).find "Alice" ≠ some twin := by
  intro calls twin later
  have spellings : normalizeUsername "alice" = "alice" ∧ normalizeUsername "Alice" = "alice" ∧
      normalizeUsername "ALICE" = "alice" := by
    decide +kernel
  obtain ⟨ofAlice, ofTwin, ofRemoval⟩ := spellings
  have allNormal : ∀ user, Call.create user ∈ calls → user.IsNormal := by
    simp [calls, User.IsNormal, Accounts.alice, ofAlice]
  have isStored : (afterCalls calls).users.values = [Accounts.alice noPermissions] := rfl
  obtain ⟨-, finds, creates, stays, -, replaces, -, normal⟩ := users_stand_under_written_names calls
  obtain ⟨next, created⟩ := (creates twin).mpr (by simp [isStored, twin, Accounts.alice])
  have spared : ∀ call ∈ later, ¬ call.Changes twin.username := by
    simp [later, Call.Changes, ofRemoval, twin]
  obtain ⟨remains, found⟩ := stays twin next created later spared
  have notNormal : ¬ twin.IsNormal := by simp [User.IsNormal, twin, ofTwin]
  have isNormal := allNormal _ (.head _)
  have isFound := (normal allNormal).1 (Accounts.alice noPermissions) (by simp [isStored])
  exact ⟨allNormal, (finds _ _).mpr ⟨by simp [isStored], ofTwin.symm⟩, isNormal,
    (replaces _ isNormal).mpr ⟨_, isFound⟩, (normal allNormal).2, next, created, spared, remains,
    found.not.mpr notNormal⟩

/-- A user under a name with a capital is stored and not found under the name. It can be
replaced all the same, and there is room for a second user whose name has the same normal form. -/
theorem capitalized_user_is_not_found :
    let user : User := ⟨"Alice", "", noPermissions, none, 0⟩
    ∃ table, empty.create user = .ok table ∧
      table.find user.username = none ∧
      (∃ next, table.update user = .ok next) ∧
      ∃ twins, table.create (Accounts.alice noPermissions) = .ok twins ∧
        ¬ (twins.users.values.map fun user => normalizeUsername user.username).Nodup := by
  refine ⟨_, rfl, ?_, ⟨_, rfl⟩, _, rfl, ?_⟩
  · decide +kernel
  · decide +kernel

end UserTable

end Dashboard.Account
