import Dashboard.Account.Service
import Dashboard.Proofs.Table
import Dashboard.Proofs.Text.Lowercase

/-!
# What a call does to accounts

The calls that may change users or sessions, and runs of them. Each call either leaves the
accounts as they are or makes one change, and the changes are few; what a run keeps is shown
of them, without a look at how a call is carried out.
-/

namespace Dashboard.Account

/-- The normal form of a name is its own normal form. -/
theorem normalizeUsername_normalizeUsername (username : String) :
    normalizeUsername (normalizeUsername username) = normalizeUsername username := by
  rw [normalizeUsername, normalizeUsername, Text.trim_lowercase_trim, Text.lowercase_lowercase]

/-- A new user has the normal form of the name that is asked for. -/
theorem User.username_of_create {scheme : SecretScheme} {draws : Draws}
    {username password : String} {permissions : Json} {user : User}
    (created : User.create scheme draws username password permissions = .ok user) :
    user.username = normalizeUsername username := by
  unfold User.create at created
  split at created
  · cases created
  · rw [← Except.ok.inj created]

/-- Users stand under their own names in normal form, one under each name. -/
structure UserTable.Named (table : UserTable) : Prop where
  distinct : table.users.keys.Nodup
  named : ∀ entry ∈ table.users.entries,
    entry.2.username = entry.1 ∧ normalizeUsername entry.1 = entry.1

section Names

variable {table : UserTable} {user : User}

theorem UserTable.named_empty : UserTable.empty.Named where
  distinct := List.nodup_nil
  named := List.forall_mem_nil _

/-- A user that is found under some spelling of a name is stored under the name it has. -/
theorem UserTable.Named.get?_of_find (named : table.Named) {username : String}
    (found : table.find username = some user) : table.users.get? user.username = some user := by
  rw [(named.named _ (Table.mem_of_get? found)).1]
  exact found

/-- A name under which a user is stored is in normal form. -/
theorem UserTable.Named.normal_of_get? (named : table.Named) {name : String}
    (found : table.users.get? name = some user) : normalizeUsername name = name :=
  (named.named _ (Table.mem_of_get? found)).2

/-- A user with a name in normal form can be stored under it. -/
theorem UserTable.Named.insert (named : table.Named)
    (normal : normalizeUsername user.username = user.username) :
    (⟨table.users.insert user.username user⟩ : UserTable).Named := by
  refine ⟨Table.nodup_keys_insert named.distinct _ _, fun entry isEntry => ?_⟩
  rcases Table.mem_put isEntry with rfl | isOld
  · exact ⟨rfl, normal⟩
  · exact named.named entry isOld

/-- Removing a name leaves the other users under theirs. -/
theorem UserTable.Named.erase (named : table.Named) (name : String) :
    (⟨table.users.erase name⟩ : UserTable).Named :=
  ⟨Table.nodup_keys_erase named.distinct _,
    fun entry isEntry => named.named entry ((Table.remove_sublist _ _).subset isEntry)⟩

end Names

/-- A call that may change users or sessions. -/
inductive Operation where
  | createUser (draws : Draws) (registration : Registration)
  | login (draws : Draws) (username password : String)
  | logout (token : String)
  | updateUser (user : User)
  | deleteUser (username : String)

/-- A token that a login gave out, with the name of its user. -/
structure Issue where
  token : String
  username : String
  deriving DecidableEq, Repr

namespace Accounts

/-- The accounts that a call leaves: its own, or those before it when it fails. -/
def settle (accounts : Accounts) : Except AccountError Accounts → Accounts
  | .ok next => next
  | .error _ => accounts

/-- The accounts behind a call. -/
def perform (scheme : SecretScheme) (accounts : Accounts) : Operation → Accounts
  | .createUser draws registration =>
    accounts.settle ((accounts.createUser scheme draws registration).map (·.2.1))
  | .login draws username password => (accounts.login scheme draws username password).2.1
  | .logout token => (accounts.logout scheme token).2.1
  | .updateUser user => accounts.settle (accounts.updateUser user)
  | .deleteUser username => (accounts.deleteUser username).2.1

/-- The token that a call gives out, if it is a login that succeeds. -/
def issues (scheme : SecretScheme) (accounts : Accounts) : Operation → List Issue
  | .login draws username password =>
    match (accounts.login scheme draws username password).1 with
    | .ok answer => [⟨answer.token, answer.profile.username⟩]
    | .error _ => []
  | _ => []

/-- The accounts behind some calls, with all tokens that were given out. -/
def run (scheme : SecretScheme) (operations : List Operation) : Accounts × List Issue :=
  operations.foldl (fun (accounts, issued) operation =>
    (accounts.perform scheme operation, issued ++ accounts.issues scheme operation))
    (empty, [])

/-- All that a call can do to accounts, with the token that it gives out. -/
inductive Effect (scheme : SecretScheme) (accounts : Accounts) :
    Operation → Accounts → List Issue → Prop where
  | nothing {operation} : Effect scheme accounts operation accounts []
  | created {draws registration user}
      (named : user.username = normalizeUsername registration.username)
      (free : accounts.users.users.get? user.username = none) :
      Effect scheme accounts (.createUser draws registration)
        ⟨⟨accounts.users.users.insert user.username user⟩, accounts.sessions⟩ []
  | opened {draws username password user} (found : accounts.users.find username = some user) :
      Effect scheme accounts (.login draws username password)
        ⟨accounts.users,
          ⟨accounts.sessions.sessions.insert (scheme.tokenKey draws.tokenText) user⟩⟩
        [⟨draws.tokenText, user.username⟩]
  | closed {token} :
      Effect scheme accounts (.logout token)
        ⟨accounts.users, ⟨accounts.sessions.sessions.erase (scheme.tokenKey token)⟩⟩ []
  | updated {user} (present : ∃ old, accounts.users.users.get? user.username = some old) :
      Effect scheme accounts (.updateUser user)
        ⟨⟨accounts.users.users.insert user.username user⟩, (accounts.sessions.refresh user).2⟩ []
  | deleted {username} :
      Effect scheme accounts (.deleteUser username)
        ⟨⟨accounts.users.users.erase (normalizeUsername username)⟩,
          ⟨accounts.sessions.sessions.filter (·.username != normalizeUsername username)⟩⟩ []

section Effects

variable {scheme : SecretScheme} {draws : Draws} {accounts next : Accounts} {user : User}

/-- A creation that succeeds stores a user under a name that was free, and touches no session. -/
theorem createUser_eq_ok {registration : Registration} {events : List Log.Event}
    (created : accounts.createUser scheme draws registration = .ok (user, next, events)) :
    user.username = normalizeUsername registration.username ∧
      accounts.users.users.get? user.username = none ∧
      next = ⟨⟨accounts.users.users.insert user.username user⟩, accounts.sessions⟩ := by
  unfold createUser at created
  split at created
  · cases created
  · split at created
    · cases created
    · rename_i newUser made
      split at created
      · cases created
      · rename_i users stored
        cases created
        unfold UserTable.create at stored
        split at stored
        · cases stored
        · rename_i fresh
          cases stored
          exact ⟨User.username_of_create made, by simpa [Table.contains] using fresh, rfl⟩

/-- Who is authenticated is the user that the name finds. -/
theorem find_of_authenticate {users : UserTable} {username password : String}
    {events : List Log.Event}
    (authentic : authenticate scheme users username password = (.ok user, events)) :
    users.find username = some user := by
  dsimp only [authenticate] at authentic
  split at authentic
  · cases authentic
  · split at authentic
    · cases authentic
    · rename_i found
      split at authentic
      · cases authentic
      · cases authentic
        rwa [UserTable.find, normalizeUsername_normalizeUsername] at found
      · cases authentic

/-- An update that succeeds replaces a stored user, in the table and in its sessions. -/
theorem updateUser_eq_ok (updated : accounts.updateUser user = .ok next) :
    (∃ old, accounts.users.users.get? user.username = some old) ∧
      next = ⟨⟨accounts.users.users.insert user.username user⟩,
        (accounts.sessions.refresh user).2⟩ := by
  unfold updateUser at updated
  split at updated
  · cases updated
  · rename_i users stored
    cases updated
    unfold UserTable.update at stored
    split at stored
    · rename_i present
      cases stored
      exact ⟨Option.isSome_iff_exists.mp present, rfl⟩
    · cases stored

/-- A login without authentication leaves the accounts as they are. -/
theorem login_of_error {username password : String} {error : AccountError}
    {events : List Log.Event}
    (refused : authenticate scheme accounts.users username password = (.error error, events)) :
    accounts.login scheme draws username password = (.error error, accounts, events) := by
  unfold login
  rw [refused]

/-- A login of an authenticated user opens a session under the key of the drawn token. -/
theorem login_of_ok {username password : String} {events : List Log.Event}
    (authentic : authenticate scheme accounts.users username password = (.ok user, events)) :
    accounts.login scheme draws username password =
      (.ok ⟨draws.tokenText, user.profile⟩,
        ⟨accounts.users,
          ⟨accounts.sessions.sessions.insert (scheme.tokenKey draws.tokenText) user⟩⟩,
        events ++ [SessionTable.openedEvent user]) := by
  unfold login
  rw [authentic]
  rfl

/-- A login opens a session of a stored user or does nothing. -/
theorem effect_login (username password : String) :
    Effect scheme accounts (.login draws username password)
      (accounts.perform scheme (.login draws username password))
      (accounts.issues scheme (.login draws username password)) := by
  unfold perform issues
  dsimp only
  rcases authentic : authenticate scheme accounts.users username password with
    ⟨error | user, events⟩
  · rw [login_of_error authentic]
    exact .nothing
  · rw [login_of_ok authentic]
    exact .opened (find_of_authenticate authentic)

/-- A logout closes the session of a token. -/
theorem effect_logout (token : String) :
    Effect scheme accounts (.logout token) (accounts.perform scheme (.logout token))
      (accounts.issues scheme (.logout token)) := by
  unfold perform issues logout SessionTable.closeSession
  dsimp only
  cases found : accounts.sessions.sessions.get? (scheme.tokenKey token) with
  | none => exact .nothing
  | some user => exact .closed

/-- Every call does one of the things that calls do. -/
theorem perform_effect (scheme : SecretScheme) (accounts : Accounts) (operation : Operation) :
    Effect scheme accounts operation (accounts.perform scheme operation)
      (accounts.issues scheme operation) := by
  cases operation with
  | createUser draws registration =>
    unfold perform issues
    dsimp only
    cases created : accounts.createUser scheme draws registration with
    | error error => exact .nothing
    | ok answer =>
      obtain ⟨named, free, next⟩ := createUser_eq_ok created
      rw [Except.map, settle, next]
      exact .created named free
  | login draws username password => exact effect_login username password
  | logout token => exact effect_logout token
  | updateUser user =>
    unfold perform issues
    dsimp only
    cases updated : accounts.updateUser user with
    | error error => exact .nothing
    | ok answer =>
      obtain ⟨present, next⟩ := updateUser_eq_ok updated
      rw [settle, next]
      exact .updated present
  | deleteUser username => exact .deleted

/-- Every call leaves users under their own names. -/
theorem Effect.named {operation : Operation} {issued : List Issue}
    (effect : Effect scheme accounts operation next issued) (before : accounts.users.Named) :
    next.users.Named := by
  cases effect with
  | nothing | opened | closed => exact before
  | created named => exact before.insert (by rw [named, normalizeUsername_normalizeUsername])
  | updated present =>
    obtain ⟨old, found⟩ := present
    exact before.insert (before.normal_of_get? found)
  | deleted => exact before.erase _

end Effects

end Accounts

end Dashboard.Account
