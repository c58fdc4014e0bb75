import Dashboard.Proofs.Account.Registration

/-!
# Why a login fails

A login fails for one of four reasons: the name is blank, no user has it, the record of its user
is no record, or the record does not open with the password. Whichever it is, the answer is one
and the same and the accounts stay as they are. Without any of them the login opens one session
and does nothing else.
-/

namespace Dashboard.Account

/-- What may be wrong with a name and a password. -/
inductive LoginFault (scheme : SecretScheme) (users : UserTable) (username password : String) :
    Prop where
  | blankName (blank : Text.trim username = "")
  | unknownName (unknown : users.find username = none)
  | unreadableRecord {user} (found : users.find username = some user)
      (unreadable : scheme.opens user.passwordRecord password = none)
  | otherPassword {user} (found : users.find username = some user)
      (other : scheme.opens user.passwordRecord password = some false)

/-- Nothing is wrong exactly when the name is not blank and the record of its user opens. -/
theorem LoginFault.not_iff {scheme : SecretScheme} {users : UserTable}
    {username password : String} :
    ¬ LoginFault scheme users username password ↔
      Text.trim username ≠ "" ∧ ∃ user, users.find username = some user ∧
        scheme.opens user.passwordRecord password = some true := by
  constructor
  · intro sound
    refine ⟨fun blank => sound (.blankName blank), ?_⟩
    cases found : users.find username with
    | none => exact absurd (.unknownName found) sound
    | some user =>
      refine ⟨user, rfl, ?_⟩
      cases opened : scheme.opens user.passwordRecord password with
      | none => exact absurd (.unreadableRecord found opened) sound
      | some same =>
        cases same with
        | false => exact absurd (.otherPassword found opened) sound
        | true => rfl
  · rintro ⟨named, user, found, opened⟩ fault
    cases fault with
    | blankName blank => exact named blank
    | unknownName unknown => simp [found] at unknown
    | unreadableRecord isUser unreadable =>
      obtain rfl := Option.some.inj (found.symm.trans isUser)
      simp [opened] at unreadable
    | otherPassword isUser other =>
      obtain rfl := Option.some.inj (found.symm.trans isUser)
      simp [opened] at other

/-- A session of a user under the key of a token is all that one state of the accounts has more
than another; where the key was in use, the session replaces the one that was there. -/
structure SessionAdded (scheme : SecretScheme) (before after : Accounts) (token : String)
    (user : User) : Prop where
  users : after.users = before.users
  live : after.verify scheme token = .ok user
  others : ∀ key ≠ scheme.tokenKey token,
    after.sessions.sessions.get? key = before.sessions.sessions.get? key
  added : before.sessions.sessions.get? (scheme.tokenKey token) = none →
    after.sessions.sessions.entries =
      before.sessions.sessions.entries ++ [(scheme.tokenKey token, user)]

/-- Of the standard scheme, a record does not open at all exactly when it has not the form of
one. -/
theorem SecretScheme.opens_standard_eq_none_iff {record password : String} :
    standard.opens record password = none ↔ PasswordRecord.ofText? record = none :=
  Option.map_eq_none_iff

/-- The normal form of a name is empty exactly when the name is blank. -/
theorem normalizeUsername_eq_empty_iff {username : String} :
    normalizeUsername username = "" ↔ Text.trim username = "" := by
  refine ⟨Text.eq_empty_of_lowercase, fun blank => ?_⟩
  rw [normalizeUsername, blank]
  rfl

namespace Accounts

variable {scheme : SecretScheme} {username password : String}

/-- Of a name that is not blank, the user of the name decides. -/
theorem authenticate_of_named {users : UserTable} (named : normalizeUsername username ≠ "") :
    authenticate scheme users username password =
      match users.find username with
      | none => (.error .invalidCredentials, [])
      | some user =>
        match user.checkPassword scheme password with
        | .error error => (.error error, [])
        | .ok true => (.ok user, [])
        | .ok false =>
          (.error .invalidCredentials, [refusedEvent (normalizeUsername username)]) := by
  have again : users.find (normalizeUsername username) = users.find username := by
    rw [UserTable.find, UserTable.find, normalizeUsername_normalizeUsername]
  rewrite [authenticate, if_neg (by simpa using named), again]
  rfl

/-- Whatever is wrong, the answer is that the credentials are. -/
theorem authenticate_of_fault {users : UserTable}
    (fault : LoginFault scheme users username password) :
    ∃ events, authenticate scheme users username password =
      (.error .invalidCredentials, events) := by
  by_cases blank : normalizeUsername username = ""
  · exact ⟨[], by rw [authenticate, if_pos (by simpa using blank)]⟩
  rw [authenticate_of_named blank]
  cases fault with
  | blankName isBlank => exact absurd (normalizeUsername_eq_empty_iff.mpr isBlank) blank
  | unknownName unknown =>
    rw [unknown]
    exact ⟨_, rfl⟩
  | unreadableRecord found unreadable =>
    rw [found]
    dsimp only
    rw [User.checkPassword, unreadable]
    exact ⟨_, rfl⟩
  | otherPassword found other =>
    rw [found]
    dsimp only
    rw [User.checkPassword, other]
    exact ⟨_, rfl⟩

/-- When nothing is wrong, the user of the name is there and its record opens. -/
theorem authenticate_of_not_fault {users : UserTable}
    (sound : ¬ LoginFault scheme users username password) :
    ∃ user, users.find username = some user ∧
      scheme.opens user.passwordRecord password = some true ∧
      authenticate scheme users username password = (.ok user, []) := by
  obtain ⟨notBlank, user, found, opened⟩ := LoginFault.not_iff.mp sound
  have named := normalizeUsername_eq_empty_iff.not.mpr notBlank
  exact ⟨user, found, opened, (authenticate_of_get? named found opened).trans (if_pos rfl)⟩

variable {accounts : Accounts} (draws : Draws)

/-- Every fault has the same answer, and leaves the accounts as they are. -/
theorem login_of_fault (fault : LoginFault scheme accounts.users username password) :
    ∃ events, accounts.login scheme draws username password =
      (.error .invalidCredentials, accounts, events) := by
  obtain ⟨events, refused⟩ := authenticate_of_fault fault
  exact ⟨events, login_of_error refused⟩

/-- A session that is stored under the key of its token is the only thing added. -/
theorem sessionAdded_insert (token : String) (user : User) :
    SessionAdded scheme accounts
      ⟨accounts.users, ⟨accounts.sessions.sessions.insert (scheme.tokenKey token) user⟩⟩
      token user where
  users := rfl
  live := by rw [verify, SessionTable.find, Table.get?_insert, if_pos rfl]
  others key isOther := by rw [Table.get?_insert, if_neg isOther]
  added free := Table.entries_insert_of_absent free user

/-- Without a fault a login opens one session of the user that its name finds. -/
theorem login_of_not_fault (sound : ¬ LoginFault scheme accounts.users username password) :
    ∃ user next events, accounts.users.find username = some user ∧
      scheme.opens user.passwordRecord password = some true ∧
      accounts.login scheme draws username password =
        (.ok ⟨draws.tokenText, user.profile⟩, next, events) ∧
      SessionAdded scheme accounts next draws.tokenText user := by
  obtain ⟨user, found, opened, authentic⟩ := authenticate_of_not_fault sound
  exact ⟨user, _, _, found, opened, login_of_ok authentic, sessionAdded_insert _ user⟩

end Accounts

end Dashboard.Account
