import Dashboard.Account.SessionTable
import Dashboard.Account.UserTable

/-!
# Accounts

Users and sessions together. A login looks the user up and checks the password, and
then opens a session; a deletion removes the user and then ends the sessions of the
name. The parts of both are operations of their own.
-/

namespace Dashboard.Account

/-- The users and their live sessions. -/
structure Accounts where
  users : UserTable
  sessions : SessionTable
  deriving DecidableEq

/-- What a login answers: the token, and the profile of its user. -/
structure LoginAnswer where
  token : String
  profile : UserProfile
  deriving DecidableEq, Repr

/-- The form of a login in an answer. -/
def LoginAnswer.toJson (answer : LoginAnswer) : Json :=
  Json.ofMembers [("token", .string answer.token), ("user", answer.profile.toJson)]

namespace Accounts

/-- Neither users nor sessions. -/
def empty : Accounts := ⟨.empty, .empty⟩

/-- The event of a new user. -/
def createdEvent (user : User) : Log.Event :=
  ⟨.info, "USER_CREATED", [("username", user.username)]⟩

/-- The event of a wrong password. -/
def refusedEvent (username : String) : Log.Event :=
  ⟨.warn, "LOGIN_FAILED", [("username", username)]⟩

/-- Stores the user that a registration asks for. -/
def createUser (scheme : SecretScheme) (draws : Draws) (accounts : Accounts)
    (registration : Registration) : Except AccountError (User × Accounts × List Log.Event) :=
  match registration.validate with
  | .error error => .error error
  | .ok () =>
    match User.create scheme draws registration.username registration.password
        registration.permissions with
    | .error error => .error error
    | .ok user =>
      match accounts.users.create user with
      | .error error => .error error
      | .ok users => .ok (user, { accounts with users := users }, [createdEvent user])

/-- The user whose name and password are given, and what is logged. -/
def authenticate (scheme : SecretScheme) (users : UserTable) (username password : String) :
    Except AccountError User × List Log.Event :=
  let name := normalizeUsername username
  if name.isEmpty then (.error .invalidCredentials, [])
  else match users.find name with
    | none => (.error .invalidCredentials, [])
    | some user =>
      match user.checkPassword scheme password with
      | .error error => (.error error, [])
      | .ok true => (.ok user, [])
      | .ok false => (.error .invalidCredentials, [refusedEvent name])

/-- Checks a name and a password and opens a session. -/
def login (scheme : SecretScheme) (draws : Draws) (accounts : Accounts)
    (username password : String) :
    Except AccountError LoginAnswer × Accounts × List Log.Event :=
  match authenticate scheme accounts.users username password with
  | (.error error, events) => (.error error, accounts, events)
  | (.ok user, events) =>
    let token := draws.tokenText
    let (sessions, opened) := accounts.sessions.openSession scheme token user
    (.ok ⟨token, user.profile⟩, { accounts with sessions := sessions }, events ++ opened)

/-- The user of the session of a token. -/
def verify (scheme : SecretScheme) (accounts : Accounts) (token : String) :
    Except AccountError User :=
  accounts.sessions.find scheme token

/-- Ends the session of a token; an unknown token is no error. -/
def logout (scheme : SecretScheme) (accounts : Accounts) (token : String) :
    Bool × Accounts × List Log.Event :=
  let (existed, sessions, events) := accounts.sessions.closeSession scheme token
  (existed, { accounts with sessions := sessions }, events)

/-- Replaces a user in the table and in the sessions of the name. -/
def updateUser (accounts : Accounts) (user : User) : Except AccountError Accounts :=
  match accounts.users.update user with
  | .error error => .error error
  | .ok users => .ok ⟨users, (accounts.sessions.refresh user).2⟩

/-- Removes a user from the table; the flag tells whether there was one. -/
def removeUser (accounts : Accounts) (username : String) : Bool × Accounts :=
  let (existed, users) := accounts.users.delete username
  (existed, { accounts with users := users })

/-- Ends all sessions of a name. -/
def endSessions (accounts : Accounts) (username : String) :
    Nat × Accounts × List Log.Event :=
  let (count, sessions, events) := accounts.sessions.endAll username
  (count, { accounts with sessions := sessions }, events)

/-- Removes a user and ends the sessions of the name. -/
def deleteUser (accounts : Accounts) (username : String) :
    Bool × Accounts × List Log.Event :=
  let (existed, remaining) := accounts.removeUser username
  let (_, ended, events) := remaining.endSessions username
  (existed, ended, events)

end Accounts

end Dashboard.Account
