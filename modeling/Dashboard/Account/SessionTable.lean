import Dashboard.Account.User
import Dashboard.Log
import Dashboard.Table

/-!
# The session table

Each live session is a user under the key of its token. A session keeps a copy of its
user, which a change of the user replaces in all sessions of the name.
-/

namespace Dashboard.Account

/-- The users of the live sessions under the keys of their tokens. -/
structure SessionTable where
  sessions : Table User
  deriving DecidableEq

namespace SessionTable

/-- The table without sessions. -/
def empty : SessionTable := ⟨.empty⟩

/-- The number of live sessions. -/
def size (table : SessionTable) : Nat := table.sessions.size

/-- The event of a new session. -/
def openedEvent (user : User) : Log.Event :=
  ⟨.info, "SESSION_CREATED", [("username", user.username)]⟩

/-- The event of a session that its user ended. -/
def closedEvent (user : User) : Log.Event :=
  ⟨.info, "SESSION_INVALIDATED", [("reason", "logout"), ("username", user.username)]⟩

/-- The event of the end of so many sessions of a user. -/
def endedEvent (count : Nat) (username : String) : Log.Event :=
  ⟨.info, "SESSION_INVALIDATED",
    [("count", toString count), ("reason", "user"), ("username", username)]⟩

/-- Opens the session of a token. -/
def openSession (scheme : SecretScheme) (table : SessionTable) (token : String)
    (user : User) : SessionTable × List Log.Event :=
  (⟨table.sessions.insert (scheme.tokenKey token) user⟩, [openedEvent user])

/-- The user of the session of a token. -/
def find (scheme : SecretScheme) (table : SessionTable) (token : String) :
    Except AccountError User :=
  match table.sessions.get? (scheme.tokenKey token) with
  | some user => .ok user
  | none => .error .sessionInvalid

/-- Closes the session of a token; the flag tells whether there was one. -/
def closeSession (scheme : SecretScheme) (table : SessionTable) (token : String) :
    Bool × SessionTable × List Log.Event :=
  let key := scheme.tokenKey token
  match table.sessions.get? key with
  | some user => (true, ⟨table.sessions.erase key⟩, [closedEvent user])
  | none => (false, table, [])

/-- Ends all sessions of users whose name is the normal form of a name, and counts
them. -/
def endAll (table : SessionTable) (username : String) :
    Nat × SessionTable × List Log.Event :=
  let name := normalizeUsername username
  let kept := table.sessions.filter fun user => user.username != name
  let count := table.sessions.size - kept.size
  (count, ⟨kept⟩, if 0 < count then [endedEvent count name] else [])

/-- Replaces the user in all sessions of the user's name, and counts them. -/
def refresh (table : SessionTable) (user : User) : Nat × SessionTable :=
  let isOf (other : User) : Bool := other.username == user.username
  ((table.sessions.filter isOf).size,
    ⟨table.sessions.map fun other => if isOf other then user else other⟩)

end SessionTable

end Dashboard.Account
