import Dashboard.Account.User
import Dashboard.Table

/-!
# The user table

Users under their names. Looking up and removing go by the normal form of the name
that is asked for, storing goes by the name that the user has.
-/

namespace Dashboard.Account

/-- The users under their names. -/
structure UserTable where
  users : Table User
  deriving DecidableEq

namespace UserTable

/-- The table without users. -/
def empty : UserTable := ⟨.empty⟩

/-- The user of a name in any spelling with the same normal form. -/
def find (table : UserTable) (username : String) : Option User :=
  table.users.get? (normalizeUsername username)

/-- Adds a user whose name is not taken. -/
def create (table : UserTable) (user : User) : Except AccountError UserTable :=
  if table.users.contains user.username then .error (.userExists user.username)
  else .ok ⟨table.users.insert user.username user⟩

/-- Replaces the user of the same name. -/
def update (table : UserTable) (user : User) : Except AccountError UserTable :=
  if table.users.contains user.username then .ok ⟨table.users.insert user.username user⟩
  else .error (.storage ("User '" ++ user.username ++ "' not found"))

/-- Removes the user of a name; the flag tells whether there was one. -/
def delete (table : UserTable) (username : String) : Bool × UserTable :=
  let key := normalizeUsername username
  (table.users.contains key, ⟨table.users.erase key⟩)

end UserTable

end Dashboard.Account
