import Dashboard.Account.Error

/-!
# Password rules
-/

namespace Dashboard.Account

/-- The least number of characters of a password. -/
def leastPasswordLength : Nat := 8

/-- Refuses a password that is too short. -/
def checkPassword (password : String) : Except AccountError Unit :=
  if password.toList.length < leastPasswordLength then
    .error (.weakPassword ("Password must be at least " ++ toString leastPasswordLength ++
      " characters long"))
  else .ok ()

end Dashboard.Account
