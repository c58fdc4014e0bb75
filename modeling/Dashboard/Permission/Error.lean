/-!
# Permission errors

A denied check is no error: it is an answer together with its reasons. An error
means that the check could not be carried out.
-/

namespace Dashboard.Permission

/-- Why a text is not a permission path. -/
inductive PathFault where
  | empty
  | emptySegment
  | unnamedPlaceholder
  | placeholderLeaf
  deriving DecidableEq, Repr

/-- What a fault of a path says to a user. -/
def PathFault.message : PathFault → String
  | empty => "path is empty"
  | emptySegment => "empty segment"
  | unnamedPlaceholder => "placeholder without a name"
  | placeholderLeaf => "the granted leaf cannot be a placeholder"

/-- Why a check could not be carried out. -/
inductive PermissionError where
  | invalidPath (path : String) (reason : String)
  /-- The values of placeholders could not be obtained from the request. -/
  | unresolved (reason : String)
  deriving DecidableEq, Repr

namespace PermissionError

/-- What a permission error says to a user. -/
def message : PermissionError → String
  | invalidPath path reason => "Invalid permission path '" ++ path ++ "': " ++ reason
  | unresolved reason => "Placeholder resolution failed: " ++ reason

/-- The status code of the answer to a request that meets the error. -/
def status : PermissionError → Nat
  | invalidPath _ _ => 500
  | unresolved _ => 400

end PermissionError

end Dashboard.Permission
