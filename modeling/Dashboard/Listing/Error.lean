import Dashboard.Query.Error

/-!
# Listing errors

What can go wrong in a record store, and in a list query over one.
-/

namespace Dashboard.Listing

/-- Why a store refuses a call. -/
inductive StorageError where
  /-- The store has no ordering for the field. -/
  | unsortableField (field : String)
  | collectionNotFound (collection : String)
  /-- A record with the primary key is there already. -/
  | duplicateKey (collection : String) (key : String)
  /-- The record is no object or lacks its primary key. -/
  | invalidRecord (reason : String)
  | unavailable (reason : String)
  deriving DecidableEq, Repr

/-- What a storage error says to a user. -/
def StorageError.message : StorageError → String
  | unsortableField field => "Cannot sort on field: " ++ field
  | collectionNotFound collection => "Collection not found: " ++ collection
  | duplicateKey collection key => "Duplicate primary key '" ++ key ++ "' in " ++ collection
  | invalidRecord reason => "Invalid record: " ++ reason
  | unavailable reason => "Storage unavailable: " ++ reason

/-- Why a list query fails. -/
inductive ListError where
  | badSearchTerm (cause : Query.SearchError)
  /-- The requested field has no ordering in the store. -/
  | unsortableField (field : String)
  | invalidRequest (reason : String)
  | storage (cause : StorageError)
  deriving DecidableEq, Repr

namespace ListError

/-- What a list error says to a user. -/
def message : ListError → String
  | badSearchTerm _ => "Bad search term"
  | unsortableField _ => "Cannot sort on requested field"
  | invalidRequest reason => "Invalid list request: " ++ reason
  | storage cause => "Storage error: " ++ cause.message

/-- The status code of the answer to a request that meets the error. -/
def status : ListError → Nat
  | badSearchTerm _ | unsortableField _ | invalidRequest _ => 400
  | storage (.collectionNotFound _) => 404
  | storage _ => 500

/-- The list error that a storage error leads to. -/
def ofStorage : StorageError → ListError
  | .unsortableField field => unsortableField field
  | cause => storage cause

end ListError

end Dashboard.Listing
