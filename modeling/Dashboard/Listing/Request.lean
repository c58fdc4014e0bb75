import Dashboard.Json.Record
import Dashboard.Listing.Error
import Dashboard.Listing.Order
import Dashboard.Text.Ascii
import Dashboard.Text.Blank
import Dashboard.Text.Lowercase

/-!
# List requests

A request asks for one page of a collection: where it starts, how many rows it
has, the field and direction of the order, and a search term. Counts are unsigned
64-bit numbers. As query parameters a request reads

| parameter     | meaning                                     |
|---------------|---------------------------------------------|
| `pageStart`   | index of the first row, 0 by default        |
| `pageLength`  | rows of the page, at least 1, limited       |
| `sortIndex`   | field to order by; `-1` means `time`        |
| `reverseSort` | whether to order in descending direction    |
| `searchTerm`  | search text, empty for no filter            |
-/

namespace Dashboard.Listing

/-- The sort field that means that none was chosen. -/
def unsetSortField : String := "-1"

/-- The field to order by when none was chosen. -/
def defaultSortField : String := "time"

/-- The largest count. -/
def maxCount : Nat := 18446744073709551615

/-- The page length when none is asked for, and the largest that is allowed. -/
structure PageLimits where
  defaultPageLength : Nat
  maxPageLength : Nat
  deriving DecidableEq, Repr

/-- The limits of a service that sets none. -/
def PageLimits.standard : PageLimits := ⟨25, 1000⟩

/-- The form of limits in a document. -/
def PageLimits.toJson (limits : PageLimits) : Json :=
  Json.ofMembers
    [("default_page_length", .ofNat limits.defaultPageLength),
     ("max_page_length", .ofNat limits.maxPageLength)]

/-- A request for one page. -/
structure ListRequest where
  pageStart : Nat
  pageLength : Nat
  sortField : String
  descending : Bool
  searchTerm : String
  deriving DecidableEq, Repr

namespace ListRequest

/-- The first page of some length, newest first, without a filter. -/
def first (pageLength : Nat) : ListRequest :=
  { pageStart := 0
    pageLength := pageLength
    sortField := unsetSortField
    descending := true
    searchTerm := "" }

/-- The request with another first row. -/
def startingAt (request : ListRequest) (pageStart : Nat) : ListRequest :=
  { request with pageStart := pageStart }

/-- The request with another order. -/
def sortedBy (request : ListRequest) (sortField : String) (descending : Bool) : ListRequest :=
  { request with sortField := sortField, descending := descending }

/-- The request with another search term. -/
def searching (request : ListRequest) (searchTerm : String) : ListRequest :=
  { request with searchTerm := searchTerm }

/-- The field to order by. A blank field means that none was chosen. -/
def resolvedSortField (request : ListRequest) : String :=
  let field := Text.trim request.sortField
  if field = "" ∨ field = unsetSortField then defaultSortField else request.sortField

/-- The order that a request asks for. -/
def order (request : ListRequest) : SortOrder :=
  ⟨request.resolvedSortField, if request.descending then .descending else .ascending⟩

/-- The index behind the last row of the page, at most the largest count. -/
def pageEnd (request : ListRequest) : Nat :=
  min (request.pageStart + request.pageLength) maxCount

/-- The complaint about a page without rows. -/
def emptyPage : ListError := .invalidRequest "pageLength must be greater than 0"

/-- Reads a count: an optional plus sign and decimal digits, with blanks around. -/
def parseCount (name value : String) : Except ListError Nat :=
  let digits := match Text.trimChars value.toList with
    | '+' :: rest => rest
    | characters => characters
  match Text.natOfDigits? digits with
  | some count =>
    if count ≤ maxCount then .ok count
    else .error (.invalidRequest ("Invalid " ++ name ++ ": " ++ value))
  | none => .error (.invalidRequest ("Invalid " ++ name ++ ": " ++ value))

/-- Reads a flag: `true` or `1`, `false` or `0`, in any case and with blanks around. -/
def parseFlag (name value : String) : Except ListError Bool :=
  match Text.lowercase (Text.trim value) with
  | "true" | "1" => .ok true
  | "false" | "0" => .ok false
  | _ => .error (.invalidRequest ("Invalid " ++ name ++ ": " ++ value))

/-- The value of a parameter. -/
def parameter? (parameters : List (String × String)) (name : String) : Option String :=
  (parameters.find? fun parameter => parameter.1 == name).map Prod.snd

/-- Reads a parameter, or takes a value when it is missing. -/
def readParameter {α : Type} (parameters : List (String × String)) (name : String)
    (missing : α) (parse : String → String → Except ListError α) : Except ListError α :=
  match parameter? parameters name with
  | some value => parse name value
  | none => .ok missing

/-- Reads a request from query parameters, each name once. -/
def ofParameters (parameters : List (String × String)) (limits : PageLimits) :
    Except ListError ListRequest := do
  let pageStart ← readParameter parameters "pageStart" 0 parseCount
  let pageLength ←
    readParameter parameters "pageLength" limits.defaultPageLength parseCount
  if pageLength = 0 then throw emptyPage
  if limits.maxPageLength < pageLength then
    throw (.invalidRequest
      ("pageLength " ++ toString pageLength ++ " exceeds maximum " ++
        toString limits.maxPageLength))
  let descending ← readParameter parameters "reverseSort" true parseFlag
  return { pageStart := pageStart
           pageLength := pageLength
           sortField := (parameter? parameters "sortIndex").getD unsetSortField
           descending := descending
           searchTerm := (parameter? parameters "searchTerm").getD "" }

/-- Reads a request from a document with all of its fields. -/
def ofDocument? (document : Json.Document) : Option ListRequest := do
  let fields ← Json.FieldDocuments.ofDocument?
    [⟨"page_start", false⟩, ⟨"page_length", false⟩, ⟨"sort_field", false⟩,
     ⟨"descending", false⟩, ⟨"search_term", false⟩] document
  let pageStart ← fields.required? "page_start" (Json.Document.natBelow? (maxCount + 1))
  let pageLength ← fields.required? "page_length" (Json.Document.natBelow? (maxCount + 1))
  let sortField ← fields.required? "sort_field" Json.Document.text?
  let descending ← fields.required? "descending" Json.Document.flag?
  let searchTerm ← fields.required? "search_term" Json.Document.text?
  return ⟨pageStart, pageLength, sortField, descending, searchTerm⟩

/-- The form of a request in a document. -/
def toJson (request : ListRequest) : Json :=
  Json.ofMembers
    [("page_start", .ofNat request.pageStart), ("page_length", .ofNat request.pageLength),
     ("sort_field", .string request.sortField), ("descending", .bool request.descending),
     ("search_term", .string request.searchTerm)]

end ListRequest

end Dashboard.Listing
