import Dashboard.Account.Service
import Dashboard.Listing.Page
import Dashboard.Server.Settings

/-!
# The state of a server

Settings, accounts, the collections of records, and the compiled searches.
-/

namespace Dashboard.Server

/-- The collections of records. -/
inductive Shelf where
  | tasks
  | environments
  | webhooks
  | services
  | documents
  deriving DecidableEq, Repr

namespace Shelf

/-- All collections. -/
def all : List Shelf := [tasks, environments, webhooks, services, documents]

/-- The name of a collection. -/
def name : Shelf → String
  | tasks => "tasks"
  | environments => "environments"
  | webhooks => "webhooks"
  | services => "services"
  | documents => "documents"

/-- The field that tells records of a collection apart. -/
def primaryKey : Shelf → String
  | tasks => "id"
  | webhooks => "id"
  | environments => "name"
  | services => "name"
  | documents => "name"

/-- The fields besides the primary key by which a collection can be sorted. -/
def indexes : Shelf → List String
  | tasks => ["time", "event", "status"]
  | environments => ["time"]
  | webhooks => ["time"]
  | services => ["time"]
  | documents => []

end Shelf

/-- The state of a server. -/
structure ServerState where
  settings : Settings
  accounts : Account.Accounts
  records : Listing.RecordStore
  searches : QueryCache

namespace ServerState

/-- The store with all collections and no records. -/
def emptyRecords : Listing.RecordStore :=
  Shelf.all.foldl
    (fun store shelf => store.createCollection shelf.name shelf.primaryKey shelf.indexes) .empty

/-- The state at the start. -/
def start (settings : Settings) : ServerState :=
  ⟨settings, .empty, emptyRecords, .empty settings.searchCacheCapacity⟩

/-- The state with other accounts. -/
def withAccounts (state : ServerState) (accounts : Account.Accounts) : ServerState :=
  { state with accounts := accounts }

/-- The state with other records. -/
def withRecords (state : ServerState) (records : Listing.RecordStore) : ServerState :=
  { state with records := records }

/-- What the first account may do. -/
def adminPermissions : Json :=
  Json.ofMembers
    [("cion", Json.ofMembers [("user", .ofStrings ["create"]), ("config", .ofStrings ["edit"])])]

/-- The event of the first account. -/
def bootstrapEvent (user : Account.User) : Log.Event :=
  ⟨.info, "ADMIN_BOOTSTRAPPED", [("username", user.username)]⟩

/-- Adds the first account, when one is set and its name is not taken. -/
def bootstrap (scheme : Account.SecretScheme) (draws : Account.Draws) (state : ServerState) :
    Except Account.AccountError (ServerState × List Log.Event) :=
  match state.settings.bootstrapAdmin with
  | none => .ok (state, [])
  | some admin =>
    match Account.checkPassword admin.password with
    | .error error => .error error
    | .ok () =>
      if (state.accounts.users.find admin.username).isSome then .ok (state, [])
      else match Account.User.create scheme draws admin.username admin.password
          adminPermissions with
        | .error error => .error error
        | .ok user =>
          match state.accounts.users.create user with
          | .error error => .error error
          | .ok users =>
            .ok (state.withAccounts { state.accounts with users := users }, [bootstrapEvent user])

end ServerState

end Dashboard.Server
