import Dashboard.Proofs.Listing.Store
import Dashboard.Server.Respond

/-!
# What requests change

Besides sessions and compiled searches, a request can change one user table and one
collection of records. `Effect` lists the changes once, action by action;
`respond_effect` brings every answered request back to it. Whatever is proved of all
requests is then a case analysis over effects.
-/

namespace Dashboard.Server

/-- The part of a state that outlasts sessions: the users, or a collection of records. -/
inductive Store where
  | users
  | shelf (shelf : Shelf)
  deriving DecidableEq, Repr

/-- A store is not the same in two states. -/
def Differs (before after : ServerState) : Store → Prop
  | .users => after.accounts.users ≠ before.accounts.users
  | .shelf shelf =>
    after.records.collections.get? shelf.name ≠ before.records.collections.get? shelf.name

/-- The store that an action may change. -/
def Action.store? : Action → Option Store
  | .createUser => some .users
  | .createEnvironment => some (.shelf .environments)
  | .createWebhook | .deleteWebhook => some (.shelf .webhooks)
  | .createService => some (.shelf .services)
  | .saveDocument => some (.shelf .documents)
  | .showHealth | .login | .checkToken | .logout | .list _ | .showWebhook | .showService
  | .listDocuments | .showDocument => none

/-- The record that an action adds to a collection, made of what the body gives. -/
inductive Adds (draws : Account.Draws) (body : List UInt8) : Action → Shelf → Json → Prop where
  | environment {form}
      (read : (Json.Document.ofOctets? body).bind Deployment.EnvironmentForm.ofDocument? =
        some form) : Adds draws body .createEnvironment .environments (form.record draws.now)
  | webhook {form}
      (read : (Json.Document.ofOctets? body).bind Deployment.WebhookForm.ofDocument? =
        some form) :
      Adds draws body .createWebhook .webhooks
        (form.record (Text.identifier draws.identifier) draws.now)
  | service {form}
      (read : (Json.Document.ofOctets? body).bind Deployment.ServiceForm.ofDocument? =
        some form) : Adds draws body .createService .services (form.record draws.now)

/-- What an action leaves of a state, with the status of its answer. -/
inductive Effect (draws : Account.Draws) (body : List UInt8) (before : ServerState)
    (status : Nat) (after : ServerState) : Action → Prop where
  | nothing {action} (users : after.accounts.users = before.accounts.users)
      (records : after.records = before.records) :
      Effect draws body before status after action
  | userAdded {user users} (created : before.accounts.users.create user = .ok users)
      (usersAfter : after.accounts.users = users) (records : after.records = before.records)
      (succeeded : status < 400) : Effect draws body before status after .createUser
  | recordAdded {action shelf record key} (adds : Adds draws body action shelf record)
      (users : after.accounts.users = before.accounts.users)
      (inserted : before.records.insert shelf.name record = .ok (key, after.records))
      (succeeded : status < 400) : Effect draws body before status after action
  | webhookRemoved {key removed} (users : after.accounts.users = before.accounts.users)
      (deleted : before.records.delete Shelf.webhooks.name key = .ok (removed, after.records))
      (succeeded : status < 400) : Effect draws body before status after .deleteWebhook
  | documentSaved {document key} (users : after.accounts.users = before.accounts.users)
      (upserted : before.records.upsert Shelf.documents.name document =
        .ok (key, after.records))
      (succeeded : status < 400) : Effect draws body before status after .saveDocument

section Actions

variable {draws : Account.Draws} {scheme : Account.SecretScheme} {engine : PatternEngine}
  {state : ServerState} {request : Http.Request} {action : Action}

/-- An outcome has an effect when its state and the status of its answer have it. -/
abbrev Outcome.HasEffect (outcome : Outcome) (draws : Account.Draws) (body : List UInt8)
    (before : ServerState) (action : Action) : Prop :=
  Effect draws body before outcome.response.status outcome.state action

/-- A body that is too long has no effect, so what is done with the others decides. -/
theorem effect_withBody {act : List UInt8 → Outcome}
    (whenRead : (act request.body).HasEffect draws request.body state action) :
    (withBody state request act).HasEffect draws request.body state action := by
  unfold withBody
  split
  · exact .nothing rfl rfl
  · exact whenRead

/-- A body that is no form has no effect, so what is done with the others decides. -/
theorem effect_withForm {α : Type} {read : Json.Document → Option α} {act : α → Outcome}
    (whenRead : ∀ form, (Json.Document.ofOctets? request.body).bind read = some form →
      (act form).HasEffect draws request.body state action) :
    (withForm state request read act).HasEffect draws request.body state action := by
  unfold withForm
  apply effect_withBody
  split
  · exact .nothing rfl rfl
  · rename_i form isForm
    exact whenRead form isForm

/-- A parameter that cannot be read has no effect, so what is done with the others decides. -/
theorem effect_withParameter {resource : Resource} {act : String → Outcome}
    (whenRead : ∀ value, (act value).HasEffect draws request.body state action) :
    (withParameter state resource act).HasEffect draws request.body state action := by
  unfold withParameter
  split
  · exact .nothing rfl rfl
  · split
    · exact whenRead _
    · exact .nothing rfl rfl

/-- Adding a record adds it and answers with success, or does nothing. -/
theorem effect_addRecord {shelf : Shelf} {record : Json} {taken : String → RequestError}
    {answer : Http.Response} (adds : Adds draws request.body action shelf record)
    (succeeded : answer.status < 400) :
    (addRecord state shelf record taken answer).HasEffect draws request.body state action := by
  unfold addRecord
  split
  · exact .nothing rfl rfl
  · exact .nothing rfl rfl
  · rename_i inserted
    exact .recordAdded adds rfl inserted succeeded

/-- A registration adds a user and answers with success, or does nothing. -/
theorem effect_createUser (registration : Account.Registration) :
    (createUser scheme draws state registration).HasEffect draws request.body state
      .createUser := by
  unfold createUser
  split
  · exact .nothing rfl rfl
  · rename_i user accounts events created
    unfold Account.Accounts.createUser at created
    split at created
    · cases created
    · split at created
      · cases created
      · split at created
        · cases created
        · rename_i users stored
          cases created
          exact .userAdded stored rfl rfl (by decide : 201 < 400)

/-- A login leaves the users as they are, whether it succeeds or not. -/
theorem users_login (scheme : Account.SecretScheme) (draws : Account.Draws)
    (accounts : Account.Accounts) (username password : String) :
    (accounts.login scheme draws username password).2.1.users = accounts.users := by
  unfold Account.Accounts.login
  split <;> rfl

/-- A login touches neither users nor records. -/
theorem effect_login (body : List UInt8) :
    (login scheme draws state body).HasEffect draws request.body state .login := by
  unfold login
  split
  · exact .nothing rfl rfl
  · rename_i credentials _
    have users := users_login scheme draws state.accounts credentials.username
      credentials.password
    split
    · rename_i answered
      rw [answered] at users
      exact .nothing users rfl
    · rename_i answered
      rw [answered] at users
      exact .nothing users rfl

/-- A listing touches neither users nor records. -/
theorem effect_list (shelf : Shelf) :
    (list engine state shelf request).HasEffect draws request.body state action := by
  unfold list
  split
  · exact .nothing rfl rfl
  · dsimp only
    split <;> exact .nothing rfl rfl

/-- The creation of a service adds its record, or does nothing. -/
theorem effect_createService {form : Deployment.ServiceForm}
    (read : (Json.Document.ofOctets? request.body).bind Deployment.ServiceForm.ofDocument? =
      some form) :
    (createService draws state form).HasEffect draws request.body state .createService := by
  unfold createService
  split
  · exact .nothing rfl rfl
  · exact effect_addRecord (.service read) (by decide)

/-- The deletion of a webhook removes it and answers with success, or does nothing. -/
theorem effect_deleteWebhook (key : String) :
    (deleteWebhook state key).HasEffect draws request.body state .deleteWebhook := by
  unfold deleteWebhook
  split
  · exact .nothing rfl rfl
  · exact .nothing rfl rfl
  · rename_i deleted
    exact .webhookRemoved rfl deleted (by decide : 200 < 400)

/-- A document is saved with an answer of success, or nothing is done. -/
theorem effect_saveDocument (document : Json) :
    (saveDocument state document).HasEffect draws request.body state .saveDocument := by
  unfold saveDocument
  split
  · exact .nothing rfl rfl
  · split
    · exact .nothing rfl rfl
    · rename_i upserted
      exact .documentSaved rfl upserted (by decide : 201 < 400)

theorem effect_showRecord (shelf : Shelf) (kind key : String) :
    (showRecord state shelf kind key).HasEffect draws request.body state action := by
  unfold showRecord
  split <;> exact .nothing rfl rfl

theorem effect_showService (name : String) :
    (showService engine state name).HasEffect draws request.body state action := by
  unfold showService
  split <;> exact .nothing rfl rfl

theorem effect_listDocuments :
    (listDocuments state).HasEffect draws request.body state action := by
  unfold listDocuments
  split <;> exact .nothing rfl rfl

/-- Every action has one of the effects that are listed for it. -/
theorem effect_perform (resource : Resource) (user : Option Account.User) (action : Action) :
    (perform scheme engine draws state resource request user action).HasEffect draws request.body
      state action := by
  cases action with
  | showHealth => exact .nothing rfl rfl
  | login => exact effect_withBody (effect_login _)
  | checkToken => cases user <;> exact .nothing rfl rfl
  | logout => exact .nothing rfl rfl
  | createUser => exact effect_withForm fun registration _ => effect_createUser registration
  | list shelf => exact effect_list shelf
  | createEnvironment =>
    exact effect_withForm fun _ read => effect_addRecord (.environment read) (by decide)
  | createWebhook =>
    exact effect_withForm fun _ read => effect_addRecord (.webhook read) (by decide : 200 < 400)
  | showWebhook => exact effect_withParameter fun key => effect_showRecord _ _ key
  | deleteWebhook => exact effect_withParameter fun key => effect_deleteWebhook key
  | createService => exact effect_withForm fun _ read => effect_createService read
  | showService => exact effect_withParameter fun name => effect_showService name
  | listDocuments => exact effect_listDocuments
  | saveDocument => exact effect_withForm fun document _ => effect_saveDocument document
  | showDocument => exact effect_withParameter fun key => effect_showRecord _ _ key

end Actions

/-- A request was let through to an endpoint, and has an effect of its action. -/
structure Served (scheme : Account.SecretScheme) (draws : Account.Draws)
    (state : ServerState) (request : Http.Request) (outcome : Outcome)
    (resource : Resource) (endpoint : Endpoint) (user : Option Account.User) : Prop where
  named : resourceOf? request = some resource
  answers : resource.endpoint? request.method = some endpoint
  authorized :
    (authorize scheme state resource request endpoint.protection).1 = .ok user
  effect : outcome.HasEffect draws request.body state endpoint.action

section Requests

variable (scheme : Account.SecretScheme) (engine : PatternEngine) (draws : Account.Draws)
  (state : ServerState) (request : Http.Request)

/-- An endpoint that lets a request through has an effect of its action, and else none. -/
theorem runEndpoint_effect (resource : Resource) (endpoint : Endpoint) :
    let outcome := runEndpoint scheme engine draws state resource request endpoint
    outcome.state = state ∨
      ∃ user, (authorize scheme state resource request endpoint.protection).1 = .ok user ∧
        outcome.HasEffect draws request.body state endpoint.action := by
  unfold runEndpoint
  split
  · exact .inl rfl
  · rename_i user _ allowed
    right
    exact ⟨user, by rw [allowed], effect_perform resource user endpoint.action⟩

/-- A method that is not registered leaves the state as it is. -/
theorem state_refuseMethod (resource : Resource) :
    (refuseMethod scheme state resource request).state = state := by
  unfold refuseMethod
  split <;> rfl

theorem state_respondOptions (policy : Http.OriginPolicy) :
    (respondOptions state policy request).state = state := by
  unfold respondOptions
  split <;> rfl

/-- A request that is routed is served with an effect, or leaves the state as it is. -/
theorem route_effect :
    (route scheme engine draws state request).state = state ∨
      ∃ resource endpoint user, Served scheme draws state request
        (route scheme engine draws state request) resource endpoint user := by
  unfold route
  split
  · exact .inl rfl
  · rename_i resource named
    split
    · rename_i endpoint answers
      rcases runEndpoint_effect scheme engine draws state request resource endpoint with
        same | ⟨user, authorized, effect⟩
      · exact .inl same
      · exact .inr ⟨resource, endpoint, user, named, answers, authorized, effect⟩
    · exact .inl (state_refuseMethod scheme state request resource)

/-- A request that is served has an effect; any other leaves the state as it was. -/
theorem respond_effect :
    (respond scheme engine draws state request).state = state ∨
      ∃ resource endpoint user, Served scheme draws state request
        (respond scheme engine draws state request) resource endpoint user := by
  unfold respond
  split
  · exact .inl (state_respondOptions state request _)
  · rcases route_effect scheme engine draws state request with
      same | ⟨resource, endpoint, user, served⟩
    · exact .inl same
    · refine .inr ⟨resource, endpoint, user, served.named, served.answers, served.authorized, ?_⟩
      dsimp only [Outcome.HasEffect]
      split
      · exact served.effect
      · exact served.effect

end Requests

end Dashboard.Server
