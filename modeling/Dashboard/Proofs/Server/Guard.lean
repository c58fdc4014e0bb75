import Dashboard.Proofs.Permission.Grant
import Dashboard.Proofs.Server.Effect

/-!
# What the guard lets through

A request that was let through to an endpoint that changes a store held the token of a
live session, and the tree of the session's user permits that change.
-/

namespace Dashboard.Server

open Permission

/-- What a tree must grant for a request to change a store. -/
def Permits (request : Http.Request) (tree : Json) : Store → Prop
  | .users => Grants tree "cion.user.create" []
  | .shelf .environments | .shelf .webhooks => Grants tree "cion.config.edit" []
  | .shelf .services =>
    Grants tree "cion.config.edit" [] ∨
      ∃ values, Resolver.bodyFields [("environments", "environments")] ⟨request.body, []⟩ =
          .ok values ∧
        Grants tree "cion.environment.$environments.service" values
  | .shelf .documents => True
  | .shelf .tasks => False

/-- What the endpoints that change a store ask of a request; none changes the tasks. -/
def Store.protection? : Store → Option Protection
  | .users => some (.capability userCreation)
  | .shelf .environments | .shelf .webhooks => some (.capability configEdit)
  | .shelf .services => some (.capability serviceCreation)
  | .shelf .documents => some .session
  | .shelf .tasks => none

/-- An endpoint whose action changes a store has the protection of that store. -/
theorem protection_of_store? {resource : Resource} {endpoint : Endpoint} {store : Store}
    (registered : endpoint ∈ resource.endpoints)
    (changes : endpoint.action.store? = some store) :
    store.protection? = some endpoint.protection := by
  have inTable : ∀ known ∈ resource.endpoints,
      ∀ store, known.action.store? = some store → store.protection? = some known.protection := by
    cases resource <;> simp [Resource.endpoints, Action.store?, Store.protection?]
  exact inTable endpoint registered store changes

/-- The endpoint that answers is one of those registered. -/
theorem mem_of_endpoint? {resource : Resource} {method : Http.Method} {endpoint : Endpoint}
    (answers : resource.endpoint? method = some endpoint) : endpoint ∈ resource.endpoints :=
  List.mem_of_find?_eq_some answers

section Guard

variable {scheme : Account.SecretScheme} {state : ServerState} {resource : Resource}
  {request : Http.Request} {user : Option Account.User}

/-- Who passes the guard of a session has one. -/
theorem authorize_session
    (allowed : (authorize scheme state resource request .session).1 = .ok user) :
    ∃ known, state.accounts.verify scheme (requestToken request) = .ok known := by
  simp only [authorize] at allowed
  split at allowed
  · cases allowed
  · rename_i known live
    exact ⟨known, live⟩

/-- A check of capabilities lets through only what its expression grants. -/
theorem authorize_capability {expression : Expression}
    (allowed :
      (authorize scheme state resource request (.capability expression)).1 = .ok user) :
    ∃ known reasons, state.accounts.verify scheme (requestToken request) = .ok known ∧
      expression.check DenialReasons.report known.permissions
        ⟨request.body, requestParameters resource request⟩ .empty = (.ok true, reasons) := by
  simp only [authorize] at allowed
  split at allowed
  · cases allowed
  · rename_i known live
    split at allowed
    · cases allowed
    · rename_i passed
      unfold checkCapability at passed
      dsimp only at passed
      split at passed
      · cases passed
      · split at passed
        · cases passed
        · rename_i reasons checked
          exact ⟨known, reasons, live, checked⟩
        · cases passed

/-- The parameters of a request do not matter where only its body is asked. -/
theorem bodyFields_parameters (bindings : List (String × String)) (body : List UInt8)
    (parameters : List (String × String)) :
    Resolver.bodyFields bindings ⟨body, parameters⟩ = Resolver.bodyFields bindings ⟨body, []⟩ :=
  rfl

/-- Who passes the check for services may edit the configuration, or has services in the
environments of the body. -/
theorem grants_of_check_serviceCreation {σ : Type} {report : σ → String → σ} {tree : Json}
    {body : List UInt8} {parameters : List (String × String)} {sink reported : σ}
    (checked : serviceCreation.check report tree ⟨body, parameters⟩ sink =
      (.ok true, reported)) :
    Grants tree "cion.config.edit" [] ∨
      ∃ values, Resolver.bodyFields [("environments", "environments")] ⟨body, []⟩ = .ok values ∧
        Grants tree "cion.environment.$environments.service" values := by
  rcases Expression.check_or checked with ⟨_, edit⟩ | ⟨_, deploy⟩
  · exact .inl (Expression.grants_of_check parse_configEditPath edit)
  · obtain ⟨values, resolved, granted⟩ := Expression.check_path deploy
    have fromBody : Resolver.bodyFields [("environments", "environments")] ⟨body, []⟩ =
        .ok values := (bodyFields_parameters _ body parameters).symm.trans resolved
    exact .inr ⟨values, fromBody, environmentServicePath, parse_environmentServicePath, granted⟩

/-- Where the protection of a store lets a request through, the session of its token is
live, and the tree of the session's user permits the change. -/
theorem permits_of_authorized {store : Store} {protection : Protection}
    (isProtection : store.protection? = some protection)
    (allowed : (authorize scheme state resource request protection).1 = .ok user) :
    ∃ known, state.accounts.verify scheme (requestToken request) = .ok known ∧
      Permits request known.permissions store := by
  cases store with
  | users =>
    cases isProtection
    obtain ⟨known, _, live, checked⟩ := authorize_capability allowed
    exact ⟨known, live, Expression.grants_of_check parse_userCreationPath checked⟩
  | shelf shelf =>
    cases shelf with
    | environments | webhooks =>
      cases isProtection
      obtain ⟨known, _, live, checked⟩ := authorize_capability allowed
      exact ⟨known, live, Expression.grants_of_check parse_configEditPath checked⟩
    | services =>
      cases isProtection
      obtain ⟨known, _, live, checked⟩ := authorize_capability allowed
      exact ⟨known, live, grants_of_check_serviceCreation checked⟩
    | documents =>
      cases isProtection
      obtain ⟨known, live⟩ := authorize_session allowed
      exact ⟨known, live, trivial⟩
    | tasks => cases isProtection

end Guard

end Dashboard.Server
