import Dashboard.Pattern.Compiled
import Dashboard.Proofs.Account.Agreement
import Dashboard.Proofs.Server.Mutation

/-!
# Without a session nothing of what is stored is told

Two servers may agree on settings and accounts and hold different records and compiled
searches. A request whose token opens no session cannot tell them apart: each endpoint that it
could learn from asks for the session before it looks at anything else of the request, and the
others do not read what is stored. So answering a request commutes with an exchange of records
and compiled searches, and what remains to differ is the token that a login draws.
-/

namespace Dashboard.Server

/-- The state with other records and other compiled searches. -/
def ServerState.withStored (state : ServerState) (records : Listing.RecordStore)
    (searches : QueryCache) : ServerState :=
  { state with records := records, searches := searches }

/-- The outcome with other records and other compiled searches in its state. -/
def Outcome.withStored (outcome : Outcome) (records : Listing.RecordStore)
    (searches : QueryCache) : Outcome :=
  { outcome with state := outcome.state.withStored records searches }

/-- A state has the users, the records and the compiled searches of another one. -/
structure KeepsStored (before after : ServerState) : Prop where
  users : after.accounts.users = before.accounts.users
  records : after.records = before.records
  searches : after.searches = before.searches

/-- The response without a token that a login gives out. -/
def hideToken (response : Http.Response) : Http.Response :=
  { response with
    content := match response.content with
      | .json (.object members) => .json (.object (members.filter (·.1 != "token")))
      | content => content }

/-- The content of a refusal for want of a session. -/
def badCredentials : Json :=
  Json.ofMembers [("error", .string "Bad credentials"), ("code", .ofNat 401)]

/-- The token of a request opens no session. -/
def NoSession (scheme : Account.SecretScheme) (state : ServerState) (request : Http.Request) :
    Prop :=
  ∀ user, state.accounts.verify scheme (requestToken request) ≠ .ok user

/-- What is done without a session. -/
def Action.IsOpen (action : Action) : Prop :=
  action = .showHealth ∨ action = .login ∨ action = .logout

/-- An endpoint without protection does only what is done without a session. -/
theorem isOpen_of_unprotected {resource : Resource} {endpoint : Endpoint}
    (registered : endpoint ∈ resource.endpoints)
    (unprotected : endpoint.protection = .unprotected) :
    endpoint.action.IsOpen := by
  have inTable : ∀ known ∈ resource.endpoints, known.protection = .unprotected →
      known.action.IsOpen := by
    cases resource <;> simp [Resource.endpoints, Action.IsOpen]
  exact inTable endpoint registered unprotected

/-- No endpoint answers a request for the options alone. -/
theorem ne_options_of_endpoint? {resource : Resource} {method : Http.Method}
    {endpoint : Endpoint} (answers : resource.endpoint? method = some endpoint) :
    method ≠ .options := by
  have inTable : ∀ known ∈ resource.endpoints, known.answers .options = false := by
    cases resource <;> simp [Resource.endpoints, Endpoint.answers]
  rintro rfl
  have answered := List.find?_some answers
  rw [inTable endpoint (mem_of_endpoint? answers)] at answered
  cases answered

theorem settings_withStored (state : ServerState) (records : Listing.RecordStore)
    (searches : QueryCache) : (state.withStored records searches).settings = state.settings :=
  rfl

section Guard

variable {scheme : Account.SecretScheme} {state : ServerState} {request : Http.Request}

/-- The guard does not look at what is stored. -/
theorem authorize_withStored (records : Listing.RecordStore) (searches : QueryCache)
    (resource : Resource) (protection : Protection) :
    authorize scheme (state.withStored records searches) resource request protection =
      authorize scheme state resource request protection := by
  cases protection <;> rfl

/-- A token that opens no session is told that it is invalid. -/
theorem verify_of_noSession (noSession : NoSession scheme state request) :
    state.accounts.verify scheme (requestToken request) = .error .sessionInvalid := by
  unfold NoSession Account.Accounts.verify Account.SessionTable.find at *
  split
  · rename_i user found
    exact absurd (by rw [found]) (noSession user)
  · rfl

/-- Every protection refuses a request without a session, whatever else it asks for. -/
theorem authorize_of_noSession (noSession : NoSession scheme state request)
    {protection : Protection} (isProtected : protection ≠ .unprotected) (resource : Resource) :
    authorize scheme state resource request protection =
      (.error (.account .sessionInvalid), []) := by
  have refused := verify_of_noSession noSession
  cases protection with
  | unprotected => exact absurd rfl isProtected
  | session | capability _ => simp only [authorize, refused]

end Guard

section Exchange

variable (scheme : Account.SecretScheme) (engine : PatternEngine) (draws : Account.Draws)
  (state : ServerState) (records : Listing.RecordStore) (searches : QueryCache)
  (request : Http.Request)

/-- A login does not look at what is stored. -/
theorem login_withStored (body : List UInt8) :
    login scheme draws (state.withStored records searches) body =
      (login scheme draws state body).withStored records searches := by
  unfold login
  split
  · rfl
  · dsimp only [ServerState.withStored]
    split <;> rfl

/-- What is done without a session does not look at what is stored. -/
theorem perform_withStored (resource : Resource) (user : Option Account.User) {action : Action}
    (isOpen : action.IsOpen) :
    perform scheme engine draws (state.withStored records searches) resource request user action =
      (perform scheme engine draws state resource request user action).withStored records
        searches := by
  rcases isOpen with rfl | rfl | rfl
  · rfl
  · unfold perform withBody
    dsimp only
    split
    · rfl
    · exact login_withStored scheme draws state records searches request.body
  · rfl

variable {state request}

/-- Without a session an endpoint does not look at what is stored. -/
theorem runEndpoint_withStored (noSession : NoSession scheme state request) {resource : Resource}
    {endpoint : Endpoint} (registered : endpoint ∈ resource.endpoints) :
    runEndpoint scheme engine draws (state.withStored records searches) resource request endpoint =
      (runEndpoint scheme engine draws state resource request endpoint).withStored records
        searches := by
  unfold runEndpoint
  rw [authorize_withStored]
  by_cases unprotected : endpoint.protection = .unprotected
  · rw [unprotected]
    dsimp only [authorize]
    rw [perform_withStored _ _ _ _ _ _ _ _ _ (isOpen_of_unprotected registered unprotected)]
    rfl
  · rw [authorize_of_noSession noSession unprotected]
    rfl

/-- The refusal of a method does not look at what is stored. -/
theorem refuseMethod_withStored (resource : Resource) :
    refuseMethod scheme (state.withStored records searches) resource request =
      (refuseMethod scheme state resource request).withStored records searches := by
  unfold refuseMethod
  rw [authorize_withStored]
  split <;> rfl

/-- Routing a request without a session does not look at what is stored. -/
theorem route_withStored (noSession : NoSession scheme state request) :
    route scheme engine draws (state.withStored records searches) request =
      (route scheme engine draws state request).withStored records searches := by
  unfold route
  split
  · rfl
  · rename_i resource _
    split
    · rename_i endpoint answers
      exact runEndpoint_withStored scheme engine draws records searches noSession
        (mem_of_endpoint? answers)
    · exact refuseMethod_withStored scheme records searches resource

/-- The answer about options does not look at what is stored. -/
theorem respondOptions_withStored (policy : Http.OriginPolicy) :
    respondOptions (state.withStored records searches) policy request =
      (respondOptions state policy request).withStored records searches := by
  unfold respondOptions
  dsimp only
  split <;> rfl

/-- Answering a request without a session commutes with an exchange of what is stored. -/
theorem respond_withStored (noSession : NoSession scheme state request) :
    respond scheme engine draws (state.withStored records searches) request =
      (respond scheme engine draws state request).withStored records searches := by
  unfold respond
  dsimp only
  rw [respondOptions_withStored, route_withStored scheme engine draws records searches noSession,
    settings_withStored]
  split <;> rfl

/-- A request without a session changes neither users nor records nor compiled searches. -/
theorem keepsStored_respond (noSession : NoSession scheme state request) :
    KeepsStored state (respond scheme engine draws state request).state := by
  -- An exchange for what is stored already changes nothing, neither before nor behind.
  have exchanged : respond scheme engine draws state request =
      (respond scheme engine draws state request).withStored state.records state.searches :=
    respond_withStored scheme engine draws state.records state.searches noSession
  have sameRecords := congrArg (·.state.records) exchanged
  have sameSearches := congrArg (·.state.searches) exchanged
  obtain ⟨action, effect, permitted⟩ := permitted_effect scheme engine draws state request
  refine ⟨effect.users_agree.resolve_right fun changes => ?_,
    sameRecords, sameSearches⟩
  obtain ⟨user, live, _⟩ := permitted .users changes
  exact noSession user live

end Exchange

theorem hideToken_withHeaders (response : Http.Response) (headers : List (String × String)) :
    hideToken (response.withHeaders headers) = (hideToken response).withHeaders headers :=
  rfl

theorem hideToken_withoutContent (response : Http.Response) :
    hideToken response.withoutContent = (hideToken response).withoutContent :=
  rfl

section Token

variable (scheme : Account.SecretScheme) (engine : PatternEngine)
  (draws otherDraws : Account.Draws) {state : ServerState} {request : Http.Request}

/-- Of the answer to a login, the profile of the user remains. -/
theorem hideToken_loginAnswer (answer : Account.LoginAnswer) :
    hideToken (.json 200 answer.toJson) =
      .json 200 (.object [("user", answer.profile.toJson)]) := by
  have inOrder : ¬ "user" < "token" := by decide
  simp [hideToken, Account.LoginAnswer.toJson, Json.ofMembers, Json.insertMember, inOrder,
    Http.Response.json, Http.Response.ofContent, Http.Content.type?]

/-- Two logins with different draws are answered alike but for the token. -/
theorem hideToken_login (body : List UInt8) :
    hideToken (login scheme draws state body).response =
      hideToken (login scheme otherDraws state body).response := by
  unfold login
  split
  · rfl
  · rename_i credentials _
    rcases authentic : Account.Accounts.authenticate scheme state.accounts.users
        credentials.username credentials.password with ⟨error | user, events⟩
    · rw [Account.Accounts.login_of_error authentic, Account.Accounts.login_of_error authentic]
    · rw [Account.Accounts.login_of_ok authentic, Account.Accounts.login_of_ok authentic]
      dsimp only
      rw [hideToken_loginAnswer, hideToken_loginAnswer]

/-- What is done without a session shows what is drawn in the token alone. -/
theorem hideToken_perform (resource : Resource) (user : Option Account.User) {action : Action}
    (isOpen : action.IsOpen) :
    hideToken (perform scheme engine draws state resource request user action).response =
      hideToken (perform scheme engine otherDraws state resource request user action).response := by
  rcases isOpen with rfl | rfl | rfl
  · rfl
  · unfold perform withBody
    dsimp only
    split
    · rfl
    · exact hideToken_login scheme draws otherDraws request.body
  · rfl

/-- A routed request without a session shows what is drawn in the token alone. -/
theorem hideToken_route (noSession : NoSession scheme state request) :
    hideToken (route scheme engine draws state request).response =
      hideToken (route scheme engine otherDraws state request).response := by
  unfold route
  split
  · rfl
  · rename_i resource _
    split
    · rename_i endpoint answers
      unfold runEndpoint
      by_cases unprotected : endpoint.protection = .unprotected
      · rw [unprotected]
        exact hideToken_perform scheme engine draws otherDraws resource none
          (isOpen_of_unprotected (mem_of_endpoint? answers) unprotected)
      · rw [authorize_of_noSession noSession unprotected]
    · rfl

/-- Two requests without a session are answered alike but for the token, whatever is drawn. -/
theorem hideToken_respond (noSession : NoSession scheme state request) :
    hideToken (respond scheme engine draws state request).response =
      hideToken (respond scheme engine otherDraws state request).response := by
  have routed := hideToken_route scheme engine draws otherDraws noSession
  unfold respond
  split
  · rfl
  · dsimp only
    split
    · rw [hideToken_withoutContent, hideToken_withHeaders, routed]
      rfl
    · rw [hideToken_withHeaders, routed]
      rfl

end Token

section Refusal

variable {scheme : Account.SecretScheme} {engine : PatternEngine} {draws : Account.Draws}
  {state : ServerState} {request : Http.Request} {resource : Resource} {endpoint : Endpoint}

/-- A protected endpoint answers a request without a session that its credentials are bad. -/
theorem respond_of_protected (noSession : NoSession scheme state request)
    (named : resourceOf? request = some resource)
    (answers : resource.endpoint? request.method = some endpoint)
    (isProtected : endpoint.protection ≠ .unprotected) :
    (respond scheme engine draws state request).response.status = 401 ∧
      (respond scheme engine draws state request).response.content =
        if request.method = .head then .empty else .json badCredentials := by
  have routed : route scheme engine draws state request =
      ⟨(RequestError.account .sessionInvalid).response, state, []⟩ := by
    unfold route runEndpoint
    rw [named]
    dsimp only
    rw [answers]
    dsimp only
    rw [authorize_of_noSession noSession isProtected]
  unfold respond
  rw [if_neg (ne_options_of_endpoint? answers), routed]
  dsimp only
  split <;> exact ⟨rfl, rfl⟩

end Refusal

/-- A request that opens no session is answered alike by all servers that agree on settings
and accounts, whatever records and compiled searches they hold: with the same draws the
answers, the events and the accounts behind are equal, and with any draws the answers are equal
but for the token of a login. Users, records and compiled searches stay as they are, and a
protected endpoint answers that the credentials are bad. -/
theorem respond_without_session_tells_nothing (scheme : Account.SecretScheme)
    (engine : PatternEngine) (draws otherDraws : Account.Draws) (first second : ServerState)
    (request : Http.Request)
    (sameSettings : second.settings = first.settings)
    (sameAccounts : second.accounts = first.accounts)
    (noSession : NoSession scheme first request) :
    let outcome := respond scheme engine draws first request
    let other := respond scheme engine draws second request
    other.response = outcome.response ∧ other.events = outcome.events ∧
    other.state.accounts = outcome.state.accounts ∧
    hideToken (respond scheme engine otherDraws second request).response =
      hideToken outcome.response ∧
    KeepsStored first outcome.state ∧ KeepsStored second other.state ∧
    ∀ resource endpoint, resourceOf? request = some resource →
      resource.endpoint? request.method = some endpoint → endpoint.protection ≠ .unprotected →
        outcome.response.status = 401 ∧
        outcome.response.content =
          if request.method = .head then .empty else .json badCredentials := by
  intro outcome other
  have secondNoSession : NoSession scheme second request := by
    rw [NoSession, sameAccounts]
    exact noSession
  have isExchange : second = first.withStored second.records second.searches := by
    rw [ServerState.withStored, ← sameSettings, ← sameAccounts]
  have exchanged : other = outcome.withStored second.records second.searches := by
    rw [← respond_withStored scheme engine draws second.records second.searches noSession,
      ← isExchange]
  refine ⟨?_, ?_, ?_, ?_, keepsStored_respond scheme engine draws noSession,
    keepsStored_respond scheme engine draws secondNoSession, ?_⟩
  · rw [exchanged, Outcome.withStored]
  · rw [exchanged, Outcome.withStored]
  · rw [exchanged, Outcome.withStored, ServerState.withStored]
  · rw [hideToken_respond scheme engine otherDraws draws secondNoSession]
    exact congrArg (fun outcome => hideToken outcome.response) exchanged
  · intro resource endpoint named answers isProtected
    exact respond_of_protected noSession named answers isProtected

/-- A server at its start. -/
def startState : ServerState := .start .standard

/-- A server that holds a document and a compiled search. -/
def storedState : ServerState :=
  startState.withStored
    (startState.records.withCollection "documents"
      ⟨"name", ["name"], [.object [("name", .string "runbook")]]⟩)
    (startState.searches.getOrCompile .standard "name:runbook").2

/-- A request for a document that bears no token. -/
def documentRequest : Http.Request := ⟨.get, .ofText "/api/v1/document/runbook", [], []⟩

/-- Whether the document exists, a request without a token is told the same. -/
theorem respond_hides_document :
    storedState.records.get "documents" "runbook" ≠
        startState.records.get "documents" "runbook" ∧
      ∀ draws,
        let answer (state : ServerState) :=
          (respond Account.Accounts.plainScheme .standard draws state documentRequest).response
        answer storedState = answer startState ∧ (answer startState).status = 401 := by
  refine ⟨by decide, fun draws => ?_⟩
  have noSession : NoSession Account.Accounts.plainScheme startState documentRequest := by
    intro user live
    cases live
  obtain ⟨alike, _, _, _, _, _, refused⟩ := respond_without_session_tells_nothing
    Account.Accounts.plainScheme .standard draws draws startState storedState documentRequest
    rfl rfl noSession
  exact ⟨alike, (refused (.document "runbook") _ rfl rfl nofun).1⟩

end Dashboard.Server
