import Dashboard.Proofs.Account.Login
import Dashboard.Proofs.Server.Noninterference

/-!
# Failed logins tell nothing

A request for a session is answered with a token or refused, and the refusal does not depend on
what is wrong: an unreadable body, a blank or unknown name, a record that is no record and a
wrong password are all told the same, whoever is stored. A body beyond the longest one that is
read never becomes a login, and is told so without a look at the users.
-/

namespace Dashboard.Server

/-- A request for a session. -/
def IsLogin (request : Http.Request) : Prop :=
  request.method = .post ∧ resourceOf? request = some .login

/-- What may be wrong with the body of a request for a session. -/
inductive BodyFault (scheme : Account.SecretScheme) (users : Account.UserTable)
    (body : List UInt8) : Prop where
  | unreadable
      (unread : (Json.Document.ofOctets? body).bind Account.Credentials.ofDocument? = none)
  | refused {credentials}
      (read : (Json.Document.ofOctets? body).bind Account.Credentials.ofDocument? =
        some credentials)
      (fault : Account.LoginFault scheme users credentials.username credentials.password)

/-- The headers by which an answer to a request tells who may read it. -/
def originHeaders (settings : Settings) (request : Http.Request) : List (String × String) :=
  (Http.OriginPolicy.ofOrigins settings.corsOrigins).headers request

/-- The answer to a login that fails. -/
def loginRefusal (settings : Settings) (request : Http.Request) : Http.Response :=
  (Http.Response.json 401 badCredentials).withHeaders (originHeaders settings request)

/-- The answer to a body that is too long to be read. -/
def lengthRefusal (settings : Settings) (request : Http.Request) : Http.Response :=
  (Http.Response.text 413 "Failed to buffer the request body: length limit exceeded").withHeaders
    (originHeaders settings request)

/-- The answer to a login that opens a session. -/
def loginResponse (settings : Settings) (request : Http.Request) (answer : Account.LoginAnswer) :
    Http.Response :=
  (Http.Response.json 200 answer.toJson).withHeaders (originHeaders settings request)

theorem status_loginRefusal (settings : Settings) (request : Http.Request) :
    (loginRefusal settings request).status = 401 :=
  rfl

section Answers

variable {scheme : Account.SecretScheme} {engine : PatternEngine} (draws : Account.Draws)
  {state : ServerState} {request : Http.Request}

/-- A request for a session is answered by the login, with the headers of every answer. -/
theorem respond_of_isLogin (isLogin : IsLogin request) :
    respond scheme engine draws state request =
      let outcome := withBody state request (login scheme draws state)
      { outcome with
        response := outcome.response.withHeaders (originHeaders state.settings request) } := by
  obtain ⟨isPost, named⟩ := isLogin
  have answers : Resource.login.endpoint? request.method = some ⟨.post, .login, .unprotected⟩ := by
    rw [isPost]
    rfl
  unfold respond route
  rw [named]
  dsimp only
  rw [answers, isPost, if_neg nofun, if_neg nofun]
  rfl

/-- A body that is too long is told so and leaves the state as it is. -/
theorem respond_of_long (isLogin : IsLogin request) (long : longestBody < request.body.length) :
    (respond scheme engine draws state request).response = lengthRefusal state.settings request ∧
      (respond scheme engine draws state request).state = state := by
  rw [respond_of_isLogin draws isLogin, withBody, if_pos long]
  exact ⟨rfl, rfl⟩

/-- A fault of the body has the one answer of all faults and changes nothing. -/
theorem login_of_bodyFault {body : List UInt8}
    (fault : BodyFault scheme state.accounts.users body) :
    (login scheme draws state body).response = .json 401 badCredentials ∧
      (login scheme draws state body).state = state := by
  unfold login
  cases fault with
  | unreadable unread =>
    rw [unread]
    exact ⟨rfl, rfl⟩
  | refused read fault =>
    obtain ⟨events, refused⟩ := Account.Accounts.login_of_fault draws fault
    rw [read]
    dsimp only
    rw [refused]
    exact ⟨rfl, rfl⟩

/-- A body without a fault opens one session. -/
theorem login_of_not_bodyFault {body : List UInt8}
    (sound : ¬ BodyFault scheme state.accounts.users body) :
    ∃ user next,
      (login scheme draws state body).response =
        .json 200 (Account.LoginAnswer.toJson ⟨draws.tokenText, user.profile⟩) ∧
      (login scheme draws state body).state = state.withAccounts next ∧
      Account.SessionAdded scheme state.accounts next draws.tokenText user := by
  unfold login
  cases read : (Json.Document.ofOctets? body).bind Account.Credentials.ofDocument? with
  | none => exact absurd (.unreadable read) sound
  | some credentials =>
    obtain ⟨user, next, events, -, -, opened, added⟩ :=
      Account.Accounts.login_of_not_fault draws fun fault => sound (.refused read fault)
    dsimp only
    rw [opened]
    exact ⟨user, next, rfl, rfl, added⟩

/-- A fault is answered with the refusal of all logins, and the state stays as it is. -/
theorem respond_of_bodyFault (isLogin : IsLogin request)
    (short : request.body.length ≤ longestBody)
    (fault : BodyFault scheme state.accounts.users request.body) :
    (respond scheme engine draws state request).response = loginRefusal state.settings request ∧
      (respond scheme engine draws state request).state = state := by
  obtain ⟨refused, unchanged⟩ := login_of_bodyFault draws fault
  rw [respond_of_isLogin draws isLogin, withBody, if_neg (Nat.not_lt.mpr short)]
  dsimp only
  rw [refused]
  exact ⟨rfl, unchanged⟩

/-- Without a fault the answer tells the token of the session that was opened. -/
theorem respond_of_not_bodyFault (isLogin : IsLogin request)
    (short : request.body.length ≤ longestBody)
    (sound : ¬ BodyFault scheme state.accounts.users request.body) :
    ∃ user next,
      (respond scheme engine draws state request).response =
        loginResponse state.settings request ⟨draws.tokenText, user.profile⟩ ∧
      (respond scheme engine draws state request).state = state.withAccounts next ∧
      Account.SessionAdded scheme state.accounts next draws.tokenText user := by
  obtain ⟨user, next, answered, left, added⟩ := login_of_not_bodyFault draws sound
  rw [respond_of_isLogin draws isLogin, withBody, if_neg (Nat.not_lt.mpr short)]
  dsimp only
  rw [answered]
  exact ⟨user, next, rfl, left, added⟩

/-- A login that is not answered with a token has a fault, unless its body is too long. -/
theorem bodyFault_of_status (isLogin : IsLogin request)
    (short : request.body.length ≤ longestBody)
    (refused : (respond scheme engine draws state request).response.status ≠ 200) :
    BodyFault scheme state.accounts.users request.body := by
  by_contra sound
  obtain ⟨user, next, answered, -⟩ := respond_of_not_bodyFault draws isLogin short sound
  rw [answered] at refused
  exact refused rfl

/-- Of a request, the refusal of a login depends on the headers alone. -/
theorem loginRefusal_eq_of_headers {settings : Settings} {other : Http.Request}
    (sameHeaders : other.headers = request.headers) :
    loginRefusal settings other = loginRefusal settings request := by
  unfold loginRefusal originHeaders Http.OriginPolicy.headers Http.Request.header?
  rw [sameHeaders]

end Answers

/-- Whatever is wrong with a name and a password, the login answers that the credentials are and
leaves the accounts as they are; when nothing is wrong it adds one session. A request for a
session with a body that can be read is answered with the token of such a session, or with one
refusal that leaves the state as it is: two refusals under the same settings and headers are
equal, whatever the bodies, the users and the draws. A longer body is refused as too long, with no
look at the users. -/
theorem failed_logins_tell_nothing (scheme : Account.SecretScheme) (engine : PatternEngine)
    (draws : Account.Draws) :
    (∀ (accounts : Account.Accounts) username password,
      (Account.LoginFault scheme accounts.users username password →
        ∃ events, accounts.login scheme draws username password =
          (.error .invalidCredentials, accounts, events)) ∧
      (¬ Account.LoginFault scheme accounts.users username password →
        ∃ user next events, accounts.users.find username = some user ∧
          scheme.opens user.passwordRecord password = some true ∧
          accounts.login scheme draws username password =
            (.ok ⟨draws.tokenText, user.profile⟩, next, events) ∧
          Account.SessionAdded scheme accounts next draws.tokenText user)) ∧
    (∀ state request, IsLogin request →
      let outcome := respond scheme engine draws state request
      (request.body.length ≤ longestBody →
        (BodyFault scheme state.accounts.users request.body →
          outcome.response = loginRefusal state.settings request ∧ outcome.state = state) ∧
        (¬ BodyFault scheme state.accounts.users request.body →
          ∃ user next,
            outcome.response =
              loginResponse state.settings request ⟨draws.tokenText, user.profile⟩ ∧
            outcome.state = state.withAccounts next ∧
            Account.SessionAdded scheme state.accounts next draws.tokenText user)) ∧
      (longestBody < request.body.length →
        outcome.response = lengthRefusal state.settings request ∧ outcome.state = state)) ∧
    (∀ otherDraws (first second : ServerState) request other,
      second.settings = first.settings → other.headers = request.headers →
      IsLogin request → IsLogin other →
      request.body.length ≤ longestBody → other.body.length ≤ longestBody →
      (respond scheme engine draws first request).response.status ≠ 200 →
      (respond scheme engine otherDraws second other).response.status ≠ 200 →
        (respond scheme engine otherDraws second other).response =
          (respond scheme engine draws first request).response) := by
  refine ⟨fun accounts username password => ⟨?fault, ?sound⟩, ?answers, ?alike⟩
  case fault => exact Account.Accounts.login_of_fault draws
  case sound => exact Account.Accounts.login_of_not_fault draws
  case answers =>
    intro state request isLogin outcome
    exact ⟨fun short => ⟨respond_of_bodyFault draws isLogin short,
      respond_of_not_bodyFault draws isLogin short⟩, respond_of_long draws isLogin⟩
  case alike =>
    intro otherDraws first second request other sameSettings sameHeaders isLogin isOther short
      otherShort refused otherRefused
    have answer : (respond scheme engine draws first request).response = _ :=
      (respond_of_bodyFault draws isLogin short
        (bodyFault_of_status draws isLogin short refused)).1
    have otherAnswer : (respond scheme engine otherDraws second other).response = _ :=
      (respond_of_bodyFault otherDraws isOther otherShort
        (bodyFault_of_status otherDraws isOther otherShort otherRefused)).1
    rw [answer, otherAnswer, sameSettings]
    exact loginRefusal_eq_of_headers sameHeaders

/-- A request for a session with a body. -/
def loginRequest (body : List UInt8) : Http.Request := ⟨.post, .ofText "/api/v1/auth", [], body⟩

/-- A user whose record is empty. -/
def ghost : Account.User := ⟨"ghost", "", Account.noPermissions, none, 0⟩

/-- A server with one user, whose record is empty. -/
def ghostState : ServerState := startState.withAccounts ⟨⟨⟨[("ghost", ghost)]⟩⟩, .empty⟩

/-- A body that names the user of an empty record, with an empty password. -/
def ghostBody : List UInt8 :=
  Text.Utf8.ofString "\x7b\"username\":\" Ghost\",\"password\":\"\"\x7d"

/-- A user with an empty record is told as nobody is, and as a body that is not read; where
passwords are kept as they are, the same body opens a session. -/
theorem ghost_is_told_as_nobody :
    let refused := (respond .standard .standard (Account.Accounts.evenDraws 0) ghostState
      (loginRequest ghostBody)).response
    let respondLater := respond .standard .standard (Account.Accounts.evenDraws 1) startState
    refused.status = 401 ∧
    (respond .standard .standard (Account.Accounts.evenDraws 0) ghostState
      (loginRequest ghostBody)).state = ghostState ∧
    (respondLater (loginRequest ghostBody)).response = refused ∧
    (respondLater (loginRequest [])).response = refused ∧
    (respondLater (loginRequest (List.replicate 2097153 120))).state = startState ∧
    ∃ user next,
      (respond Account.Accounts.plainScheme .standard (Account.Accounts.evenDraws 0) ghostState
        (loginRequest ghostBody)).state = ghostState.withAccounts next ∧
      Account.SessionAdded Account.Accounts.plainScheme ghostState.accounts next
        (Account.Accounts.evenDraws 0).tokenText user := by
  intro refused respondLater
  have isLogin (body : List UInt8) : IsLogin (loginRequest body) := ⟨rfl, rfl⟩
  have read : (Json.Document.ofOctets? ghostBody).bind Account.Credentials.ofDocument? =
      some ⟨" Ghost", ""⟩ := by
    decide +kernel
  have found : ghostState.accounts.users.find " Ghost" = some ghost := by decide +kernel
  have shortGhost : ghostBody.length ≤ longestBody := by decide +kernel
  have isLong : longestBody < (loginRequest (List.replicate 2097153 120)).body.length := by
    rw [loginRequest, List.length_replicate]
    decide
  have ofGhost : BodyFault .standard ghostState.accounts.users ghostBody :=
    .refused read
      (.unreadableRecord found (Account.SecretScheme.opens_standard_eq_none_iff.mpr rfl))
  have ofNobody : BodyFault .standard startState.accounts.users ghostBody :=
    .refused read (.unknownName rfl)
  have ofNothing : BodyFault .standard startState.accounts.users [] := .unreadable rfl
  have ofPlain : ¬ BodyFault Account.Accounts.plainScheme ghostState.accounts.users ghostBody := by
    rintro (unread | ⟨otherRead, fault⟩)
    · rw [read] at unread
      cases unread
    · rw [read] at otherRead
      cases otherRead
      exact Account.LoginFault.not_iff.mpr ⟨by decide +kernel, ghost, found, rfl⟩ fault
  obtain ⟨-, answers, alike⟩ :=
    failed_logins_tell_nothing .standard .standard (Account.Accounts.evenDraws 0)
  obtain ⟨-, laterAnswers, -⟩ :=
    failed_logins_tell_nothing .standard .standard (Account.Accounts.evenDraws 1)
  obtain ⟨-, plainAnswers, -⟩ :=
    failed_logins_tell_nothing Account.Accounts.plainScheme .standard (Account.Accounts.evenDraws 0)
  obtain ⟨isRefused, unchanged⟩ :=
    ((answers ghostState _ (isLogin ghostBody)).1 shortGhost).1 ofGhost
  have status : refused.status = 401 := congrArg Http.Response.status isRefused
  have later {body : List UInt8} (short : body.length ≤ longestBody)
      (fault : BodyFault .standard startState.accounts.users body) :
      (respondLater (loginRequest body)).response = refused := by
    refine alike _ ghostState startState _ _ rfl rfl (isLogin _) (isLogin _)
      shortGhost short (by rw [status]; decide) ?_
    rw [(((laterAnswers startState _ (isLogin body)).1 short).1 fault).1, status_loginRefusal]
    decide
  obtain ⟨user, next, -, opened, added⟩ :=
    ((plainAnswers ghostState _ (isLogin ghostBody)).1 shortGhost).2 ofPlain
  exact ⟨status, unchanged, later shortGhost ofNobody, later (by decide) ofNothing,
    ((laterAnswers startState _ (isLogin _)).2 isLong).2, user, next, opened, added⟩

/-- A login with a body of one octet more than is read is neither answered with a token nor
refused as other logins are. -/
theorem long_login_is_refused_otherwise :
    let request := loginRequest (List.replicate 2097153 120)
    let response :=
      (respond .standard .standard (Account.Accounts.evenDraws 0) startState request).response
    IsLogin request ∧ response.status = 413 ∧
      response ≠ loginRefusal startState.settings request := by
  intro request response
  have isLogin : IsLogin request := ⟨rfl, rfl⟩
  have isLong : longestBody < request.body.length := by
    rw [show request.body.length = 2097153 from List.length_replicate]
    decide
  have refused : response = lengthRefusal startState.settings request :=
    (respond_of_long _ isLogin isLong).1
  rw [refused]
  refine ⟨isLogin, rfl, fun same => ?_⟩
  cases congrArg Http.Response.status same

end Dashboard.Server
