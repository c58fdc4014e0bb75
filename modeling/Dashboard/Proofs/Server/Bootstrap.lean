import Dashboard.Proofs.Account.Registration
import Dashboard.Proofs.Permission.Grant
import Dashboard.Server.Route

/-!
# The first account

Valid settings that name a first account start a server on which that account can be used: it is
stored once, its name in any spelling and its password open a session, and its permissions let it
add users, change the configuration and add services. On any other state the first account is
added beside the users that are there, and none of them changes.
-/

namespace Dashboard.Account

/-- A scheme reopens a password that is kept under a salt: there is a record of it, and the
record opens with it. -/
def SecretScheme.Reopens (scheme : SecretScheme) (salt : List UInt8) (password : String) : Prop :=
  ∃ record, scheme.recordOf salt password = some record ∧
    scheme.opens record password = some true

/-- A scheme that keeps a password opens its record with it. -/
theorem SecretScheme.Keeps.reopens {scheme : SecretScheme} {salt : List UInt8}
    {password : String} (keeps : scheme.Keeps salt password) : scheme.Reopens salt password := by
  obtain ⟨record, kept, opens⟩ := keeps
  exact ⟨record, kept, by simp [opens]⟩

/-- A password is long enough from eight characters on. -/
theorem checkPassword_eq_ok_iff {password : String} :
    checkPassword password = .ok () ↔ 8 ≤ password.length := by
  unfold checkPassword leastPasswordLength
  rw [String.length_toList]
  split
  · rename_i short
    exact iff_of_false nofun (Nat.not_le.mpr short)
  · rename_i long
    exact iff_of_true rfl (Nat.not_lt.mp long)

end Dashboard.Account

namespace Dashboard.Server

open Permission

/-- A tree lets an expression pass, whatever the check reports. -/
def Passes (tree : Json) (context : RequestContext) (expression : Expression) : Prop :=
  ∀ (σ : Type) (report : σ → String → σ) (sink : σ),
    (expression.check report tree context sink).1 = .ok true

section Permissions

variable {tree : Json} {context : RequestContext} {target : Path} {resolver : Option Resolver}
  {values : Placeholders} {left right : Expression}

/-- With its values at hand, a leaf decides as the evaluation of its path does. -/
theorem fst_check_path (resolved : Expression.valuesFor target resolver context = .ok values)
    {σ : Type} (report : σ → String → σ) (sink : σ) :
    ((Expression.path target resolver).check report tree context sink).1 =
      .ok (target.evaluate tree values).granted := by
  rw [Expression.check, resolved]

/-- One of two expressions that passes is enough when the other one can be checked. -/
theorem Passes.or_left (passes : Passes tree context left)
    (checked : ∀ (σ : Type) (report : σ → String → σ) (sink : σ),
      ∃ decision, (right.check report tree context sink).1 = .ok decision) :
    Passes tree context (left.or right) := by
  intro σ report sink
  have passed := passes σ report sink
  unfold Expression.check
  generalize left.check report tree context sink = first at passed
  obtain ⟨_, between⟩ := first
  cases passed
  obtain ⟨decision, decided⟩ := checked σ report between
  dsimp only
  generalize right.check report tree context between = second at decided
  obtain ⟨_, final⟩ := second
  cases decided
  rfl

/-- A body that is an object gives values to the placeholders of a check. -/
theorem bodyFields_of_object {body : List UInt8} {members : List (String × Json)}
    (isObject : Json.ofOctets? body = some (.object members))
    (parameters bindings : List (String × String)) :
    ∃ values, Resolver.bodyFields bindings ⟨body, parameters⟩ = .ok values := by
  -- A blank body would be read as an object too.
  have isRead : ∃ read, RequestContext.jsonBody ⟨body, parameters⟩ = .ok (.object read) := by
    unfold RequestContext.jsonBody
    split
    · exact ⟨_, rfl⟩
    · rw [isObject]
      exact ⟨_, rfl⟩
  obtain ⟨read, isRead⟩ := isRead
  rw [Resolver.bodyFields, isRead]
  exact ⟨_, rfl⟩

/-- What the first account may do: add users and change the configuration, and so add services
too, with any body that is an object. -/
structure IsAdminTree (tree : Json) : Prop where
  userCreation : Grants tree "cion.user.create" []
  configEdit : Grants tree "cion.config.edit" []
  serviceCreation : ∀ body members parameters, Json.ofOctets? body = some (.object members) →
    Passes tree ⟨body, parameters⟩ Server.serviceCreation

/-- Who may edit the configuration passes the check for that. -/
theorem passes_configEdit (granted : Grants tree "cion.config.edit" []) :
    Passes tree context configEdit := by
  obtain ⟨path, parsed, granted⟩ := granted
  cases parsed.symm.trans parse_configEditPath
  intro σ report sink
  rw [configEdit, fst_check_path rfl, granted]

/-- Who may edit the configuration passes the check for services, whatever object the body is. -/
theorem passes_serviceCreation (granted : Grants tree "cion.config.edit" []) {body : List UInt8}
    {members : List (String × Json)} (isObject : Json.ofOctets? body = some (.object members))
    (parameters : List (String × String)) :
    Passes tree ⟨body, parameters⟩ serviceCreation := by
  refine (passes_configEdit granted).or_left fun σ report sink => ?_
  obtain ⟨values, resolved⟩ :=
    bodyFields_of_object isObject parameters [("environments", "environments")]
  have asks : environmentServicePath.hasPlaceholders = true := rfl
  have chosen : Expression.valuesFor environmentServicePath
      (some (Resolver.bodyFields [("environments", "environments")])) ⟨body, parameters⟩ =
        .ok values := by
    rw [Expression.valuesFor, if_pos asks, resolved]
  exact ⟨_, fst_check_path chosen report sink⟩

/-- The first account may add users, change the configuration and add services. -/
theorem isAdminTree_adminPermissions : IsAdminTree ServerState.adminPermissions where
  userCreation := ⟨userCreationPath, rfl, by decide +kernel⟩
  configEdit := ⟨configEditPath, rfl, by decide +kernel⟩
  serviceCreation _ _ parameters isObject :=
    passes_serviceCreation ⟨configEditPath, rfl, by decide +kernel⟩ isObject parameters

end Permissions

/-- Settings that are valid name a first account with a name and with a password that is long
enough. -/
theorem Settings.admin_of_validate {settings : Settings} {admin : AdminSettings}
    (valid : settings.validate = .ok ()) (named : settings.bootstrapAdmin = some admin) :
    Text.trim admin.username ≠ "" ∧ Account.checkPassword admin.password = .ok () := by
  have validAdmin : admin.validate = .ok () := by
    unfold Settings.validate at valid
    rw [named] at valid
    iterate 5
      split at valid
      · cases valid
    exact valid
  unfold AdminSettings.validate at validAdmin
  split at validAdmin
  · cases validAdmin
  · rename_i notBlank
    refine ⟨Text.trim_eq_empty_iff.not.mpr notBlank, ?_⟩
    split at validAdmin
    · cases validAdmin
    · assumption

namespace ServerState

variable {scheme : Account.SecretScheme} {draws : Account.Draws} {state next : ServerState}

/-- The first account, with the record of its password. -/
def adminUser (draws : Account.Draws) (admin : AdminSettings) (record : String) : Account.User :=
  ⟨Account.normalizeUsername admin.username, record, adminPermissions, none, draws.now⟩

theorem permissions_adminUser (draws : Account.Draws) (admin : AdminSettings) (record : String) :
    (adminUser draws admin record).permissions = adminPermissions := by
  rw [adminUser]

/-- The state with one more user. -/
def withUser (state : ServerState) (user : Account.User) : ServerState :=
  state.withAccounts
    { state.accounts with users := ⟨state.accounts.users.users.insert user.username user⟩ }

theorem get?_withUser (state : ServerState) (user : Account.User) (name : String) :
    (state.withUser user).accounts.users.users.get? name =
      if name = user.username then some user else state.accounts.users.users.get? name :=
  Table.get?_insert _ _ _ _

/-- The state behind the addition of the first account: its own, or the one before when that
fails. -/
def booted (scheme : Account.SecretScheme) (draws : Account.Draws) (state : ServerState) :
    ServerState :=
  match state.bootstrap scheme draws with
  | .ok (next, _) => next
  | .error _ => state

/-- All that the addition of the first account can come to. -/
inductive Boots (scheme : Account.SecretScheme) (draws : Account.Draws) (state : ServerState) :
    Except Account.AccountError (ServerState × List Log.Event) → Prop where
  | unset (unset : state.settings.bootstrapAdmin = none) :
      Boots scheme draws state (.ok (state, []))
  | weak {admin error} (named : state.settings.bootstrapAdmin = some admin)
      (weak : Account.checkPassword admin.password = .error error) :
      Boots scheme draws state (.error error)
  | taken {admin user} (named : state.settings.bootstrapAdmin = some admin)
      (strong : Account.checkPassword admin.password = .ok ())
      (taken : state.accounts.users.find admin.username = some user) :
      Boots scheme draws state (.ok (state, []))
  | unkept {admin} (named : state.settings.bootstrapAdmin = some admin)
      (strong : Account.checkPassword admin.password = .ok ())
      (free : state.accounts.users.find admin.username = none)
      (unkept : scheme.recordOf draws.salt admin.password = none) :
      Boots scheme draws state (.error .hashingFailed)
  | added {admin record} (named : state.settings.bootstrapAdmin = some admin)
      (strong : Account.checkPassword admin.password = .ok ())
      (free : state.accounts.users.find admin.username = none)
      (kept : scheme.recordOf draws.salt admin.password = some record) :
      Boots scheme draws state
        (.ok (state.withUser (adminUser draws admin record),
          [bootstrapEvent (adminUser draws admin record)]))

/-- The addition of the first account comes to one of these. -/
theorem boots (scheme : Account.SecretScheme) (draws : Account.Draws) (state : ServerState) :
    Boots scheme draws state (state.bootstrap scheme draws) := by
  unfold bootstrap
  cases named : state.settings.bootstrapAdmin with
  | none => exact .unset named
  | some admin =>
    dsimp only
    cases strong : Account.checkPassword admin.password with
    | error error => exact .weak named strong
    | ok =>
      dsimp only
      cases taken : state.accounts.users.find admin.username with
      | some user => exact .taken named strong taken
      | none =>
        dsimp only [Option.isSome_none]
        rw [if_neg Bool.false_ne_true, Account.User.create]
        cases kept : scheme.recordOf draws.salt admin.password with
        | none => exact .unkept named strong taken kept
        | some record =>
          -- The name that was looked up is the one under which the account is stored.
          have free : state.accounts.users.users.contains
              (Account.normalizeUsername admin.username) = false :=
            Option.isSome_eq_false_iff.mpr (Option.isNone_iff_eq_none.mpr taken)
          dsimp only [Account.UserTable.create]
          rw [free, if_neg Bool.false_ne_true]
          exact .added named strong taken kept

/-- The state behind the addition of the first account is the one before, or it has one more user
under a name in normal form that was free. -/
theorem booted_cases (scheme : Account.SecretScheme) (draws : Account.Draws) (state : ServerState) :
    state.booted scheme draws = state ∨
      ∃ admin user, state.settings.bootstrapAdmin = some admin ∧
        user.username = Account.normalizeUsername admin.username ∧
        state.accounts.users.find admin.username = none ∧
        state.booted scheme draws = state.withUser user := by
  have outcome := boots scheme draws state
  unfold booted
  generalize state.bootstrap scheme draws = result at outcome
  cases outcome with
  | unset | weak | taken | unkept => exact .inl rfl
  | @added admin record named _ free _ =>
    exact .inr ⟨admin, adminUser draws admin record, named, rfl, free, rfl⟩

/-- No user that is stored changes. -/
theorem get?_booted {name : String} {user : Account.User}
    (stored : state.accounts.users.users.get? name = some user) :
    (state.booted scheme draws).accounts.users.users.get? name = some user := by
  rcases booted_cases scheme draws state with same | ⟨admin, added, -, isNamed, free, isBooted⟩
  · rw [same, stored]
  · rw [isBooted, get?_withUser, if_neg, stored]
    rintro rfl
    rw [Account.UserTable.find, ← isNamed, stored] at free
    cases free

/-- Where the name of the first account is taken, nothing is added. -/
theorem booted_of_taken {admin : AdminSettings} {user : Account.User}
    (named : state.settings.bootstrapAdmin = some admin)
    (taken : state.accounts.users.find admin.username = some user) :
    state.booted scheme draws = state := by
  rcases booted_cases scheme draws state with same | ⟨other, added, isOther, -, free, -⟩
  · exact same
  · cases named.symm.trans isOther
    cases taken.symm.trans free

/-- The addition of the first account fails when the password is too short, or when it cannot be
kept though the name is free. -/
theorem bootstrap_fails_iff :
    (∃ error, state.bootstrap scheme draws = .error error) ↔
      ∃ admin, state.settings.bootstrapAdmin = some admin ∧
        (admin.password.length < 8 ∨
          state.accounts.users.find admin.username = none ∧
            scheme.recordOf draws.salt admin.password = none) := by
  have outcome := boots scheme draws state
  generalize state.bootstrap scheme draws = result at outcome
  cases outcome with
  | unset unset => simp [unset]
  | weak named weak =>
    refine iff_of_true ⟨_, rfl⟩ ⟨_, named, .inl (Nat.not_le.mp fun long => ?_)⟩
    rw [Account.checkPassword_eq_ok_iff.mpr long] at weak
    cases weak
  | taken named strong taken =>
    have long := Nat.not_lt.mpr (Account.checkPassword_eq_ok_iff.mp strong)
    simp [named, long, taken]
  | unkept named strong free unkept =>
    exact iff_of_true ⟨_, rfl⟩ ⟨_, named, .inr ⟨free, unkept⟩⟩
  | added named strong free kept =>
    have long := Nat.not_lt.mpr (Account.checkPassword_eq_ok_iff.mp strong)
    simp [named, long, kept]

/-- Where the name of the first account is taken, its password is checked and nothing is done. -/
theorem bootstrap_of_taken {admin : AdminSettings} {user : Account.User}
    (named : state.settings.bootstrapAdmin = some admin)
    (strong : Account.checkPassword admin.password = .ok ())
    (taken : state.accounts.users.find admin.username = some user) :
    state.bootstrap scheme draws = .ok (state, []) := by
  have outcome := boots scheme draws state
  generalize state.bootstrap scheme draws = result at outcome
  cases outcome with
  | unset | taken => rfl
  | weak isNamed weak =>
    cases named.symm.trans isNamed
    cases strong.symm.trans weak
  | unkept isNamed _ free _ | added isNamed _ free _ =>
    cases named.symm.trans isNamed
    cases taken.symm.trans free

/-- On a server at its start, a strong password that is kept makes the first account. -/
theorem bootstrap_start {settings : Settings} {admin : AdminSettings} {record : String}
    (named : settings.bootstrapAdmin = some admin)
    (strong : Account.checkPassword admin.password = .ok ())
    (kept : scheme.recordOf draws.salt admin.password = some record) :
    (start settings).bootstrap scheme draws =
      .ok ((start settings).withUser (adminUser draws admin record),
        [bootstrapEvent (adminUser draws admin record)]) := by
  have outcome := boots scheme draws (start settings)
  generalize (start settings).bootstrap scheme draws = result at outcome
  cases outcome with
  | unset unset => cases named.symm.trans unset
  | weak isNamed weak =>
    cases named.symm.trans isNamed
    cases strong.symm.trans weak
  | taken _ _ taken => cases taken
  | unkept isNamed _ _ unkept =>
    cases named.symm.trans isNamed
    cases kept.symm.trans unkept
  | added isNamed _ _ isKept =>
    cases named.symm.trans isNamed
    cases kept.symm.trans isKept
    rfl

end ServerState

/-- Valid settings that name a first account start a server that has it, and starting again
changes nothing: a login by any spelling of its name and by its password opens a session of a user
who may do what the first account may do. On every state, all users that are stored stay as they
are; where the name is taken, in any spelling, nothing is added; and when the addition fails, for
a password that is too short or cannot be kept, it leaves the state as it is. -/
theorem validated_settings_boot_usable_admin (scheme : Account.SecretScheme) :
    (∀ settings admin draws, settings.validate = .ok () → settings.bootstrapAdmin = some admin →
      scheme.Reopens draws.salt admin.password →
      ∃ next events, (ServerState.start settings).bootstrap scheme draws = .ok (next, events) ∧
        (∀ laterDraws, next.bootstrap scheme laterDraws = .ok (next, [])) ∧
        ∀ loginDraws username,
          Account.normalizeUsername username = Account.normalizeUsername admin.username →
          ∃ answer after logged,
            next.accounts.login scheme loginDraws username admin.password =
              (.ok answer, after, logged) ∧
            ∃ user, after.verify scheme answer.token = .ok user ∧ IsAdminTree user.permissions) ∧
    ∀ draws (state : ServerState),
      let booted := state.booted scheme draws
      (∀ name user, state.accounts.users.users.get? name = some user →
        booted.accounts.users.users.get? name = some user) ∧
      (∀ admin user, state.settings.bootstrapAdmin = some admin →
        state.accounts.users.find admin.username = some user → booted = state) ∧
      (∀ admin, state.settings.bootstrapAdmin = some admin → state.accounts.users.Named →
        ¬ state.accounts.users.IsFree admin.username → booted = state) ∧
      ((∃ error, state.bootstrap scheme draws = .error error) ↔
        ∃ admin, state.settings.bootstrapAdmin = some admin ∧
          (admin.password.length < 8 ∨
            state.accounts.users.find admin.username = none ∧
              scheme.recordOf draws.salt admin.password = none)) ∧
      ∀ error, state.bootstrap scheme draws = .error error → booted = state := by
  refine ⟨?fresh, fun draws state => ⟨fun _ _ => ServerState.get?_booted,
    fun _ _ => ServerState.booted_of_taken, ?taken, ServerState.bootstrap_fails_iff, ?failed⟩⟩
  case fresh =>
    intro settings admin draws valid named ⟨record, kept, opens⟩
    obtain ⟨notBlank, strong⟩ := settings.admin_of_validate valid named
    have started := ServerState.bootstrap_start named strong kept
    have found := (ServerState.get?_withUser (.start settings)
      (ServerState.adminUser draws admin record) (Account.normalizeUsername admin.username)).trans
        (if_pos rfl)
    have sameSettings : ((ServerState.start settings).withUser
        (ServerState.adminUser draws admin record)).settings = settings := rfl
    generalize (ServerState.start settings).withUser (ServerState.adminUser draws admin record) =
      next at started found sameSettings
    refine ⟨next, _, started, fun laterDraws => ?again, ?login⟩
    case again =>
      rw [← sameSettings] at named
      exact ServerState.bootstrap_of_taken named strong found
    case login =>
      intro loginDraws username sameName
      have notEmpty := Account.normalizeUsername_ne_empty notBlank
      rw [← sameName] at found notEmpty
      obtain ⟨answer, after, logged, answered, verified⟩ :=
        Account.Accounts.login_of_opens notEmpty found opens
      refine ⟨answer, after, logged, answered, _, verified, ?_⟩
      rw [ServerState.permissions_adminUser]
      exact isAdminTree_adminPermissions
  case taken =>
    intro admin named userNamed notFree
    obtain ⟨user, found⟩ := Option.ne_none_iff_exists'.mp (userNamed.isFree_iff.not.mp notFree)
    exact ServerState.booted_of_taken named found
  case failed =>
    intro error failed
    rw [ServerState.booted, failed]

/-- A first account whose name is not in normal form. -/
def root : AdminSettings := ⟨" Root ", "correct-horse"⟩

/-- Settings with a first account. -/
def rootSettings : Settings := { Settings.standard with bootstrapAdmin := some root }

/-- A user whose name is the normal form of that of the first account, with another password. -/
def otherRoot : Account.User := ⟨"root", "battery-staple", Account.noPermissions, none, 0⟩

/-- The first account is used under another spelling of its name. Beside a user of the name it is
not added, and with a password that is too short it is not added either. -/
theorem root_boots_once :
    let scheme := Account.Accounts.plainScheme
    let draws := Account.Accounts.evenDraws 0
    let used := (ServerState.start rootSettings).withUser otherRoot
    let weak := ServerState.start
      { rootSettings with bootstrapAdmin := some { root with password := "horse" } }
    rootSettings.validate = .ok () ∧ scheme.Reopens draws.salt root.password ∧
    (∃ next events, (ServerState.start rootSettings).bootstrap scheme draws = .ok (next, events) ∧
      next.bootstrap scheme draws = .ok (next, []) ∧
      ∃ answer after logged,
        next.accounts.login scheme draws "ROOT" "correct-horse" = (.ok answer, after, logged) ∧
        ∃ user, after.verify scheme answer.token = .ok user ∧
          Passes user.permissions ⟨Text.Utf8.ofString "\x7b\x7d", []⟩ serviceCreation) ∧
    used.accounts.users.Named ∧ ¬ used.accounts.users.IsFree root.username ∧
    used.booted scheme draws = used ∧
    ∃ error, weak.bootstrap scheme draws = .error error ∧ weak.booted scheme draws = weak := by
  intro scheme draws used weak
  have valid : rootSettings.validate = .ok () := by decide +kernel
  have reopens : scheme.Reopens draws.salt root.password :=
    (Account.Accounts.keeps_plainScheme _ _).reopens
  have spelling : Account.normalizeUsername "ROOT" = Account.normalizeUsername root.username := by
    decide +kernel
  have isObject : Json.ofOctets? (Text.Utf8.ofString "\x7b\x7d") = some (.object []) := by
    decide +kernel
  have named : used.accounts.users.Named :=
    Account.UserTable.named_empty.insert (by decide +kernel)
  have taken : used.accounts.users.users.get? (Account.normalizeUsername root.username) =
      some otherRoot := by
    decide +kernel
  have notFree : ¬ used.accounts.users.IsFree root.username :=
    named.isFree_iff.not.mpr (by simp [taken])
  obtain ⟨fresh, always⟩ := validated_settings_boot_usable_admin scheme
  obtain ⟨next, events, started, again, logins⟩ := fresh rootSettings root draws valid rfl reopens
  obtain ⟨answer, after, logged, answered, user, verified, isAdmin⟩ := logins draws "ROOT" spelling
  obtain ⟨-, -, unchanged, -, -⟩ := always draws used
  obtain ⟨-, -, -, fails, untouched⟩ := always draws weak
  obtain ⟨error, failed⟩ := fails.mpr ⟨_, rfl, .inl (by decide +kernel)⟩
  exact ⟨valid, reopens,
    ⟨next, events, started, again draws, answer, after, logged, answered, user, verified,
      isAdmin.serviceCreation _ _ _ isObject⟩,
    named, notFree, unchanged root rfl named notFree, error, failed, untouched error failed⟩

end Dashboard.Server
