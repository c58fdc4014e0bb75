import Dashboard.Proofs.Account.Agreement

/-!
# Registrations and logins fit together

A registration is refused by the first rule that it breaks, and one that breaks none is stored.
From then on the password opens a session under every spelling of the name, and no other
password does, until the user is replaced or removed.
-/

namespace Dashboard.Account

/-- A scheme keeps a password under a salt: there is a record of it, which opens with this
password and with no other. -/
def SecretScheme.Keeps (scheme : SecretScheme) (salt : List UInt8) (password : String) : Prop :=
  ∃ record, scheme.recordOf salt password = some record ∧
    ∀ other, scheme.opens record other = some (decide (other = password))

/-- The error is that of the first rule that does not hold. -/
inductive FirstBroken : List (Prop × AccountError) → AccountError → Prop where
  | here {rule error rest} (broken : ¬ rule) : FirstBroken ((rule, error) :: rest) error
  | further {rule other rest error} (holds : rule) (behind : FirstBroken rest error) :
      FirstBroken ((rule, other) :: rest) error

section Rules

variable {rules : List (Prop × AccountError)} {error other : AccountError}

/-- A list of rules has one first broken rule at most. -/
theorem FirstBroken.unique (broken : FirstBroken rules error) (isOther : FirstBroken rules other) :
    error = other := by
  induction broken with
  | here broken =>
    cases isOther with
    | here => rfl
    | further holds => exact absurd holds broken
  | further holds _ inductionHypothesis =>
    cases isOther with
    | here broken => exact absurd holds broken
    | further _ behind => exact inductionHypothesis behind

/-- Where a rule is broken, not all of them hold. -/
theorem FirstBroken.not_all (broken : FirstBroken rules error) : ¬ ∀ rule ∈ rules, rule.1 := by
  intro all
  induction broken with
  | here broken => exact broken (all _ List.mem_cons_self)
  | further _ _ inductionHypothesis =>
    exact inductionHypothesis fun rule isRule => all rule (List.mem_cons_of_mem _ isRule)

/-- Rules behind the first broken one do not matter. -/
theorem FirstBroken.append_left (broken : FirstBroken rules error)
    (more : List (Prop × AccountError)) : FirstBroken (rules ++ more) error := by
  induction broken with
  | here broken => exact .here broken
  | further holds _ inductionHypothesis => exact .further holds inductionHypothesis

/-- Behind rules that all hold, the first broken rule of the others is the first of all. -/
theorem FirstBroken.append_right {more : List (Prop × AccountError)}
    (all : ∀ rule ∈ rules, rule.1) (broken : FirstBroken more error) :
    FirstBroken (rules ++ more) error := by
  induction rules with
  | nil => exact broken
  | cons rule rest inductionHypothesis =>
    obtain ⟨holds, others⟩ := List.forall_mem_cons.mp all
    exact .further holds (inductionHypothesis others)

end Rules

/-- The normal form of a name that is not blank is not empty. -/
theorem normalizeUsername_ne_empty {username : String} (notBlank : Text.trim username ≠ "") :
    normalizeUsername username ≠ "" :=
  fun isEmpty => notBlank (Text.eq_empty_of_lowercase isEmpty)

namespace Registration

variable {registration : Registration}

/-- The rules that a registration is checked by, each with the error of one that breaks it. -/
def rules (registration : Registration) : List (Prop × AccountError) :=
  [(Text.trim registration.username ≠ "", .emptyField "Username"),
    (registration.password ≠ "", .emptyField "Password"),
    (8 ≤ registration.password.length,
      .weakPassword "Password must be at least 8 characters long"),
    (registration.repeatPassword = registration.password, .passwordMismatch)]

/-- A registration is valid and keeps all of its rules, or is refused for the first broken one. -/
theorem validate_cases (registration : Registration) :
    (registration.validate = .ok () ∧ ∀ rule ∈ registration.rules, rule.1) ∨
      ∃ error, registration.validate = .error error ∧ FirstBroken registration.rules error := by
  unfold validate checkPassword rules leastPasswordLength
  rw [String.length_toList]
  by_cases named : Text.trim registration.username = ""
  · exact .inr ⟨_, if_pos (Text.trim_eq_empty_iff.mp named), .here (not_not_intro named)⟩
  rw [if_neg (Text.trim_eq_empty_iff.not.mp named)]
  by_cases given : registration.password = ""
  · exact .inr ⟨_, if_pos (by simp [given]), .further named (.here (not_not_intro given))⟩
  rw [if_neg (by simpa using given)]
  by_cases long : 8 ≤ registration.password.length
  · rw [if_neg (Nat.not_lt.mpr long)]
    by_cases repeated : registration.repeatPassword = registration.password
    · exact .inl ⟨if_pos repeated, by simp [named, given, long, repeated]⟩
    · exact .inr ⟨_, if_neg repeated,
        .further named (.further given (.further long (.here repeated)))⟩
  · rw [if_pos (Nat.not_le.mp long)]
    exact .inr ⟨_, rfl, .further named (.further given (.here long))⟩

end Registration

namespace UserTable

/-- No user that is stored has a name of the same normal form. -/
def IsFree (table : UserTable) (username : String) : Prop :=
  ∀ user ∈ table.users.values, normalizeUsername user.username ≠ normalizeUsername username

variable {table : UserTable} {username : String}

/-- Where users stand under normal names, a name is free when its normal form is not stored. -/
theorem Named.isFree_iff (named : table.Named) :
    table.IsFree username ↔ table.users.get? (normalizeUsername username) = none := by
  constructor
  · intro free
    by_contra taken
    obtain ⟨user, found⟩ := Option.ne_none_iff_exists'.mp taken
    have isEntry := Table.mem_of_get? found
    refine free user (List.mem_map_of_mem isEntry) ?_
    rw [(named.named _ isEntry).1, normalizeUsername_normalizeUsername]
  · intro absent user isValue same
    obtain ⟨⟨key, _⟩, isEntry, rfl⟩ := List.mem_map.mp isValue
    obtain ⟨isKey, isNormal⟩ := named.named _ isEntry
    dsimp only at isKey isNormal same
    rw [isKey, isNormal] at same
    rw [← same, (Table.get?_eq_some_iff named.distinct).mpr isEntry] at absent
    cases absent

/-- Users that are stored have names of different normal forms. -/
theorem Named.nodup_normal (named : table.Named) :
    (table.users.values.map fun user => normalizeUsername user.username).Nodup := by
  have areKeys : (table.users.values.map fun user => normalizeUsername user.username) =
      table.users.keys := by
    rw [Table.values, Table.keys, List.map_map]
    refine List.map_congr_left fun entry isEntry => ?_
    obtain ⟨isKey, isNormal⟩ := named.named entry isEntry
    rw [Function.comp_apply, isKey, isNormal]
  rw [areKeys]
  exact named.distinct

end UserTable

namespace Operation

/-- A call replaces or removes the user of a name. -/
def Changes (name : String) : Operation → Prop
  | updateUser user => user.username = name
  | deleteUser username => normalizeUsername username = name
  | createUser _ _ | login _ _ _ | logout _ => False

end Operation

namespace Accounts

section Calls

variable {scheme : SecretScheme} {draws : Draws} {accounts next : Accounts} {user : User}
  {registration : Registration} {operation : Operation} {more : List Issue} {name : String}

/-- All rules of a registration, with the one that its name is free. -/
def rules (accounts : Accounts) (registration : Registration) : List (Prop × AccountError) :=
  registration.rules ++
    [(accounts.users.IsFree registration.username,
      .userExists (normalizeUsername registration.username))]

/-- The user that a registration asks for, with the record of the password. -/
def newUser (draws : Draws) (registration : Registration) (record : String) : User :=
  ⟨normalizeUsername registration.username, record, registration.permissions, none, draws.now⟩

/-- A registration that breaks no rule is stored, and another is refused by the first rule that
it breaks. -/
theorem createUser_cases (registration : Registration) (named : accounts.users.Named)
    {record : String}
    (kept : scheme.recordOf draws.salt registration.password = some record) :
    ((∀ rule ∈ accounts.rules registration, rule.1) ∧
      accounts.createUser scheme draws registration =
        .ok (newUser draws registration record,
          ⟨⟨accounts.users.users.insert (normalizeUsername registration.username)
            (newUser draws registration record)⟩, accounts.sessions⟩,
          [createdEvent (newUser draws registration record)])) ∨
      ∃ error, accounts.createUser scheme draws registration = .error error ∧
        FirstBroken (accounts.rules registration) error := by
  have isMade : User.create scheme draws registration.username registration.password
      registration.permissions = .ok (newUser draws registration record) := by
    rw [User.create, kept]
    rfl
  unfold createUser rules
  rcases registration.validate_cases with ⟨valid, all⟩ | ⟨error, invalid, broken⟩
  · rw [valid]
    dsimp only
    rw [isMade]
    dsimp only
    unfold UserTable.create Table.contains
    by_cases free : accounts.users.IsFree registration.username
    · have absent : accounts.users.users.get? (newUser draws registration record).username = none :=
        named.isFree_iff.mp free
      rw [absent]
      exact .inl ⟨List.forall_mem_append.mpr ⟨all, by simpa using free⟩, rfl⟩
    · have taken : (accounts.users.users.get?
          (newUser draws registration record).username).isSome = true :=
        Option.isSome_iff_ne_none.mpr (named.isFree_iff.not.mp free)
      rw [if_pos taken]
      exact .inr ⟨_, rfl, .append_right all (.here free)⟩
  · rw [invalid]
    exact .inr ⟨error, rfl, broken.append_left _⟩

/-- A user that is stored stays stored until it is replaced or removed. -/
theorem Effect.get?_of_not_changes (effect : Effect scheme accounts operation next more)
    (named : accounts.users.Named) (found : accounts.users.users.get? name = some user)
    (spared : ¬ operation.Changes name) : next.users.users.get? name = some user := by
  cases effect with
  | nothing | opened | closed => exact found
  | created _ free =>
    rw [Table.get?_insert, if_neg, found]
    intro taken
    rw [taken, free] at found
    cases found
  | updated => rw [Table.get?_insert, if_neg (Ne.symm spared), found]
  | deleted => rw [Table.get?_erase named.distinct, if_neg (Ne.symm spared), found]

/-- The password alone decides whether a stored user with a readable record is authenticated. -/
theorem authenticate_of_get? {users : UserTable} {username password : String} {same : Bool}
    (notEmpty : normalizeUsername username ≠ "")
    (found : users.users.get? (normalizeUsername username) = some user)
    (opened : scheme.opens user.passwordRecord password = some same) :
    authenticate scheme users username password =
      if same then (.ok user, [])
      else (.error .invalidCredentials, [refusedEvent (normalizeUsername username)]) := by
  unfold authenticate
  dsimp only
  rw [if_neg (by simpa using notEmpty), UserTable.find, normalizeUsername_normalizeUsername, found]
  dsimp only
  rw [User.checkPassword, opened]
  cases same <;> rfl

/-- Operations that spare a name leave its user as it is. -/
theorem get?_foldl_of_not_changes {later : List Operation} (named : accounts.users.Named)
    (found : accounts.users.users.get? name = some user)
    (spared : ∀ operation ∈ later, ¬ operation.Changes name) :
    (later.foldl (perform scheme) accounts).users.users.get? name = some user := by
  induction later generalizing accounts with
  | nil => exact found
  | cons operation later inductionHypothesis =>
    obtain ⟨first, others⟩ := List.forall_mem_cons.mp spared
    have effect := perform_effect scheme accounts operation
    exact inductionHypothesis (effect.named named) (effect.get?_of_not_changes named found first)
      others

/-- A login with the password of a stored user opens a session of the user. -/
theorem login_of_opens {username password : String} (notEmpty : normalizeUsername username ≠ "")
    (found : accounts.users.users.get? (normalizeUsername username) = some user)
    (opened : scheme.opens user.passwordRecord password = some true) :
    ∃ answer after events,
      accounts.login scheme draws username password = (.ok answer, after, events) ∧
        after.verify scheme answer.token = .ok user := by
  have authentic := authenticate_of_get? notEmpty found opened
  rw [if_pos rfl] at authentic
  refine ⟨_, _, _, login_of_ok authentic, ?_⟩
  rw [verify, SessionTable.find, Table.get?_insert, if_pos rfl]

/-- A login with another password opens nothing. -/
theorem login_of_not_opens {username password : String}
    (notEmpty : normalizeUsername username ≠ "")
    (found : accounts.users.users.get? (normalizeUsername username) = some user)
    (notOpened : scheme.opens user.passwordRecord password = some false) :
    ∃ events, accounts.login scheme draws username password =
      (.error .invalidCredentials, accounts, events) := by
  have refused := authenticate_of_get? notEmpty found notOpened
  rw [if_neg Bool.false_ne_true] at refused
  exact ⟨_, login_of_error refused⟩

/-- A registration whose password is kept is stored exactly when it breaks no rule. -/
theorem createUser_eq_ok_iff (named : accounts.users.Named)
    (keeps : scheme.Keeps draws.salt registration.password) :
    (∃ created, accounts.createUser scheme draws registration = .ok created) ↔
      ∀ rule ∈ accounts.rules registration, rule.1 := by
  obtain ⟨record, kept, -⟩ := keeps
  rcases createUser_cases registration named kept with
    ⟨all, created⟩ | ⟨error, refused, broken⟩
  · exact iff_of_true ⟨_, created⟩ all
  · rw [refused]
    exact iff_of_false (by simp) broken.not_all

/-- A registration whose password is kept is refused by the first rule that it breaks. -/
theorem createUser_eq_error_iff (named : accounts.users.Named)
    (keeps : scheme.Keeps draws.salt registration.password) (error : AccountError) :
    accounts.createUser scheme draws registration = .error error ↔
      FirstBroken (accounts.rules registration) error := by
  obtain ⟨record, kept, -⟩ := keeps
  rcases createUser_cases registration named kept with
    ⟨all, created⟩ | ⟨other, refused, broken⟩
  · rw [created]
    exact iff_of_false (by simp) fun broken => broken.not_all all
  · rw [refused, Except.error.injEq]
    exact ⟨fun same => same ▸ broken, broken.unique⟩

/-- A registration that is stored leaves its user under a name that is not empty, and the record
of the user opens with the password registered and with no other. -/
theorem stored_of_createUser {events : List Log.Event} (named : accounts.users.Named)
    (keeps : scheme.Keeps draws.salt registration.password)
    (created : accounts.createUser scheme draws registration = .ok (user, next, events)) :
    normalizeUsername registration.username ≠ "" ∧
      next.users.users.get? (normalizeUsername registration.username) = some user ∧
      user.permissions = registration.permissions ∧
      ∀ password, scheme.opens user.passwordRecord password =
        some (decide (password = registration.password)) := by
  obtain ⟨record, kept, opens⟩ := keeps
  rcases createUser_cases registration named kept with
    ⟨all, isCreated⟩ | ⟨error, refused, -⟩
  · have notBlank : Text.trim registration.username ≠ "" := all _ List.mem_cons_self
    have same := Except.ok.inj (isCreated.symm.trans created)
    obtain ⟨rfl, isRest⟩ := Prod.mk.inj same
    obtain ⟨rfl, -⟩ := Prod.mk.inj isRest
    exact ⟨normalizeUsername_ne_empty notBlank, (Table.get?_insert _ _ _ _).trans (if_pos rfl),
      rfl, opens⟩
  · rw [refused] at created
    cases created

end Calls

/-- Behind every run a registration whose password is kept is stored exactly when it breaks no
rule. Else it is refused by the first rule that it breaks, and nothing changes. While no call
replaces or removes the new user, a login under any spelling of the name opens a session of the
user with the permissions asked for, when the password is the one registered, and fails else. No
two users that are stored have names of one normal form. -/
theorem registrations_fit_logins {scheme : SecretScheme} {draws : Draws}
    {registration : Registration} (keeps : scheme.Keeps draws.salt registration.password)
    (operations : List Operation) :
    let accounts := (run scheme operations).1
    (accounts.users.users.values.map fun user => normalizeUsername user.username).Nodup ∧
    ((∃ created, accounts.createUser scheme draws registration = .ok created) ↔
      ∀ rule ∈ accounts.rules registration, rule.1) ∧
    (∀ error, accounts.createUser scheme draws registration = .error error ↔
      FirstBroken (accounts.rules registration) error) ∧
    (∀ error, accounts.createUser scheme draws registration = .error error →
      accounts.perform scheme (.createUser draws registration) = accounts) ∧
    ∀ user next events,
      accounts.createUser scheme draws registration = .ok (user, next, events) →
      ∀ later : List Operation,
        (∀ operation ∈ later, ¬ operation.Changes (normalizeUsername registration.username)) →
      ∀ loginDraws username password,
        normalizeUsername username = normalizeUsername registration.username →
        let reached := later.foldl (perform scheme) next
        (password = registration.password → ∃ answer after events,
          reached.login scheme loginDraws username password = (.ok answer, after, events) ∧
          ∃ opened, after.verify scheme answer.token = .ok opened ∧
            opened.username = normalizeUsername registration.username ∧
            opened.permissions = registration.permissions) ∧
        (password ≠ registration.password → ∃ events,
          reached.login scheme loginDraws username password =
            (.error .invalidCredentials, reached, events)) := by
  intro accounts
  have named : accounts.users.Named := (run_invariant scheme operations).1.usersNamed
  refine ⟨named.nodup_normal, createUser_eq_ok_iff named keeps,
    createUser_eq_error_iff named keeps, fun error refused => ?unchanged, ?logins⟩
  case unchanged =>
    rw [perform, refused]
    rfl
  case logins =>
    intro user next events created later spared loginDraws username password sameName reached
    obtain ⟨notEmpty, stored, granted, opens⟩ := stored_of_createUser named keeps created
    obtain ⟨isNamed, -, isNext⟩ := createUser_eq_ok created
    have namedNext : next.users.Named := by
      rw [isNext]
      exact named.insert (by rw [isNamed, normalizeUsername_normalizeUsername])
    have found : reached.users.users.get? (normalizeUsername registration.username) = some user :=
      get?_foldl_of_not_changes namedNext stored spared
    rw [← sameName] at notEmpty found
    constructor
    · intro isPassword
      obtain ⟨answer, after, logged, answered, verified⟩ :=
        login_of_opens notEmpty found ((opens password).trans (by simp [isPassword]))
      exact ⟨answer, after, logged, answered, user, verified, isNamed, granted⟩
    · intro isOther
      exact login_of_not_opens notEmpty found ((opens password).trans (by simp [isOther]))

/-- The scheme that keeps passwords as they are opens its own records. -/
theorem keeps_plainScheme (salt : List UInt8) (password : String) :
    plainScheme.Keeps salt password := by
  refine ⟨password, rfl, fun other => congrArg some ?_⟩
  rw [← beq_eq_decide, Bool.beq_comm]

/-- A user who registers beside another one logs in under another spelling of the name when the
other one is gone, and not with a password that is off by a letter. -/
theorem registration_of_bob_fits_logins :
    let registration : Registration :=
      ⟨" Bob", "battery-staple", "battery-staple", .object [("read", .bool true)]⟩
    let accounts := (run plainScheme aliceLogins).1
    plainScheme.Keeps (evenDraws 1).salt registration.password ∧
    ∃ user next events,
      accounts.createUser plainScheme (evenDraws 1) registration = .ok (user, next, events) ∧
      let reached := [Operation.deleteUser "aLICE"].foldl (perform plainScheme) next
      (∃ answer after events,
        reached.login plainScheme (evenDraws 2) "BOB " "battery-staple" =
          (.ok answer, after, events) ∧
        ∃ opened, after.verify plainScheme answer.token = .ok opened ∧ opened.username = "bob" ∧
          opened.permissions = .object [("read", .bool true)]) ∧
      ∃ events, reached.login plainScheme (evenDraws 2) "bob" "battery-stable" =
        (.error .invalidCredentials, reached, events) := by
  intro registration
  have keeps : plainScheme.Keeps (evenDraws 1).salt registration.password := keeps_plainScheme _ _
  have isStored : ((run plainScheme aliceLogins).1.createUser plainScheme (evenDraws 1)
      registration).isOk = true := by
    decide +kernel
  have spellings : normalizeUsername " Bob" = "bob" ∧ normalizeUsername "BOB " = "bob" ∧
      normalizeUsername "bob" = "bob" ∧ normalizeUsername "aLICE" = "alice" := by
    decide +kernel
  obtain ⟨ofRegistration, ofLogin, ofOther, ofAlice⟩ := spellings
  obtain ⟨-, -, -, -, logins⟩ := registrations_fit_logins keeps aliceLogins
  -- Nothing below looks into the run, which is dear to unfold.
  generalize run plainScheme aliceLogins = behind at *
  intro accounts
  cases created : accounts.createUser plainScheme (evenDraws 1) registration with
  | error error =>
    rw [created] at isStored
    cases isStored
  | ok answer =>
    obtain ⟨user, next, events⟩ := answer
    have spared : ∀ operation ∈ [Operation.deleteUser "aLICE"],
        ¬ operation.Changes (normalizeUsername registration.username) := by
      simp [Operation.Changes, registration, ofRegistration, ofAlice]
    have fits := logins user next events created _ spared (evenDraws 2)
    obtain ⟨answer, after, logged, answered, opened, verified, named, granted⟩ :=
      (fits "BOB " "battery-staple" (ofLogin.trans ofRegistration.symm)).1 rfl
    refine ⟨keeps, user, next, events, rfl, ⟨answer, after, logged, answered, opened, verified,
      named.trans ofRegistration, granted⟩, ?_⟩
    exact (fits "bob" "battery-stable" (ofOther.trans ofRegistration.symm)).2 (by decide)

end Accounts

end Dashboard.Account
