import Dashboard.Proofs.Account.Effect
import Dashboard.Proofs.Table
import Mathlib.Data.List.Nodup

/-!
# Sessions and users agree

A session keeps a copy of its user, and users are stored in another table, so the two could
part. They do not: whatever calls are made, in any order, each stored user stands under its
own name in normal form, and each session holds the user that is stored now.
-/

namespace Dashboard.Account

namespace Accounts

/-- Users stand under their own names in normal form, one under each name, and sessions hold
the users that are stored. -/
structure Agree (accounts : Accounts) : Prop where
  distinct : accounts.users.users.keys.Nodup
  named : ∀ entry ∈ accounts.users.users.entries,
    entry.2.username = entry.1 ∧ normalizeUsername entry.1 = entry.1
  current : ∀ entry ∈ accounts.sessions.sessions.entries,
    accounts.users.users.get? entry.2.username = some entry.2

theorem agree_empty : empty.Agree where
  distinct := List.nodup_nil
  named := List.forall_mem_nil _
  current := List.forall_mem_nil _

section Agreement

variable {scheme : SecretScheme} {accounts next : Accounts} {operation : Operation}
  {issued more : List Issue} {token : String} {user : User}

/-- A token that is verified has a session under its key. -/
theorem get?_of_verify (verified : accounts.verify scheme token = .ok user) :
    accounts.sessions.sessions.get? (scheme.tokenKey token) = some user := by
  unfold verify SessionTable.find at verified
  split at verified
  · rename_i found
    cases verified
    exact found
  · cases verified

theorem mem_of_verify (verified : accounts.verify scheme token = .ok user) :
    (scheme.tokenKey token, user) ∈ accounts.sessions.sessions.entries :=
  Table.mem_of_get? (get?_of_verify verified)

theorem Agree.usersNamed (agree : accounts.Agree) : accounts.users.Named :=
  ⟨agree.distinct, agree.named⟩

/-- No call parts sessions and users. -/
theorem Effect.agree (effect : Effect scheme accounts operation next more)
    (before : accounts.Agree) : next.Agree := by
  have named := effect.named before.usersNamed
  refine ⟨named.distinct, named.named, fun entry isEntry => ?_⟩
  cases effect with
  | nothing => exact before.current entry isEntry
  | created _ free =>
    -- The user of a session is stored, so the free name is not its own.
    have stored := before.current entry isEntry
    rw [Table.get?_insert, if_neg, stored]
    intro taken
    rw [taken, free] at stored
    cases stored
  | opened found =>
    rcases Table.mem_put isEntry with rfl | isOld
    · exact before.usersNamed.get?_of_find found
    · exact before.current entry isOld
  | closed => exact before.current entry ((Table.remove_sublist _ _).subset isEntry)
  | @updated user =>
    -- Sessions of the name get the new record, and the others keep theirs, as the table does.
    obtain ⟨other, isOther, rfl⟩ := List.mem_map.mp isEntry
    have stored := before.current other isOther
    by_cases same : other.2.username = user.username
    · simp [same, Table.get?_insert]
    · simp [same, Table.get?_insert, stored]
  | deleted =>
    obtain ⟨isOld, remains⟩ := List.mem_filter.mp isEntry
    rw [Table.get?_erase before.distinct, if_neg (by simpa using remains)]
    exact before.current entry isOld

/-- Every session stands under the key of a token that was given out for its user. -/
def Issued (scheme : SecretScheme) (accounts : Accounts) (issued : List Issue) : Prop :=
  ∀ entry ∈ accounts.sessions.sessions.entries, ∃ issue ∈ issued,
    scheme.tokenKey issue.token = entry.1 ∧ issue.username = entry.2.username

/-- Every session behind an effect was issued before, or is one that the effect issues. -/
theorem Effect.issued_append (effect : Effect scheme accounts operation next more)
    (before : accounts.Issued scheme issued) : next.Issued scheme (issued ++ more) := by
  have earlier {entry : String × User} (isOld : entry ∈ accounts.sessions.sessions.entries) :
      ∃ issue ∈ issued ++ more, scheme.tokenKey issue.token = entry.1 ∧
        issue.username = entry.2.username := by
    obtain ⟨issue, isIssue, isFor⟩ := before entry isOld
    exact ⟨issue, List.mem_append_left more isIssue, isFor⟩
  intro entry isEntry
  cases effect with
  | nothing => exact earlier isEntry
  | created => exact earlier isEntry
  | opened =>
    rcases Table.mem_put isEntry with rfl | isOld
    · exact ⟨_, List.mem_append_right issued (.head _), rfl, rfl⟩
    · exact earlier isOld
  | closed => exact earlier ((Table.remove_sublist _ _).subset isEntry)
  | @updated user =>
    obtain ⟨other, isOther, rfl⟩ := List.mem_map.mp isEntry
    obtain ⟨issue, isIssue, isKey, isFor⟩ := earlier isOther
    refine ⟨issue, isIssue, isKey, ?_⟩
    by_cases same : other.2.username = user.username
    · simp [same, isFor]
    · simp [same, isFor]
  | deleted => exact earlier (List.mem_filter.mp isEntry).1

/-- Along every run, sessions and users agree, and sessions stand under tokens given out. -/
theorem run_invariant (scheme : SecretScheme) (operations : List Operation) :
    (run scheme operations).1.Agree ∧
      (run scheme operations).1.Issued scheme (run scheme operations).2 := by
  refine List.foldlRecOn
    (motive := fun (reached : Accounts × List Issue) =>
      reached.1.Agree ∧ reached.1.Issued scheme reached.2)
    operations _ ⟨agree_empty, List.forall_mem_nil _⟩ ?_
  intro reached ⟨agree, issued⟩ operation _
  have effect := perform_effect scheme reached.1 operation
  exact ⟨effect.agree agree, effect.issued_append issued⟩

/-- Where accounts agree, the user of a live session is stored as the session holds it. -/
theorem Agree.find_of_verify (agree : accounts.Agree)
    (verified : accounts.verify scheme token = .ok user) :
    accounts.users.users.get? user.username = some user :=
  agree.current _ (mem_of_verify verified)

/-- A token that opens no session is refused in the one way there is. -/
theorem verify_eq_error (ended : ∀ user, accounts.verify scheme token ≠ .ok user) :
    accounts.verify scheme token = .error .sessionInvalid := by
  unfold verify SessionTable.find at ended ⊢
  cases found : accounts.sessions.sessions.get? (scheme.tokenKey token) with
  | none => rfl
  | some user => exact absurd (by rw [found]) (ended user)

/-- Behind a deletion, no token is one of a user of the name. -/
theorem Agree.username_of_verify_deleteUser (agree : accounts.Agree) {username : String}
    (verified : (accounts.deleteUser username).2.1.verify scheme token = .ok user) :
    user.username ≠ normalizeUsername username := by
  intro same
  have agreeAfter := (perform_effect scheme accounts (.deleteUser username)).agree agree
  have stored := agreeAfter.find_of_verify verified
  have gone : (accounts.deleteUser username).2.1.users.users.get? user.username = none := by
    rw [same]
    exact (Table.get?_erase agree.distinct _ _).trans (if_pos rfl)
  exact Option.some_ne_none _ (stored.symm.trans gone)

/-- A user that is new has no sessions. -/
theorem Agree.username_of_verify_createUser (agree : accounts.Agree) {draws : Draws}
    {registration : Registration} {events : List Log.Event} {other : User}
    (created : accounts.createUser scheme draws registration = .ok (user, next, events))
    (verified : next.verify scheme token = .ok other) : other.username ≠ user.username := by
  obtain ⟨_, free, rfl⟩ := createUser_eq_ok created
  intro same
  -- The table of sessions is the one before, so the token opened the same user then.
  have verifiedBefore : accounts.verify scheme token = .ok other := verified
  have stored := agree.find_of_verify verifiedBefore
  rw [same, free] at stored
  cases stored

/-- A change of a user reaches every session of the user, and no other. -/
theorem verify_updateUser (updated : accounts.updateUser user = .ok next) (token : String) :
    next.verify scheme token = (accounts.verify scheme token).map fun old =>
      if old.username = user.username then user else old := by
  obtain ⟨_, rfl⟩ := updateUser_eq_ok updated
  unfold verify SessionTable.find SessionTable.refresh
  simp only [Table.get?_map]
  cases accounts.sessions.sessions.get? (scheme.tokenKey token) with
  | none => rfl
  | some old => simp [Except.map]

/-- No token is given out twice, and no two are kept under one key. -/
structure TokensApart (scheme : SecretScheme) (issued : List Issue) : Prop where
  fresh : (issued.map Issue.token).Nodup
  noCollision : ∀ first ∈ issued, ∀ second ∈ issued,
    scheme.tokenKey first.token = scheme.tokenKey second.token → first.token = second.token

/-- A token that is told apart from the others is only ever one of the user it was given to. -/
theorem Issued.username_of_verify {issue : Issue} (traced : accounts.Issued scheme issued)
    (apart : TokensApart scheme issued) (isIssue : issue ∈ issued)
    (verified : accounts.verify scheme issue.token = .ok user) :
    user.username = issue.username := by
  obtain ⟨other, isOther, isKey, isFor⟩ := traced _ (mem_of_verify verified)
  have sameToken := apart.noCollision other isOther issue isIssue isKey
  have same : other = issue := List.inj_on_of_nodup_map apart.fresh isOther isIssue sameToken
  rw [← same, isFor]

/-- While tokens lie apart, a token that opens no session of the user that it was issued for opens
none. -/
theorem Issued.verify_eq_error {issue : Issue} (traced : accounts.Issued scheme issued)
    (apart : TokensApart scheme issued) (isIssue : issue ∈ issued)
    (ended : ∀ user, accounts.verify scheme issue.token = .ok user →
      user.username ≠ issue.username) :
    accounts.verify scheme issue.token = .error .sessionInvalid :=
  Accounts.verify_eq_error fun user verified =>
    ended user verified (traced.username_of_verify apart isIssue verified)

/-- A deletion ends every session that a login opened for the user. -/
theorem Issued.verify_deleteUser {issue : Issue} {username : String}
    (traced : accounts.Issued scheme issued) (agree : accounts.Agree)
    (apart : TokensApart scheme issued) (isIssue : issue ∈ issued)
    (named : normalizeUsername username = issue.username) :
    (accounts.deleteUser username).2.1.verify scheme issue.token = .error .sessionInvalid := by
  have tracedAfter : (accounts.deleteUser username).2.1.Issued scheme issued := by
    have appended := (perform_effect scheme accounts (.deleteUser username)).issued_append traced
    have noIssue : accounts.issues scheme (.deleteUser username) = [] := rfl
    rwa [noIssue, List.append_nil] at appended
  refine tracedAfter.verify_eq_error apart isIssue fun user verified => ?_
  rw [← named]
  exact agree.username_of_verify_deleteUser verified

/-- A token that was given out for a name before the name was free opens nothing of its new
user. -/
theorem Issued.verify_createUser {issue : Issue} {draws : Draws} {registration : Registration}
    {events : List Log.Event} (traced : accounts.Issued scheme issued) (agree : accounts.Agree)
    (apart : TokensApart scheme issued) (isIssue : issue ∈ issued)
    (created : accounts.createUser scheme draws registration = .ok (user, next, events))
    (named : user.username = issue.username) :
    next.verify scheme issue.token = .error .sessionInvalid := by
  have tracedAfter : next.Issued scheme issued := by
    obtain ⟨_, _, rfl⟩ := createUser_eq_ok created
    exact traced
  refine tracedAfter.verify_eq_error apart isIssue fun other verified => ?_
  rw [← named]
  exact agree.username_of_verify_createUser created verified

/-- Behind a change of a user, a live token that was given out for the user sees the change. -/
theorem Issued.verify_updateUser {issue : Issue} (traced : accounts.Issued scheme issued)
    (apart : TokensApart scheme issued) (isIssue : issue ∈ issued)
    (updated : accounts.updateUser user = .ok next) (named : user.username = issue.username) :
    next.verify scheme issue.token =
      (accounts.verify scheme issue.token).map fun _ => user := by
  rw [Accounts.verify_updateUser updated]
  cases verified : accounts.verify scheme issue.token with
  | error error => rfl
  | ok old =>
    have isFor := traced.username_of_verify apart isIssue verified
    simp [Except.map, named, isFor]

end Agreement

/-- Behind every run users and sessions agree. So a deletion leaves no token of the user, a
new user has none, and a change of a user is seen under every token of the user. Where tokens
are told apart, this holds of each token that a login gave out for a name. -/
theorem sessions_agree_with_users (scheme : SecretScheme) (operations : List Operation) :
    let accounts := (run scheme operations).1
    let issued := (run scheme operations).2
    accounts.Agree ∧
    (∀ username token user,
      (accounts.deleteUser username).2.1.verify scheme token = .ok user →
        user.username ≠ normalizeUsername username) ∧
    (∀ draws registration user next events,
      accounts.createUser scheme draws registration = .ok (user, next, events) →
        user.username = normalizeUsername registration.username ∧
        ∀ token other, next.verify scheme token = .ok other →
          other.username ≠ user.username) ∧
    (∀ user next, accounts.updateUser user = .ok next → ∀ token,
      next.verify scheme token = (accounts.verify scheme token).map fun old =>
        if old.username = user.username then user else old) ∧
    (TokensApart scheme issued → ∀ issue ∈ issued,
      (∀ user, accounts.verify scheme issue.token = .ok user →
        user.username = issue.username) ∧
      (∀ username, normalizeUsername username = issue.username →
        (accounts.deleteUser username).2.1.verify scheme issue.token =
          .error .sessionInvalid) ∧
      (∀ draws registration user next events,
        accounts.createUser scheme draws registration = .ok (user, next, events) →
        user.username = issue.username →
          next.verify scheme issue.token = .error .sessionInvalid) ∧
      (∀ user next, accounts.updateUser user = .ok next → user.username = issue.username →
        next.verify scheme issue.token =
          (accounts.verify scheme issue.token).map fun _ => user)) := by
  intro accounts issued
  obtain ⟨agree, traced⟩ := run_invariant scheme operations
  refine ⟨agree, ?deletion, ?creation, ?change, ?perToken⟩
  case deletion => exact fun _ _ _ => agree.username_of_verify_deleteUser
  case creation =>
    intro draws registration user next events created
    exact ⟨(createUser_eq_ok created).1, fun _ _ => agree.username_of_verify_createUser created⟩
  case change => exact fun _ _ => verify_updateUser
  case perToken =>
    intro apart issue isIssue
    exact ⟨fun _ => traced.username_of_verify apart isIssue,
      fun _ => traced.verify_deleteUser agree apart isIssue,
      fun _ _ _ _ _ => traced.verify_createUser agree apart isIssue,
      fun _ _ => traced.verify_updateUser apart isIssue⟩

/-- Passwords kept as they are, and tokens as digests. -/
def plainScheme : SecretScheme where
  recordOf _ password := some password
  opens record password := some (record == password)
  tokenKey := SecretScheme.tokenDigest

/-- Draws in which all octets of the token are the same. -/
def evenDraws (octet : UInt8) : Draws := ⟨0, [], List.replicate 32 octet, []⟩

/-- A registration under a spelling of a name. -/
def aliceRegistration : Registration :=
  ⟨" Alice", "correct-horse", "correct-horse", noPermissions⟩

/-- A registration and two logins under other spellings of the name. -/
def aliceLogins : List Operation :=
  [.createUser (evenDraws 0) aliceRegistration, .login (evenDraws 0) "ALICE" "correct-horse",
    .login (evenDraws 255) "alice " "correct-horse"]

/-- The user of the registration, with permissions. -/
def alice (permissions : Json) : User := ⟨"alice", "correct-horse", permissions, none, 0⟩

/-- Both tokens of a user see the user as it is stored and see a change of it, and neither
outlives the user. -/
theorem sessions_of_alice_agree :
    let accounts := (run plainScheme aliceLogins).1
    let issued := (run plainScheme aliceLogins).2
    let changed := alice (.object [("read", .bool true)])
    issued.length = 2 ∧ TokensApart plainScheme issued ∧
    ∀ issue ∈ issued,
      accounts.verify plainScheme issue.token = .ok (alice noPermissions) ∧
      (accounts.deleteUser "aLICE").2.1.verify plainScheme issue.token =
        .error .sessionInvalid ∧
      ∃ next, accounts.updateUser changed = .ok next ∧
        next.verify plainScheme issue.token = .ok changed := by
  have two : (run plainScheme aliceLogins).2.length = 2 := by decide +kernel
  have keysApart : ((run plainScheme aliceLogins).2.map
      fun issue => plainScheme.tokenKey issue.token).Nodup := by
    decide +kernel
  have live : ∀ issue ∈ (run plainScheme aliceLogins).2, issue.username = "alice" ∧
      (run plainScheme aliceLogins).1.verify plainScheme issue.token =
        .ok (alice noPermissions) := by
    decide +kernel
  have stored : ((run plainScheme aliceLogins).1.updateUser
      (alice (.object [("read", .bool true)]))).isOk := by
    decide +kernel
  have isAlice : normalizeUsername "aLICE" = "alice" := by decide +kernel
  obtain ⟨_, _, _, _, perToken⟩ := sessions_agree_with_users plainScheme aliceLogins
  -- Nothing below looks into the run, which is dear to unfold.
  generalize run plainScheme aliceLogins = reached at *
  intro accounts issued changed
  have apart : TokensApart plainScheme issued :=
    ⟨.of_map plainScheme.tokenKey (by rwa [List.map_map]),
      fun first isFirst second isSecond sameKey =>
        congrArg Issue.token (List.inj_on_of_nodup_map keysApart isFirst isSecond sameKey)⟩
  refine ⟨two, apart, fun issue isIssue => ?_⟩
  obtain ⟨named, verified⟩ := live issue isIssue
  obtain ⟨_, afterDeletion, _, afterChange⟩ := perToken apart issue isIssue
  refine ⟨verified, afterDeletion "aLICE" (isAlice.trans named.symm), ?_⟩
  cases updated : accounts.updateUser changed with
  | error error =>
    rw [updated] at stored
    cases stored
  | ok next =>
    refine ⟨next, rfl, ?_⟩
    rw [afterChange changed next updated named.symm, verified]
    rfl

end Accounts

end Dashboard.Account
