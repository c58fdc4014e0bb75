import Dashboard.Account.SessionTable
import Dashboard.Proofs.Table
import Mathlib.Data.List.Induction
import Mathlib.Data.List.Nodup
import Mathlib.Data.Set.Function

/-!
# Sessions answer by their history

What a token opens is told by the calls that were made, without a look at the table: the call
that opened its session, the calls behind it that could have ended it, and the last of them
that replaced its user. The table agrees with this telling behind every history, and so do the
counts that its calls answer.
-/

namespace Dashboard.Account

/-- A call that may change the table of sessions. -/
inductive SessionCall where
  | opened (token : String) (user : User)
  | closed (token : String)
  | endedAll (username : String)
  | refreshed (user : User)

namespace SessionCall

/-- The token that a call gives out. -/
def issue? : SessionCall → Option String
  | opened token _ => some token
  | closed _ | endedAll _ | refreshed _ => none

/-- The token that a call is about. -/
def token? : SessionCall → Option String
  | opened token _ | closed token => some token
  | endedAll _ | refreshed _ => none

/-- The token that a call gives out is the one that it is about. -/
theorem token?_of_issue? {call : SessionCall} {token : String}
    (given : call.issue? = some token) : call.token? = some token := by
  cases call with
  | opened other user => exact given
  | closed _ | endedAll _ | refreshed _ => cases given

/-- A call ends the session of a token for a user of a name. -/
def Ends (token username : String) : SessionCall → Prop
  | closed other => other = token
  | endedAll name => normalizeUsername name = username
  | opened _ _ | refreshed _ => False

/-- The user that a call puts in the place of a user of a name. -/
def replacement? (username : String) : SessionCall → Option User
  | refreshed user => if user.username = username then some user else none
  | opened _ _ | closed _ | endedAll _ => none

/-- A call is about a token or about the users of a name. -/
def Concerns (token username : String) : SessionCall → Prop
  | opened other _ | closed other => other = token
  | endedAll name => normalizeUsername name = username
  | refreshed user => user.username = username

end SessionCall

/-- The tokens that some calls gave out. -/
def issuedTokens (calls : List SessionCall) : List String := calls.filterMap SessionCall.issue?

/-- The user of a session that was opened for a user, behind further calls: the last one that
replaced the users of the name, or else the user of the opening. -/
def currentUser (created : User) (later : List SessionCall) : User :=
  (later.filterMap (SessionCall.replacement? created.username)).getLastD created

/-- Some calls open the session of a token for a user, and none of the later ones ends it. -/
structure Lives (calls : List SessionCall) (token : String) (created : User)
    (later : List SessionCall) : Prop where
  opened : ∃ earlier, calls = earlier ++ .opened token created :: later
  spared : ∀ call ∈ later, ¬ call.Ends token created.username

/-- By some calls, the session of a token lives and has a user. -/
def Holds (calls : List SessionCall) (token : String) (user : User) : Prop :=
  ∃ created later, Lives calls token created later ∧ user = currentUser created later

section History

variable {calls later : List SessionCall} {call : SessionCall} {token : String}
  {user created : User}

/-- The last call that replaces a user decides who it is. -/
theorem currentUser_concat (created : User) (later : List SessionCall) (call : SessionCall) :
    currentUser created (later ++ [call]) =
      (call.replacement? created.username).getD (currentUser created later) := by
  unfold currentUser
  cases replaced : call.replacement? created.username <;>
    simp [List.filterMap_append, replaced]

/-- A user is replaced by one of the same name only. -/
theorem SessionCall.username_of_replacement? {username : String}
    (replaced : call.replacement? username = some user) : user.username = username := by
  cases call with
  | refreshed other =>
    simp only [replacement?] at replaced
    split at replaced
    · rename_i named
      rwa [← Option.some.inj replaced]
    · cases replaced
  | opened _ _ | closed _ | endedAll _ => cases replaced

/-- A replacement never changes the name of a session's user. -/
theorem username_currentUser (created : User) (later : List SessionCall) :
    (currentUser created later).username = created.username := by
  induction later using List.reverseRecOn with
  | nil => rfl
  | append_singleton later call inductionHypothesis =>
    rw [currentUser_concat]
    cases replaced : call.replacement? created.username with
    | none => exact inductionHypothesis
    | some user => exact SessionCall.username_of_replacement? replaced

/-- A session that lives was opened under a token that was given out. -/
theorem mem_issuedTokens_of_lives (lives : Lives calls token created later) :
    token ∈ issuedTokens calls := by
  obtain ⟨earlier, rfl⟩ := lives.opened
  simp [issuedTokens, SessionCall.issue?]

/-- What one more call leaves of the sessions that live: the one that it opens, and those that
it does not end. -/
theorem lives_concat_iff :
    Lives (calls ++ [call]) token created later ↔
      (call = .opened token created ∧ later = []) ∨
        ∃ between, later = between ++ [call] ∧ Lives calls token created between ∧
          ¬ call.Ends token created.username := by
  constructor
  · rintro ⟨⟨earlier, split⟩, spared⟩
    rcases List.eq_nil_or_concat' later with rfl | ⟨between, last, rfl⟩
    · obtain ⟨_, isLast⟩ := List.append_inj' split rfl
      exact .inl ⟨List.head_eq_of_cons_eq isLast, rfl⟩
    · rw [← List.cons_append, ← List.append_assoc] at split
      obtain ⟨isBefore, isLast⟩ := List.append_inj' split rfl
      obtain rfl := List.head_eq_of_cons_eq isLast
      refine .inr ⟨between, rfl, ⟨⟨earlier, isBefore⟩, fun other isOther => ?_⟩, ?_⟩
      · exact spared other (List.mem_append_left _ isOther)
      · exact spared call (by simp)
  · rintro (⟨rfl, rfl⟩ | ⟨between, rfl, ⟨⟨earlier, rfl⟩, spared⟩, spares⟩)
    · exact ⟨⟨calls, rfl⟩, List.forall_mem_nil _⟩
    · refine ⟨⟨earlier, by simp⟩, fun other isOther => ?_⟩
      rcases List.mem_append.mp isOther with isBetween | isLast
      · exact spared other isBetween
      · obtain rfl := List.mem_singleton.mp isLast
        exact spares

/-- The user of a session behind one more call. -/
theorem holds_concat_iff :
    Holds (calls ++ [call]) token user ↔
      call = .opened token user ∨
        ∃ old, Holds calls token old ∧ ¬ call.Ends token old.username ∧
          user = (call.replacement? old.username).getD old := by
  constructor
  · rintro ⟨created, later, lives, rfl⟩
    rcases lives_concat_iff.mp lives with ⟨rfl, rfl⟩ | ⟨between, rfl, livesBefore, spares⟩
    · exact .inl rfl
    · refine .inr ⟨currentUser created between, ⟨created, between, livesBefore, rfl⟩, ?_⟩
      rw [username_currentUser, currentUser_concat]
      exact ⟨spares, rfl⟩
  · rintro (rfl | ⟨_, ⟨created, between, lives, rfl⟩, spares, rfl⟩)
    · exact ⟨user, [], lives_concat_iff.mpr (.inl ⟨rfl, rfl⟩), rfl⟩
    · rw [username_currentUser] at spares ⊢
      exact ⟨created, between ++ [call],
        lives_concat_iff.mpr (.inr ⟨between, rfl, lives, spares⟩),
        (currentUser_concat created between call).symm⟩

end History

namespace SessionTable

/-- The table behind a call. -/
def perform (scheme : SecretScheme) (table : SessionTable) : SessionCall → SessionTable
  | .opened token user => (table.openSession scheme token user).1
  | .closed token => (table.closeSession scheme token).2.1
  | .endedAll username => (table.endAll username).2.1
  | .refreshed user => (table.refresh user).2

/-- The table behind some calls. -/
def afterCalls (scheme : SecretScheme) (calls : List SessionCall) : SessionTable :=
  calls.foldl (perform scheme) empty

/-- Whether the session of a token lives and its user passes a test. -/
def holdsFor (scheme : SecretScheme) (table : SessionTable) (test : User → Bool)
    (token : String) : Bool :=
  match table.find scheme token with
  | .ok user => test user
  | .error _ => false

/-- Whether the session of a token lives. -/
def isLive (scheme : SecretScheme) (table : SessionTable) : String → Bool :=
  table.holdsFor scheme fun _ => true

section Calls

variable {scheme : SecretScheme} {table : SessionTable} {call : SessionCall} {token : String}
  {user : User}

/-- A token finds the user that is stored under its key. -/
theorem find_eq_ok_iff :
    table.find scheme token = .ok user ↔
      table.sessions.get? (scheme.tokenKey token) = some user := by
  unfold find
  split <;> simp_all

/-- A test holds for a token when it holds of the user that the token finds. -/
theorem holdsFor_iff {test : User → Bool} :
    table.holdsFor scheme test token = true ↔
      ∃ user, table.find scheme token = .ok user ∧ test user = true := by
  unfold holdsFor
  split <;> simp_all

theorem sessions_openSession (table : SessionTable) (token : String) (user : User) :
    (table.openSession scheme token user).1.sessions =
      table.sessions.insert (scheme.tokenKey token) user :=
  rfl

theorem sessions_endAll (table : SessionTable) (username : String) :
    (table.endAll username).2.1.sessions =
      table.sessions.filter fun user => user.username != normalizeUsername username :=
  rfl

theorem sessions_refresh (table : SessionTable) (user : User) :
    (table.refresh user).2.sessions =
      table.sessions.map fun old => if old.username == user.username then user else old :=
  rfl

/-- Opening a session changes what stands under the key of its token alone. -/
theorem get?_openSession (table : SessionTable) (token : String) (user : User) (key : String) :
    (table.openSession scheme token user).1.sessions.get? key =
      if key = scheme.tokenKey token then some user else table.sessions.get? key := by
  rw [sessions_openSession, Table.get?_insert]

/-- Closing a session removes what stands under the key of its token alone. -/
theorem get?_closeSession (distinct : table.sessions.keys.Nodup) (token key : String) :
    (table.closeSession scheme token).2.1.sessions.get? key =
      if key = scheme.tokenKey token then none else table.sessions.get? key := by
  unfold closeSession
  dsimp only
  split
  · exact Table.get?_erase distinct _ _
  · rename_i absent
    by_cases same : key = scheme.tokenKey token
    · rw [if_pos same, same, absent]
    · rw [if_neg same]

/-- Behind the end of a name's sessions, a key has the user of another name that it had. -/
theorem get?_endAll (distinct : table.sessions.keys.Nodup) (username key : String) :
    (table.endAll username).2.1.sessions.get? key =
      (table.sessions.get? key).filter (·.username != normalizeUsername username) := by
  rw [sessions_endAll, Table.get?_filter distinct]

/-- Behind a refresh a key has the new user where it had the old one. -/
theorem get?_refresh (table : SessionTable) (user : User) (key : String) :
    (table.refresh user).2.sessions.get? key =
      (table.sessions.get? key).map fun old =>
        if old.username == user.username then user else old := by
  rw [sessions_refresh, Table.get?_map]

/-- No call stores two sessions under one key. -/
theorem nodup_keys_perform (distinct : table.sessions.keys.Nodup) (call : SessionCall) :
    (table.perform scheme call).sessions.keys.Nodup := by
  cases call with
  | opened token user =>
    rw [perform, sessions_openSession]
    exact Table.nodup_keys_insert distinct _ _
  | closed token =>
    unfold perform closeSession
    dsimp only
    split
    · exact Table.nodup_keys_erase distinct _
    · exact distinct
  | endedAll username =>
    rw [perform, sessions_endAll]
    exact Table.nodup_keys_filter distinct _
  | refreshed user => rwa [perform, sessions_refresh, Table.keys_map]

/-- A call adds at most the key of the token that it gives out. -/
theorem mem_keys_perform (distinct : table.sessions.keys.Nodup) {key : String}
    (isKey : key ∈ (table.perform scheme call).sessions.keys) :
    key ∈ table.sessions.keys ∨
      ∃ token, call.issue? = some token ∧ scheme.tokenKey token = key := by
  rw [Table.mem_keys_iff] at isKey ⊢
  obtain ⟨user, found⟩ := isKey
  cases call with
  | opened token created =>
    rw [perform, get?_openSession] at found
    split at found
    · rename_i same
      exact .inr ⟨token, rfl, same.symm⟩
    · exact .inl ⟨user, found⟩
  | closed token =>
    rw [perform, get?_closeSession distinct] at found
    split at found
    · cases found
    · exact .inl ⟨user, found⟩
  | endedAll username =>
    rw [perform, get?_endAll distinct] at found
    exact .inl ⟨user, (Option.filter_eq_some_iff.mp found).1⟩
  | refreshed changed =>
    rw [perform, get?_refresh] at found
    obtain ⟨old, isOld, _⟩ := Option.map_eq_some_iff.mp found
    exact .inl ⟨old, isOld⟩

end Calls

/-- A table is what some calls tell: its keys are those of tokens that the calls gave out, and
a token opens the session that the calls tell of it. -/
structure Reflects (scheme : SecretScheme) (used : Set String) (calls : List SessionCall)
    (table : SessionTable) : Prop where
  distinct : table.sessions.keys.Nodup
  traced : ∀ key ∈ table.sessions.keys,
    ∃ token ∈ issuedTokens calls, scheme.tokenKey token = key
  told : ∀ token ∈ used, ∀ user,
    table.find scheme token = .ok user ↔ Holds calls token user

section Runs

variable {scheme : SecretScheme} {used : Set String} {calls : List SessionCall}
  {table : SessionTable} {call : SessionCall}

theorem not_holds_nil {token : String} {user : User} : ¬ Holds [] token user := by
  rintro ⟨_, _, ⟨⟨earlier, split⟩, _⟩, _⟩
  exact List.append_ne_nil_of_right_ne_nil earlier (List.cons_ne_nil _ _) split.symm

theorem reflects_empty : Reflects scheme used [] empty where
  distinct := List.nodup_nil
  traced := List.forall_mem_nil _
  told _ _ _ := iff_of_false (fun found => nomatch find_eq_ok_iff.mp found) not_holds_nil

/-- One more call changes what a token opens as it changes what the calls tell. -/
theorem Reflects.told_perform (reflects : Reflects scheme used calls table)
    (apart : Set.InjOn scheme.tokenKey used)
    (covered : ∀ token, call.token? = some token → token ∈ used)
    (fresh : ∀ token, call.issue? = some token → token ∉ issuedTokens calls)
    {token : String} (isUsed : token ∈ used) (user : User) :
    (table.perform scheme call).find scheme token = .ok user ↔
      Holds (calls ++ [call]) token user := by
  have before (old : User) : table.sessions.get? (scheme.tokenKey token) = some old ↔
      Holds calls token old := find_eq_ok_iff.symm.trans (reflects.told token isUsed old)
  rw [find_eq_ok_iff, holds_concat_iff]
  cases call with
  | opened other created =>
    have sameKey : scheme.tokenKey token = scheme.tokenKey other ↔ token = other :=
      apart.eq_iff isUsed (covered other rfl)
    rw [perform, get?_openSession]
    by_cases same : token = other
    · -- The token was not given out before, so the calls before tell of no session of it.
      have notBefore (old : User) : ¬ Holds calls token old := by
        rintro ⟨_, _, lives, _⟩
        exact fresh other rfl (same ▸ mem_issuedTokens_of_lives lives)
      simp [same ▸ notBefore, same, eq_comm]
    · simp [sameKey, same, before, SessionCall.Ends, SessionCall.replacement?, Ne.symm same]
  | closed other =>
    have sameKey : scheme.tokenKey token = scheme.tokenKey other ↔ token = other :=
      apart.eq_iff isUsed (covered other rfl)
    rw [perform, get?_closeSession reflects.distinct]
    by_cases same : token = other
    · simp [same, SessionCall.Ends]
    · simp [sameKey, same, before, SessionCall.Ends, SessionCall.replacement?, Ne.symm same]
  | endedAll username =>
    rw [perform, get?_endAll reflects.distinct, Option.filter_eq_some_iff, before]
    simp [SessionCall.Ends, SessionCall.replacement?, @eq_comm _ (normalizeUsername username)]
  | refreshed changed =>
    have replaced (old : User) :
        ((SessionCall.refreshed changed).replacement? old.username).getD old =
          if old.username == changed.username then changed else old := by
      by_cases named : changed.username = old.username
      · simp [SessionCall.replacement?, named]
      · simp [SessionCall.replacement?, named, Ne.symm named]
    rw [perform, get?_refresh]
    simp [before, replaced, SessionCall.Ends, @eq_comm _ user]

/-- A call carries the reflection on, as long as tokens lie apart and none is given out twice. -/
theorem Reflects.perform (reflects : Reflects scheme used calls table)
    (apart : Set.InjOn scheme.tokenKey used)
    (covered : ∀ token, call.token? = some token → token ∈ used)
    (fresh : ∀ token, call.issue? = some token → token ∉ issuedTokens calls) :
    Reflects scheme used (calls ++ [call]) (table.perform scheme call) := by
  refine ⟨nodup_keys_perform reflects.distinct call, ?_,
    fun _ => reflects.told_perform apart covered fresh⟩
  intro key isKey
  rcases mem_keys_perform reflects.distinct isKey with isOld | ⟨token, given, rfl⟩
  · obtain ⟨token, isIssued, isKey⟩ := reflects.traced key isOld
    exact ⟨token, by simp [issuedTokens] at isIssued ⊢; exact .inl isIssued, isKey⟩
  · exact ⟨token, by simp [issuedTokens, given], rfl⟩

/-- Behind every history that gives each token out once, the table is what the history tells. -/
theorem reflects_afterCalls (apart : Set.InjOn scheme.tokenKey used)
    (covered : ∀ call ∈ calls, ∀ token, call.token? = some token → token ∈ used)
    (fresh : (issuedTokens calls).Nodup) :
    Reflects scheme used calls (afterCalls scheme calls) := by
  induction calls using List.reverseRecOn with
  | nil => exact reflects_empty
  | append_singleton calls call inductionHypothesis =>
    rw [issuedTokens, List.filterMap_append, List.nodup_append] at fresh
    obtain ⟨freshBefore, _, isNew⟩ := fresh
    have reflects := inductionHypothesis
      (fun other isOther => covered other (List.mem_append_left _ isOther)) freshBefore
    rw [afterCalls, List.foldl_append]
    refine reflects.perform apart (covered call (by simp)) fun token given isIssued => ?_
    exact isNew token isIssued token (by simp [given]) rfl

/-- The sessions whose users pass a test are as many as the tokens given out that open one. -/
theorem Reflects.size_filter (reflects : Reflects scheme used calls table)
    (apart : Set.InjOn scheme.tokenKey used) (isUsed : ∀ token ∈ issuedTokens calls, token ∈ used)
    (fresh : (issuedTokens calls).Nodup) (test : User → Bool) :
    (table.sessions.filter test).size =
      (issuedTokens calls).countP (table.holdsFor scheme test) := by
  have isKey_iff (key : String) : key ∈ (table.sessions.filter test).keys ↔
      ∃ token ∈ issuedTokens calls, table.holdsFor scheme test token = true ∧
        scheme.tokenKey token = key := by
    simp only [Table.mem_keys_iff, Table.get?_filter reflects.distinct, Option.filter_eq_some_iff,
      holdsFor_iff, find_eq_ok_iff]
    constructor
    · rintro ⟨user, found, passes⟩
      obtain ⟨token, isIssued, rfl⟩ := reflects.traced key (Table.mem_keys_iff.mpr ⟨user, found⟩)
      exact ⟨token, isIssued, ⟨user, found, passes⟩, rfl⟩
    · rintro ⟨token, _, held, rfl⟩
      exact held
  have sameKeys : (table.sessions.filter test).keys.Perm
      (((issuedTokens calls).filter (table.holdsFor scheme test)).map scheme.tokenKey) := by
    refine (List.perm_ext_iff_of_nodup (Table.nodup_keys_filter reflects.distinct test) ?_).mpr
      fun key => ?_
    · refine List.Nodup.map_on (fun first isFirst second isSecond sameKey => ?_) (fresh.filter _)
      exact apart (isUsed first (List.mem_of_mem_filter isFirst))
        (isUsed second (List.mem_of_mem_filter isSecond)) sameKey
    · simp only [isKey_iff, List.mem_map, List.mem_filter, and_assoc]
  have sameLength := sameKeys.length_eq
  rwa [Table.keys, List.length_map, List.length_map, ← List.countP_eq_length_filter] at sameLength

/-- The sessions that are ended with a name are those of its users. -/
theorem isLive_and_not_isLive_endAll (distinct : table.sessions.keys.Nodup) (username : String)
    (token : String) :
    (table.isLive scheme token && !(table.endAll username).2.1.isLive scheme token) =
      table.holdsFor scheme (·.username == normalizeUsername username) token := by
  unfold isLive holdsFor find
  rw [get?_endAll distinct]
  cases table.sessions.get? (scheme.tokenKey token) with
  | none => rfl
  | some user =>
    by_cases named : user.username = normalizeUsername username <;> simp [Option.filter, named]

/-- A call leaves the sessions alone that it does not concern. -/
theorem find_perform_of_not_concerns (distinct : table.sessions.keys.Nodup)
    (apart : Set.InjOn scheme.tokenKey used)
    (covered : ∀ token, call.token? = some token → token ∈ used) {token : String}
    (isUsed : token ∈ used) {user : User} (unconcerned : ¬ call.Concerns token user.username) :
    (table.perform scheme call).find scheme token = .ok user ↔
      table.find scheme token = .ok user := by
  have differ {other : String} (isOther : other ∈ used) (notSame : ¬ other = token) :
      scheme.tokenKey token ≠ scheme.tokenKey other := fun sameKey =>
    notSame (apart isUsed isOther sameKey).symm
  rw [find_eq_ok_iff, find_eq_ok_iff]
  cases call with
  | opened other created =>
    rw [perform, get?_openSession, if_neg (differ (covered other rfl) unconcerned)]
  | closed other =>
    rw [perform, get?_closeSession distinct, if_neg (differ (covered other rfl) unconcerned)]
  | endedAll username =>
    have otherName : user.username ≠ normalizeUsername username := Ne.symm unconcerned
    rw [perform, get?_endAll distinct]
    simp [Option.filter_eq_some_iff, otherName]
  | refreshed changed =>
    have otherName : changed.username ≠ user.username := unconcerned
    rw [perform, get?_refresh, Option.map_eq_some_iff]
    constructor
    · rintro ⟨old, found, rfl⟩
      split at otherName
      · exact absurd rfl otherName
      · rename_i notNamed
        rwa [if_neg notNamed]
    · intro found
      exact ⟨user, found, by simp [otherName.symm]⟩

/-- Ending a name counts the sessions that it ends. -/
theorem Reflects.count_endAll (reflects : Reflects scheme used calls table)
    (apart : Set.InjOn scheme.tokenKey used) (isUsed : ∀ token ∈ issuedTokens calls, token ∈ used)
    (fresh : (issuedTokens calls).Nodup) (username : String) :
    (table.endAll username).1 = (issuedTokens calls).countP fun token =>
      table.isLive scheme token && !(table.endAll username).2.1.isLive scheme token := by
  simp only [isLive_and_not_isLive_endAll reflects.distinct]
  rw [← reflects.size_filter apart isUsed fresh]
  have parts : table.sessions.size =
      (table.sessions.filter (·.username == normalizeUsername username)).size +
        (table.sessions.filter (·.username != normalizeUsername username)).size :=
    List.length_eq_length_filter_add _
  have counted : (table.endAll username).1 = table.sessions.size -
      (table.sessions.filter (·.username != normalizeUsername username)).size := rfl
  omega

/-- A table that reflects a history holds one session for each token that is live. -/
theorem Reflects.size_eq (reflects : Reflects scheme used calls table)
    (apart : Set.InjOn scheme.tokenKey used) (isUsed : ∀ token ∈ issuedTokens calls, token ∈ used)
    (fresh : (issuedTokens calls).Nodup) :
    table.size = (issuedTokens calls).countP (table.isLive scheme) := by
  rw [isLive, ← reflects.size_filter apart isUsed fresh, size, Table.filter, Table.size,
    Table.size, List.filter_true]

/-- Closing a session tells whether its token was live. -/
theorem closeSession_fst_iff {token : String} :
    (table.closeSession scheme token).1 = true ↔ ∃ user, table.find scheme token = .ok user := by
  simp only [find_eq_ok_iff]
  unfold closeSession
  dsimp only
  split <;> simp_all

end Runs

/-- Where tokens are told apart and none is given out twice, every call answers what the
history tells. A token opens a session just when some call gave it out and no later one ended
the session, and the session has the user of the last replacement. Closing tells whether there
was a session, ending a name counts the sessions that it ends, a replacement counts the
sessions of the name, and the size is the number of live tokens. No call changes a session that
it does not concern. -/
theorem answers_follow_history (scheme : SecretScheme) (calls : List SessionCall)
    (used : Set String)
    (covered : ∀ call ∈ calls, ∀ token, call.token? = some token → token ∈ used)
    (apart : Set.InjOn scheme.tokenKey used) (fresh : (issuedTokens calls).Nodup) :
    let table := afterCalls scheme calls
    (∀ token ∈ used, ∀ user, table.find scheme token = .ok user ↔
      ∃ created later, Lives calls token created later ∧ user = currentUser created later) ∧
    (∀ token ∈ used, (table.closeSession scheme token).1 = true ↔
      ∃ user, table.find scheme token = .ok user) ∧
    (∀ username, (table.endAll username).1 = (issuedTokens calls).countP fun token =>
      table.isLive scheme token && !(table.endAll username).2.1.isLive scheme token) ∧
    (∀ user, (table.refresh user).1 = (issuedTokens calls).countP
      (table.holdsFor scheme (·.username == user.username))) ∧
    table.size = (issuedTokens calls).countP (table.isLive scheme) ∧
    (∀ call, (∀ token, call.token? = some token → token ∈ used) → ∀ token ∈ used, ∀ user,
      ¬ call.Concerns token user.username →
        ((table.perform scheme call).find scheme token = .ok user ↔
          table.find scheme token = .ok user)) := by
  intro table
  have reflects := reflects_afterCalls apart covered fresh
  have isUsed : ∀ token ∈ issuedTokens calls, token ∈ used := by
    intro token isIssued
    obtain ⟨call, isCall, given⟩ := List.mem_filterMap.mp isIssued
    exact covered call isCall token (SessionCall.token?_of_issue? given)
  refine ⟨reflects.told, fun token _ => closeSession_fst_iff, ?ended, ?replaced, ?size, ?others⟩
  case ended => exact reflects.count_endAll apart isUsed fresh
  case replaced => exact fun user => reflects.size_filter apart isUsed fresh _
  case size => exact reflects.size_eq apart isUsed fresh
  case others =>
    intro call callCovered token tokenUsed user unconcerned
    exact find_perform_of_not_concerns reflects.distinct apart callCovered tokenUsed unconcerned

/-- A user with a name and permissions. -/
def userNamed (name : String) (permissions : Json) : User := ⟨name, "", permissions, none, 0⟩

/-- Three sessions, of which one is closed, one ends with its name, and the third sees a change
of its user. -/
def mixedCalls : List SessionCall :=
  [.opened "a" (userNamed "alice" noPermissions), .opened "b" (userNamed "alice" noPermissions),
    .opened "c" (userNamed "bob" noPermissions), .refreshed (userNamed "alice" (.bool true)),
    .closed "b", .endedAll " BOB"]

/-- Of the three sessions the changed one is live. -/
theorem answers_follow_mixed_history :
    let used : Set String := {token | token ∈ ["a", "b", "c"]}
    let table := afterCalls .standard mixedCalls
    Set.InjOn SecretScheme.standard.tokenKey used ∧ (issuedTokens mixedCalls).Nodup ∧
    table.find .standard "a" = .ok (userNamed "alice" (.bool true)) ∧
    (table.closeSession .standard "a").1 = true ∧
    (table.closeSession .standard "b").1 = false ∧
    (table.closeSession .standard "c").1 = false ∧
    table.size = 1 := by
  intro used table
  have keysApart : (["a", "b", "c"].map SecretScheme.standard.tokenKey).Nodup := by
    decide +kernel
  have apart : Set.InjOn SecretScheme.standard.tokenKey used :=
    fun _ isFirst _ isSecond sameKey => List.inj_on_of_nodup_map keysApart isFirst isSecond sameKey
  have fresh : (issuedTokens mixedCalls).Nodup := by decide
  have isBob : normalizeUsername " BOB" = "bob" := by decide +kernel
  obtain ⟨told, closes, _, _, counted, _⟩ := answers_follow_history .standard mixedCalls used
    (by simp [mixedCalls, SessionCall.token?, used]) apart fresh
  have live : table.find .standard "a" = .ok (userNamed "alice" (.bool true)) := by
    refine (told "a" (by simp [used]) _).mpr
      ⟨userNamed "alice" noPermissions, mixedCalls.tail, ⟨⟨[], rfl⟩, ?_⟩, rfl⟩
    simp [mixedCalls, SessionCall.Ends, isBob, userNamed]
  have ended : table.find .standard "b" = .error .sessionInvalid ∧
      table.find .standard "c" = .error .sessionInvalid ∧
      (issuedTokens mixedCalls).countP (table.isLive .standard) = 1 := by
    decide +kernel
  have notClosed {token : String} (isUsed : token ∈ used)
      (ended : table.find .standard token = .error .sessionInvalid) :
      (table.closeSession .standard token).1 = false := by
    refine Bool.eq_false_iff.mpr fun closed => ?_
    obtain ⟨user, found⟩ := (closes token isUsed).mp closed
    rw [ended] at found
    cases found
  exact ⟨apart, fresh, live, (closes "a" (by simp [used])).mpr ⟨_, live⟩,
    notClosed (by simp [used]) ended.1, notClosed (by simp [used]) ended.2.1,
    counted.trans ended.2.2⟩

end SessionTable

end Dashboard.Account
