import Dashboard.Proofs.Account.Agreement

/-!
# Calls in flight

Users and sessions are kept under two locks, so a login and a deletion take two steps each:
one on the users, one on the sessions. Between them other callers take theirs. A login that
has looked its user up opens the session of what it found, whether or not the user is still
there; a deletion ends the sessions that it finds. So a deletion revokes access unless a login
of the name was in flight when it began and opens its session after it has ended the others.
-/

namespace Dashboard.Account

/-- A call of two steps. -/
inductive Call where
  | login (draws : Draws) (username password : String)
  | deleteUser (username : String)

/-- What is left to do of a call behind its first step. -/
inductive Rest where
  | openSession (token : String) (user : User)
  | endSessions (username : String)
  deriving DecidableEq

/-- A step of a caller, or a call that no other step comes between. -/
inductive CallEvent where
  | begin (caller : Nat) (call : Call)
  | finish (caller : Nat)
  | whole (operation : Operation)

/-- Whether a call may add a user of a name. -/
def Operation.Creates (name : String) : Operation → Prop
  | createUser _ registration => normalizeUsername registration.username = name
  | _ => False

/-- Whether a step may add a user of a name. -/
def CallEvent.Creates (name : String) : CallEvent → Prop
  | whole operation => operation.Creates name
  | _ => False

/-- The accounts behind the second step of a call. -/
def Accounts.complete (scheme : SecretScheme) (accounts : Accounts) : Rest → Accounts
  | .openSession token user =>
    { accounts with sessions := (accounts.sessions.openSession scheme token user).1 }
  | .endSessions username => (accounts.endSessions username).2.1

/-- The accounts, and what is left to do of the call of each caller. -/
structure CallsInFlight where
  accounts : Accounts
  rest? : Nat → Option Rest

namespace CallsInFlight

/-- Neither users nor sessions nor calls. -/
def start : CallsInFlight := ⟨.empty, fun _ => none⟩

/-- The same calls with other accounts, and with something else left to do of one of them. -/
def withRest (calls : CallsInFlight) (accounts : Accounts) (caller : Nat) (rest : Option Rest) :
    CallsInFlight :=
  ⟨accounts, fun other => if other = caller then rest else calls.rest? other⟩

/-- The first step of a call. A caller makes one call at a time; a login that is refused is
over. -/
def begin (scheme : SecretScheme) (calls : CallsInFlight) (caller : Nat) (call : Call) :
    CallsInFlight :=
  if (calls.rest? caller).isSome then calls
  else match call with
    | .login draws username password =>
      match Accounts.authenticate scheme calls.accounts.users username password with
      | (.ok user, _) =>
        calls.withRest calls.accounts caller (some (.openSession draws.tokenText user))
      | (.error _, _) => calls
    | .deleteUser username =>
      calls.withRest (calls.accounts.removeUser username).2 caller (some (.endSessions username))

/-- The second step of a call. -/
def finish (scheme : SecretScheme) (calls : CallsInFlight) (caller : Nat) : CallsInFlight :=
  match calls.rest? caller with
  | some rest => calls.withRest (calls.accounts.complete scheme rest) caller none
  | none => calls

/-- Takes a step. -/
def step (scheme : SecretScheme) (calls : CallsInFlight) : CallEvent → CallsInFlight
  | .begin caller call => calls.begin scheme caller call
  | .finish caller => calls.finish scheme caller
  | .whole operation => { calls with accounts := calls.accounts.perform scheme operation }

/-- Behind some steps of any number of callers. -/
def run (scheme : SecretScheme) (events : List CallEvent) : CallsInFlight :=
  events.foldl (step scheme) start

/-- Every call has been completed. -/
def Completed (calls : CallsInFlight) : Prop := ∀ caller, calls.rest? caller = none

/-- All that a step can do. -/
inductive Change (scheme : SecretScheme) (calls : CallsInFlight) :
    CallEvent → CallsInFlight → Prop where
  | nothing {event} (unanswered : ∀ caller, event = .finish caller → calls.rest? caller = none) :
      Change scheme calls event calls
  | performed {operation} :
      Change scheme calls (.whole operation)
        { calls with accounts := calls.accounts.perform scheme operation }
  | found {caller draws username password user} (idle : calls.rest? caller = none)
      (found : calls.accounts.users.find username = some user) :
      Change scheme calls (.begin caller (.login draws username password))
        (calls.withRest calls.accounts caller (some (.openSession draws.tokenText user)))
  | removed {caller username} (idle : calls.rest? caller = none) :
      Change scheme calls (.begin caller (.deleteUser username))
        (calls.withRest (calls.accounts.removeUser username).2 caller
          (some (.endSessions username)))
  | finished {caller rest} (waits : calls.rest? caller = some rest) :
      Change scheme calls (.finish caller)
        (calls.withRest (calls.accounts.complete scheme rest) caller none)

section Step

variable {scheme : SecretScheme} {calls after : CallsInFlight} {event : CallEvent}
  {name token : String} {user : User} {caller other : Nat}

/-- Every step does one of the things that steps do. -/
theorem step_change (scheme : SecretScheme) (calls : CallsInFlight) (event : CallEvent) :
    Change scheme calls event (calls.step scheme event) := by
  cases event with
  | begin caller call =>
    unfold step begin
    dsimp only
    split
    · exact .nothing nofun
    · rename_i notBusy
      have idle : calls.rest? caller = none := Option.not_isSome_iff_eq_none.mp notBusy
      cases call with
      | login draws username password =>
        dsimp only
        split
        · rename_i authentic
          exact .found idle (Accounts.find_of_authenticate authentic)
        · exact .nothing nofun
      | deleteUser username => exact .removed idle
  | finish caller =>
    unfold step finish
    dsimp only
    split
    · rename_i waits
      exact .finished waits
    · rename_i idle
      refine .nothing fun other isFinish => ?_
      cases isFinish
      exact idle
  | whole operation => exact .performed

theorem rest_withRest (calls : CallsInFlight) (accounts : Accounts) (caller other : Nat)
    (rest : Option Rest) :
    (calls.withRest accounts caller rest).rest? other =
      if other = caller then rest else calls.rest? other :=
  rfl

/-- A call that waits for its second step waits until its caller takes it. -/
theorem Change.rest_of_ne_finish (change : Change scheme calls event after) {rest : Rest}
    (waits : calls.rest? other = some rest) (notFinished : event ≠ .finish other) :
    after.rest? other = some rest := by
  have ne_of_idle {caller : Nat} (idle : calls.rest? caller = none) : other ≠ caller := by
    rintro rfl
    rw [idle] at waits
    cases waits
  cases change with
  | nothing | performed => exact waits
  | found idle | removed idle => rwa [rest_withRest, if_neg (ne_of_idle idle)]
  | @finished caller =>
    have differ : other ≠ caller := fun same => notFinished (congrArg _ same.symm)
    rwa [rest_withRest, if_neg differ]

/-- Until its call is finished, a caller has the same left to do. -/
theorem rest_foldl_of_not_mem {rest : Rest} (waits : calls.rest? other = some rest)
    {events : List CallEvent} (notFinished : .finish other ∉ events) :
    (events.foldl (step scheme) calls).rest? other = some rest :=
  List.foldlRecOn (motive := fun reached => reached.rest? other = some rest) events _ waits
    fun reached stillWaits event isEvent =>
      (step_change scheme reached event).rest_of_ne_finish stillWaits
        fun same => notFinished (same ▸ isEvent)

/-- Every step leaves users under their own names. -/
theorem Change.named (change : Change scheme calls event after)
    (named : calls.accounts.users.Named) : after.accounts.users.Named := by
  cases change with
  | nothing | found => exact named
  | performed => exact (Accounts.perform_effect scheme _ _).named named
  | removed => exact named.erase _
  | @finished _ rest => cases rest <;> exact named

/-- Behind every run all users stand under the normal forms of their names. -/
theorem named_run (scheme : SecretScheme) (events : List CallEvent) :
    (run scheme events).accounts.users.Named :=
  List.foldlRecOn (motive := fun reached => reached.accounts.users.Named) events _
    UserTable.named_empty
    fun reached named event _ => (step_change scheme reached event).named named

end Step

/-- No user of a name is stored. -/
structure Gone (accounts : Accounts) (name : String) : Prop where
  named : accounts.users.Named
  absent : accounts.users.users.get? name = none

/-- No user of a name is stored, and none has a session. -/
structure Ended (accounts : Accounts) (name : String) : Prop extends Gone accounts name where
  noSession : ∀ entry ∈ accounts.sessions.sessions.entries, entry.2.username ≠ name

/-- No login waits to open a session of a user of a name. -/
def NoLogin (calls : CallsInFlight) (name : String) : Prop :=
  ∀ caller token user, calls.rest? caller = some (.openSession token user) →
    user.username ≠ name

/-- However the calls are completed, unless a user of a name is added, no token opens a session
of one. -/
def Revoked (scheme : SecretScheme) (calls : CallsInFlight) (name : String) : Prop :=
  ∀ later : List CallEvent, (∀ event ∈ later, ¬event.Creates name) →
    let final := later.foldl (step scheme) calls
    final.Completed → ∀ token user, final.accounts.verify scheme token = .ok user →
      user.username ≠ name

section Gone

variable {scheme : SecretScheme} {accounts next : Accounts} {calls after : CallsInFlight}
  {event : CallEvent} {operation : Operation} {issued : List Issue} {name token : String}
  {user : User} {caller other : Nat}

/-- A user that is found has another name than one that is not stored. -/
theorem Gone.username_of_find (gone : Gone accounts name) {username : String}
    (found : accounts.users.find username = some user) : user.username ≠ name := by
  rintro rfl
  have stored := gone.named.get?_of_find found
  rw [gone.absent] at stored
  cases stored

/-- Only an addition brings a user back. -/
theorem Gone.effect (gone : Gone accounts name)
    (effect : Accounts.Effect scheme accounts operation next issued)
    (notCreated : ¬operation.Creates name) : Gone next name := by
  refine ⟨effect.named gone.named, ?_⟩
  cases effect with
  | nothing | opened | closed => exact gone.absent
  | created named =>
    rw [Table.get?_insert, if_neg, gone.absent]
    rintro rfl
    exact notCreated named.symm
  | updated present =>
    rw [Table.get?_insert, if_neg, gone.absent]
    rintro rfl
    obtain ⟨old, found⟩ := present
    rw [gone.absent] at found
    cases found
  | deleted =>
    rw [Table.get?_erase gone.named.distinct, gone.absent, ite_self]

/-- A call opens no session of a user that is not stored. -/
theorem Ended.effect (ended : Ended accounts name)
    (effect : Accounts.Effect scheme accounts operation next issued)
    (notCreated : ¬operation.Creates name) : Ended next name := by
  refine ⟨ended.toGone.effect effect notCreated, fun entry isEntry => ?_⟩
  cases effect with
  | nothing | created => exact ended.noSession entry isEntry
  | opened found =>
    rcases Table.mem_put isEntry with rfl | isOld
    · exact ended.username_of_find found
    · exact ended.noSession entry isOld
  | closed => exact ended.noSession entry ((Table.remove_sublist _ _).subset isEntry)
  | @updated user =>
    obtain ⟨old, isOld, rfl⟩ := List.mem_map.mp isEntry
    have notOld := ended.noSession old isOld
    by_cases same : old.2.username = user.username
    · simpa [same] using same ▸ notOld
    · simpa [same] using notOld
  | deleted => exact ended.noSession entry (List.mem_filter.mp isEntry).1

/-- A name that is gone stays so behind the removal of any user. -/
theorem Gone.removeUser (gone : Gone accounts name) (username : String) :
    Gone (accounts.removeUser username).2 name := by
  refine ⟨gone.named.erase _, ?_⟩
  exact (Table.get?_erase gone.named.distinct _ _).trans (by rw [gone.absent, ite_self])

/-- Behind the removal of a user, the normal form of its name is gone. -/
theorem gone_removeUser (named : accounts.users.Named) (username : String) :
    Gone (accounts.removeUser username).2 (normalizeUsername username) :=
  ⟨named.erase _, (Table.get?_erase named.distinct _ _).trans (if_pos rfl)⟩

/-- Whatever is left of a call stores no user. -/
theorem Gone.complete (gone : Gone accounts name) (rest : Rest) :
    Gone (accounts.complete scheme rest) name := by
  cases rest <;> exact ⟨gone.named, gone.absent⟩

/-- Only a creation can bring a name back that is gone. -/
theorem Gone.change (gone : Gone calls.accounts name) (change : Change scheme calls event after)
    (notCreated : ¬event.Creates name) : Gone after.accounts name := by
  cases change with
  | nothing | found => exact gone
  | performed => exact gone.effect (Accounts.perform_effect scheme _ _) notCreated
  | removed => exact gone.removeUser _
  | finished => exact gone.complete _

/-- As long as no user of the name is created, a name that is gone stays so. -/
theorem Gone.foldl (gone : Gone calls.accounts name) {events : List CallEvent}
    (notCreated : ∀ event ∈ events, ¬event.Creates name) :
    Gone (events.foldl (step scheme) calls).accounts name :=
  List.foldlRecOn (motive := fun reached => Gone reached.accounts name) events _ gone
    fun reached gone event isEvent =>
      gone.change (step_change scheme reached event) (notCreated event isEvent)

/-- A login that waits with a user that is not stored has waited since it was. -/
theorem Gone.waited (gone : Gone calls.accounts name) (change : Change scheme calls event after)
    (isName : user.username = name)
    (waits : after.rest? other = some (.openSession token user)) :
    calls.rest? other = some (.openSession token user) ∧ event ≠ .finish other := by
  cases change with
  | nothing unanswered =>
    refine ⟨waits, ?_⟩
    rintro rfl
    rw [unanswered other rfl] at waits
    cases waits
  | performed => exact ⟨waits, nofun⟩
  | found _ found =>
    rw [rest_withRest] at waits
    split at waits
    · cases waits
      exact absurd isName (gone.username_of_find found)
    · exact ⟨waits, nofun⟩
  | removed =>
    rw [rest_withRest] at waits
    split at waits
    · cases waits
    · exact ⟨waits, nofun⟩
  | finished =>
    rw [rest_withRest] at waits
    split at waits
    · cases waits
    · rename_i differ
      exact ⟨waits, fun isFinish => differ (CallEvent.finish.inj isFinish).symm⟩

/-- While no user of a name is stored, the logins that wait with one are those that waited at
first and were not finished. -/
theorem Gone.waits_foldl_iff (gone : Gone calls.accounts name) {events : List CallEvent}
    (notCreated : ∀ event ∈ events, ¬event.Creates name) (isName : user.username = name) :
    (events.foldl (step scheme) calls).rest? other = some (.openSession token user) ↔
      calls.rest? other = some (.openSession token user) ∧ .finish other ∉ events := by
  refine ⟨fun waits => ?_, fun ⟨waits, notFinished⟩ => rest_foldl_of_not_mem waits notFinished⟩
  induction events generalizing calls with
  | nil => exact ⟨waits, List.not_mem_nil⟩
  | cons event rest inductionHypothesis =>
    have change := step_change scheme calls event
    obtain ⟨waitsBehind, notLater⟩ := inductionHypothesis
      (gone.change change (notCreated event (.head _)))
      (fun later isLater => notCreated later (.tail _ isLater)) waits
    obtain ⟨waitsBefore, notNow⟩ := gone.waited change isName waitsBehind
    refine ⟨waitsBefore, fun isEvent => ?_⟩
    rcases List.mem_cons.mp isEvent with now | later
    · exact notNow now.symm
    · exact notLater later

/-- Once access is revoked and no login of the name waits, no step gives it back. -/
theorem Ended.change (ended : Ended calls.accounts name) (noLogin : calls.NoLogin name)
    (change : Change scheme calls event after) (notCreated : ¬event.Creates name) :
    Ended after.accounts name ∧ after.NoLogin name := by
  refine ⟨⟨ended.toGone.change change notCreated, ?_⟩, fun caller token user waits isName => ?_⟩
  · cases change with
    | nothing | found | removed => exact ended.noSession
    | performed =>
      exact (ended.effect (Accounts.perform_effect scheme _ _) notCreated).noSession
    | @finished _ rest waits =>
      intro entry isEntry
      cases rest with
      | openSession token user =>
        rcases Table.mem_put isEntry with rfl | isOld
        · exact noLogin _ token user waits
        · exact ended.noSession entry isOld
      | endSessions username => exact ended.noSession entry (List.mem_filter.mp isEntry).1
  · exact noLogin caller token user (ended.toGone.waited change isName waits).1 isName

/-- A name whose access ended has none later, unless a login waits or the user is created again. -/
theorem Ended.foldl (ended : Ended calls.accounts name) (noLogin : calls.NoLogin name)
    {events : List CallEvent} (notCreated : ∀ event ∈ events, ¬event.Creates name) :
    Ended (events.foldl (step scheme) calls).accounts name :=
  (List.foldlRecOn (motive := fun reached => Ended reached.accounts name ∧ reached.NoLogin name)
    events _ ⟨ended, noLogin⟩ fun reached ⟨ended, noLogin⟩ event isEvent =>
      ended.change noLogin (step_change scheme reached event) (notCreated event isEvent)).1

/-- No token is of a user whose access ended. -/
theorem Ended.username_of_verify (ended : Ended accounts name)
    (verified : accounts.verify scheme token = .ok user) : user.username ≠ name :=
  ended.noSession _ (Accounts.mem_of_verify verified)

/-- The end of the sessions of a name leaves none of a user that is not stored. -/
theorem Gone.ended (scheme : SecretScheme) {username : String}
    (gone : Gone accounts (normalizeUsername username)) :
    Ended (accounts.complete scheme (.endSessions username)) (normalizeUsername username) :=
  ⟨gone.complete _, fun _ isEntry => by simpa using (List.mem_filter.mp isEntry).2⟩

end Gone

section Completion

variable {scheme : SecretScheme} {calls : CallsInFlight} {caller other : Nat} {token : String}
  {user : User}

/-- Behind the end of its call a caller has nothing left to do, and the others have what they
had. -/
theorem rest_finish (calls : CallsInFlight) (caller other : Nat) :
    (calls.finish scheme caller).rest? other =
      if other = caller then none else calls.rest? other := by
  unfold finish
  split
  · exact rest_withRest calls _ caller other none
  · rename_i idle
    split
    · rename_i same
      rw [same, idle]
    · rfl

/-- A login that waits opens its session, whatever else happened to its user. -/
theorem verify_finish (waits : calls.rest? caller = some (.openSession token user)) :
    (calls.finish scheme caller).accounts.verify scheme token = .ok user := by
  have opened : (calls.finish scheme caller).accounts.sessions.sessions.get?
      (scheme.tokenKey token) = some user := by
    rw [finish, waits]
    exact (Table.get?_insert _ _ _ _).trans (if_pos rfl)
  rw [Accounts.verify, SessionTable.find, opened]

/-- Callers that finish one after the other have no call left; the others have theirs. -/
theorem rest_finishAll (calls : CallsInFlight) (callers : List Nat) (other : Nat) :
    ((callers.map .finish).foldl (step scheme) calls).rest? other =
      if other ∈ callers then none else calls.rest? other := by
  induction callers generalizing calls with
  | nil => rfl
  | cons caller rest inductionHypothesis =>
    rw [List.map_cons, List.foldl_cons, inductionHypothesis, step, rest_finish]
    by_cases same : other = caller <;> simp [same]

/-- Only finitely many callers ever have a call left. -/
theorem exists_callers (scheme : SecretScheme) (events : List CallEvent) :
    ∃ callers : List Nat, ∀ caller, (run scheme events).rest? caller ≠ none → caller ∈ callers := by
  refine List.foldlRecOn
    (motive := fun reached : CallsInFlight =>
      ∃ callers : List Nat, ∀ caller, reached.rest? caller ≠ none → caller ∈ callers)
    events _ ⟨[], fun _ busy => absurd rfl busy⟩ ?_
  rintro reached ⟨callers, covers⟩ event -
  have onlyOne (accounts : Accounts) (caller : Nat) (rest : Option Rest) :
      ∃ callers : List Nat, ∀ other,
        (reached.withRest accounts caller rest).rest? other ≠ none → other ∈ callers := by
    refine ⟨caller :: callers, fun other busy => ?_⟩
    rw [rest_withRest] at busy
    split at busy
    · rename_i same
      exact same ▸ .head _
    · exact .tail _ (covers other busy)
  generalize reached.step scheme event = after, step_change scheme reached event = change
  cases change with
  | nothing | performed => exact ⟨callers, covers⟩
  | found | removed | finished => exact onlyOne _ _ _

/-- From every state that callers reach, a login that waits can be the last call to finish. -/
theorem exists_completion {events : List CallEvent}
    (waits : (run scheme events).rest? other = some (.openSession token user)) :
    ∃ callers : List Nat,
      let final := (callers.map .finish).foldl (step scheme) (run scheme events)
      final.Completed ∧ final.accounts.verify scheme token = .ok user := by
  obtain ⟨callers, covers⟩ := exists_callers scheme events
  refine ⟨callers.filter (· ≠ other) ++ [other], ?_, ?_⟩
  · intro caller
    rw [rest_finishAll]
    split
    · rfl
    · rename_i notFinished
      have notCaller : caller ∉ callers := by
        intro isCaller
        by_cases same : caller = other <;> simp [same, isCaller] at notFinished
      exact Classical.not_not.mp fun busy => notCaller (covers caller busy)
  · rw [List.map_append, List.foldl_append]
    refine verify_finish ?_
    rw [rest_finishAll, if_neg (by simp), waits]

end Completion

section Deletion

variable {scheme : SecretScheme} {calls : CallsInFlight} {caller : Nat} {username : String}

theorem begin_deleteUser (idle : calls.rest? caller = none) :
    calls.begin scheme caller (.deleteUser username) =
      calls.withRest (calls.accounts.removeUser username).2 caller
        (some (.endSessions username)) := by
  rw [begin, if_neg (by simp [idle])]

/-- The start of a call changes nothing of what other callers have left to do. -/
theorem rest_begin_of_ne {other : Nat} (differ : other ≠ caller) (calls : CallsInFlight)
    (call : Call) : (calls.begin scheme caller call).rest? other = calls.rest? other := by
  unfold begin
  split
  · rfl
  · cases call with
    | login draws username password =>
      dsimp only
      split
      · rw [rest_withRest, if_neg differ]
      · rfl
    | deleteUser username => rw [rest_withRest, if_neg differ]

/-- A deletion that no other step comes between is the deletion of a user. -/
theorem finish_begin_deleteUser (idle : calls.rest? caller = none) :
    ((calls.begin scheme caller (.deleteUser username)).finish scheme caller).accounts =
      calls.accounts.perform scheme (.deleteUser username) := by
  rw [begin_deleteUser idle, finish, rest_withRest, if_pos rfl]
  rfl

/-- A login that no other step comes between is a login. -/
theorem finish_begin_login (idle : calls.rest? caller = none) (draws : Draws)
    (username password : String) :
    ((calls.begin scheme caller (.login draws username password)).finish scheme caller).accounts =
      calls.accounts.perform scheme (.login draws username password) := by
  unfold begin Accounts.perform
  rw [if_neg (by simp [idle])]
  dsimp only
  rcases authentic : Accounts.authenticate scheme calls.accounts.users username password with
    ⟨error | user, events⟩
  · rw [Accounts.login_of_error authentic, finish, idle]
  · rw [Accounts.login_of_ok authentic, finish, rest_withRest, if_pos rfl]
    rfl

end Deletion

/-- A caller deletes a user while others take steps that add no user of the name. When the
deletion returns, no token opens a session of the name, and the logins that still wait to open
one are those that waited when it began and were not finished since. Access is revoked for good
exactly when there is no such login. -/
theorem deletion_revokes_iff_no_login_waits (scheme : SecretScheme)
    (earlier middle : List CallEvent) (caller : Nat) (username : String)
    (idle : (run scheme earlier).rest? caller = none) (notFinished : .finish caller ∉ middle)
    (notCreated : ∀ event ∈ middle, ¬event.Creates (normalizeUsername username)) :
    let name := normalizeUsername username
    let before := run scheme earlier
    let returned := run scheme
      (earlier ++ .begin caller (.deleteUser username) :: (middle ++ [.finish caller]))
    (∀ token user, returned.accounts.verify scheme token = .ok user → user.username ≠ name) ∧
    (∀ other token user, user.username = name →
      (returned.rest? other = some (.openSession token user) ↔
        before.rest? other = some (.openSession token user) ∧ .finish other ∉ middle)) ∧
    (returned.Revoked scheme name ↔ returned.NoLogin name) := by
  intro name before returned
  let begun := before.withRest (before.accounts.removeUser username).2 caller
    (some (.endSessions username))
  let reached := middle.foldl (step scheme) begun
  have isReturned : returned = reached.finish scheme caller := by
    have isBegun : before.step scheme (.begin caller (.deleteUser username)) = begun := by
      rw [step, begin_deleteUser idle]
    dsimp only [returned]
    rw [run, List.foldl_append, List.foldl_cons, List.foldl_append, ← run, isBegun]
    rfl
  have goneBegun : Gone begun.accounts name := gone_removeUser (named_run scheme earlier) username
  have gone : Gone reached.accounts name := goneBegun.foldl notCreated
  have waits : reached.rest? caller = some (.endSessions username) :=
    rest_foldl_of_not_mem ((rest_withRest _ _ _ _ _).trans (if_pos rfl)) notFinished
  have ended : Ended returned.accounts name := by
    rw [isReturned, finish, waits]
    exact gone.ended scheme
  refine ⟨fun token user => ended.username_of_verify, ?inFlight, ?revoked⟩
  case inFlight =>
    intro other token user isName
    rw [isReturned, rest_finish]
    by_cases same : other = caller
    · subst same
      simp [before, idle]
    · rw [if_neg same, goneBegun.waits_foldl_iff notCreated isName, rest_withRest, if_neg same]
  case revoked =>
    constructor
    · intro revoked other token user waits isName
      obtain ⟨callers, completed, verified⟩ := exists_completion waits
      exact revoked (callers.map .finish) (by simp [CallEvent.Creates]) completed token user
        verified isName
    · intro noLogin later notCreated final _ token user
      exact (ended.foldl noLogin notCreated).username_of_verify

/-- Alice is registered, and a login of hers has looked her up. -/
def aliceInFlight : List CallEvent :=
  [.whole (.createUser (Accounts.evenDraws 0) Accounts.aliceRegistration),
    .begin 0 (.login (Accounts.evenDraws 0) "ALICE" "correct-horse")]

/-- The first caller has found Alice and has the session left to open. -/
theorem aliceInFlight_waits :
    (run Accounts.plainScheme aliceInFlight).rest? 0 =
      some (.openSession (Accounts.evenDraws 0).tokenText (Accounts.alice noPermissions)) := by
  decide +kernel

/-- No other caller has anything left to do. -/
theorem aliceInFlight_idle {caller : Nat} (differ : caller ≠ 0) :
    (run Accounts.plainScheme aliceInFlight).rest? caller = none := by
  rw [run, aliceInFlight, List.foldl_cons, List.foldl_cons, List.foldl_nil, step,
    rest_begin_of_ne differ, step]
  rfl

/-- A deletion of Alice revokes her access for good if her login is finished before it returns,
and does not if her login still waits then. -/
theorem deletion_of_alice_revokes_behind_login :
    (run Accounts.plainScheme (aliceInFlight ++
        .begin 1 (.deleteUser "alice") :: ([.finish 0] ++ [.finish 1]))).Revoked
      Accounts.plainScheme "alice" ∧
    ¬(run Accounts.plainScheme (aliceInFlight ++
        .begin 1 (.deleteUser "alice") :: ([] ++ [.finish 1]))).Revoked
      Accounts.plainScheme "alice" := by
  have isAlice : normalizeUsername "alice" = "alice" := by decide +kernel
  have idle : (run Accounts.plainScheme aliceInFlight).rest? 1 = none :=
    aliceInFlight_idle (by decide)
  obtain ⟨_, finished, revoked⟩ := deletion_revokes_iff_no_login_waits Accounts.plainScheme
    aliceInFlight [.finish 0] 1 "alice" idle (by simp) (by simp [CallEvent.Creates])
  obtain ⟨_, waiting, notRevoked⟩ := deletion_revokes_iff_no_login_waits Accounts.plainScheme
    aliceInFlight [] 1 "alice" idle (by simp) (by simp)
  rw [isAlice] at finished revoked waiting notRevoked
  constructor
  · refine revoked.mpr fun other token user waits isName => ?_
    obtain ⟨waited, notFinished⟩ := (finished other token user isName).mp waits
    have differ : other ≠ 0 := by
      rintro rfl
      exact notFinished (.head _)
    rw [aliceInFlight_idle differ] at waited
    cases waited
  · intro isRevoked
    have waits := (waiting 0 _ _ rfl).mpr ⟨aliceInFlight_waits, List.not_mem_nil⟩
    exact notRevoked.mp isRevoked 0 _ _ waits rfl

/-- Alice is deleted between the two steps of a login of hers. All calls are over, she is not
stored, and her token is live. -/
theorem alice_outlives_deletion :
    let events := aliceInFlight ++ [.begin 1 (.deleteUser "alice"), .finish 1, .finish 0]
    let final := run Accounts.plainScheme events
    final.Completed ∧ final.accounts.users.find "alice" = none ∧
      final.accounts.verify Accounts.plainScheme (Accounts.evenDraws 0).tokenText =
        .ok (Accounts.alice noPermissions) := by
  refine ⟨fun caller => ?_, by decide +kernel, by decide +kernel⟩
  rw [run, List.foldl_append, ← run]
  simp only [List.foldl_cons, List.foldl_nil, step, rest_finish]
  by_cases isLogin : caller = 0
  · rw [if_pos isLogin]
  by_cases isDeletion : caller = 1
  · rw [if_neg isLogin, if_pos isDeletion]
  · rw [if_neg isLogin, if_neg isDeletion, rest_begin_of_ne isDeletion,
      aliceInFlight_idle isLogin]

end CallsInFlight

end Dashboard.Account
