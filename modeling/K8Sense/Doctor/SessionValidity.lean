import K8Sense.Library.Transition
import K8Sense.Doctor.Frames

/-! Which session tokens are good for what: the sessions table against a record of
the sign-ins, sign-outs and disablings that were answered with success. -/

namespace K8Sense.Doctor.Api
open Db Transition

/-- `hextable`. -/
def hexTable : List Char := "0123456789abcdef".toList

/-- `hex.EncodeToString`. -/
def encodeToString (bytes : List UInt8) : String :=
  String.ofList (bytes.flatMap fun byte => [hexTable.getD (byte.toNat / 16) '0', hexTable.getD (byte.toNat % 16) '0'])

/-- A request and what it meets, where new tokens are those of `newSessionToken`:
32 random bytes in hexadecimal. -/
structure Event where
  env : Env
  request : Request
  minted : ∀ token, env.newSessionToken = some token → ∃ bytes, bytes.length = 32 ∧ token = encodeToString bytes

inductive Note where
  | issued (token userID : String) (expiresAt : Nat)
  | loggedOut (token : String)
  | disabled (userID : String)
  deriving DecidableEq

/-- What a request that is answered with success has done to sessions. -/
def noteOf (env : Env) (request : Request) (users : List Account) (response : Response) : Option Note :=
  if response.status ≠ 200 then none
  else match request.endpoint with
  | .bootstrap (some req) | .login (some req) =>
    match env.newSessionToken, getUserAuth (Text.trimSpace req.username) users with
    | some token, some account => some (.issued token account.user.id (env.now + sessionTTL))
    | _, _ => none
  | .logout => some (.loggedOut (Text.trimSpace request.session))
  | .updateUser id (some ⟨_, some true⟩) => some (.disabled id)
  | _ => none

/-- Requests, one after another, with the notes so far. -/
def track (system : State × List Note) (event : Event) : Option (State × List Note) :=
  let result := handle event.env system.1 event.request
  some (result.1, system.2 ++ (noteOf event.env event.request result.1.config.users result.2).toList)

/-- The token was issued to the user, and since then it was not logged out and the
user not disabled. -/
def Live (notes : List Note) (token userID : String) (expiresAt : Nat) : Prop :=
  ∃ before after, notes = before ++ .issued token userID expiresAt :: after ∧
    Note.loggedOut token ∉ after ∧ Note.disabled userID ∉ after

structure ValidSession (notes : List Note) (users : List Account) (now : Nat) (token : String) (user : User) : Prop where
  live : ∃ expiresAt, Live notes token user.id expiresAt ∧ now < expiresAt
  found : getUser user.id users = some user
  enabled : user.disabled = false

/-- Where a request logs out or disables an account, the sessions that it is to end
are deleted, or there are none. -/
def Revokes (system : State × List Note) (event : Event) : Prop :=
  match event.request.endpoint with
  | .logout => (event.env.fails .deleteSession).isSome = true →
      ∀ session ∈ system.1.sessions, session.token ≠ Text.trimSpace event.request.session
  | .updateUser id (some ⟨_, some true⟩) => (event.env.fails .deleteUserSessions).isSome = true →
      ∀ session ∈ system.1.sessions, session.userID ≠ id
  | _ => True

structure Fresh (state : State) : Prop where
  users : state.config.users = []
  sessions : state.sessions = []

/-- The sessions table and the notes agree. -/
structure Recorded (sessions : List Session) (notes : List Note) : Prop where
  live : ∀ token userID expiresAt,
    (∃ session ∈ sessions, session.token = token ∧ session.userID = userID ∧ session.expiresAt = expiresAt) ↔
      Live notes token userID expiresAt
  distinct : ∀ first ∈ sessions, ∀ second ∈ sessions, first.token = second.token → first = second
  named : ∀ session ∈ sessions, session.token ≠ ""

variable {env : Env} {state : State} {user : Option User} {sessions : List Session} {notes : List Note}

theorem encodeToString_nonempty {bytes : List UInt8} (some_bytes : bytes ≠ []) : encodeToString bytes ≠ "" := by
  obtain ⟨byte, rest, rfl⟩ := List.exists_cons_of_ne_nil some_bytes
  intro empty
  have chars := congrArg String.toList empty
  simp [encodeToString] at chars

theorem live_nil {token userID : String} {expiresAt : Nat} : ¬ Live [] token userID expiresAt := by
  rintro ⟨before, after, split, _⟩
  simp at split

theorem live_snoc {last : Note} {token userID : String} {expiresAt : Nat} :
    Live (notes ++ [last]) token userID expiresAt ↔ last = .issued token userID expiresAt ∨
      Live notes token userID expiresAt ∧ last ≠ .loggedOut token ∧ last ≠ .disabled userID := by
  constructor
  · rintro ⟨before, after, split, kept, enabled⟩
    rcases List.eq_nil_or_concat after with rfl | ⟨rest, final, rfl⟩
    · obtain ⟨-, same⟩ := List.append_inj' split rfl
      exact Or.inl (List.cons.inj same).1
    · have shape : notes ++ [last] = (before ++ .issued token userID expiresAt :: rest) ++ [final] := by
        simpa using split
      obtain ⟨prior, same⟩ := List.append_inj' shape rfl
      cases (List.cons.inj same).1
      simp only [List.concat_eq_append, List.mem_append, List.mem_singleton, not_or] at kept enabled
      exact Or.inr ⟨⟨before, rest, prior, kept.1, enabled.1⟩, Ne.symm kept.2, Ne.symm enabled.2⟩
  · rintro (rfl | ⟨⟨before, after, rfl, kept, enabled⟩, out, off⟩)
    · exact ⟨notes, [], by simp, by simp, by simp⟩
    · refine ⟨before, after ++ [last], by simp, ?_, ?_⟩
      · simpa using ⟨kept, Ne.symm out⟩
      · simpa using ⟨enabled, Ne.symm off⟩

theorem recorded_issued {session : Session} {next : List Session} (recorded : Recorded sessions notes)
    (named : session.token ≠ "") (made : createSession session sessions = some next) :
    Recorded next (notes ++ [.issued session.token session.userID session.expiresAt]) := by
  unfold createSession at made
  split at made
  next => cases made
  next free =>
    cases made
    simp only [List.any_eq_true, decide_eq_true_eq, not_exists, not_and] at free
    refine ⟨?_, ?_, ?_⟩
    · intro token userID expiresAt
      rw [live_snoc, ← recorded.live]
      simp only [List.mem_append, List.mem_singleton, Note.issued.injEq]
      constructor
      · rintro ⟨found, old | rfl, rfl, rfl, rfl⟩
        · exact Or.inr ⟨⟨found, old, rfl, rfl, rfl⟩, by simp, by simp⟩
        · exact Or.inl ⟨rfl, rfl, rfl⟩
      · rintro (⟨rfl, rfl, rfl⟩ | ⟨⟨found, old, same⟩, _⟩)
        · exact ⟨session, Or.inr rfl, rfl, rfl, rfl⟩
        · exact ⟨found, Or.inl old, same⟩
    · intro first one second two same
      rcases List.mem_append.mp one with old | new
      · rcases List.mem_append.mp two with older | newer
        · exact recorded.distinct first old second older same
        · cases List.mem_singleton.mp newer
          exact absurd same (free first old)
      · cases List.mem_singleton.mp new
        rcases List.mem_append.mp two with older | newer
        · exact absurd same.symm (free second older)
        · exact (List.mem_singleton.mp newer).symm
    · intro found member
      rcases List.mem_append.mp member with old | new
      · exact recorded.named found old
      · cases List.mem_singleton.mp new
        exact named

theorem recorded_ended {keep : Session → Bool} {last : Note} (recorded : Recorded sessions notes)
    (silent : ∀ token userID expiresAt, last ≠ .issued token userID expiresAt)
    (spared : ∀ session ∈ sessions, keep session = true ↔ last ≠ .loggedOut session.token ∧ last ≠ .disabled session.userID) :
    Recorded (sessions.filter keep) (notes ++ [last]) := by
  refine ⟨?_, ?_, ?_⟩
  · intro token userID expiresAt
    rw [live_snoc, ← recorded.live]
    simp only [silent, false_or, List.mem_filter]
    constructor
    · rintro ⟨found, ⟨member, kept⟩, rfl, rfl, rfl⟩
      exact ⟨⟨found, member, rfl, rfl, rfl⟩, (spared found member).mp kept⟩
    · rintro ⟨⟨found, member, rfl, rfl, rfl⟩, kept⟩
      exact ⟨found, ⟨member, (spared found member).mpr kept⟩, rfl, rfl, rfl⟩
  · intro first one second two same
    exact recorded.distinct first (List.mem_of_mem_filter one) second (List.mem_of_mem_filter two) same
  · exact fun found member => recorded.named found (List.mem_of_mem_filter member)

theorem recorded_loggedOut {token : String} (recorded : Recorded sessions notes) :
    Recorded (deleteSession token sessions) (notes ++ [.loggedOut token]) := by
  apply recorded_ended recorded
  · simp
  · intro session _
    rw [decide_eq_true_eq]
    constructor
    · exact fun other => ⟨fun same => other (Note.loggedOut.inj same).symm, nofun⟩
    · exact fun other same => other.1 (congrArg Note.loggedOut same.symm)

theorem recorded_disabled {userID : String} (recorded : Recorded sessions notes) :
    Recorded (deleteUserSessions userID sessions) (notes ++ [.disabled userID]) := by
  apply recorded_ended recorded
  · simp
  · intro session _
    rw [decide_eq_true_eq]
    constructor
    · exact fun other => ⟨nofun, fun same => other (Note.disabled.inj same).symm⟩
    · exact fun other same => other.2 (congrArg Note.disabled same.symm)

theorem deleteSession_absent {token : String} (absent : ∀ session ∈ sessions, session.token ≠ token) :
    deleteSession token sessions = sessions := by
  rw [deleteSession, List.filter_eq_self]
  exact fun session member => decide_eq_true (absent session member)

theorem deleteUserSessions_absent {userID : String} (absent : ∀ session ∈ sessions, session.userID ≠ userID) :
    deleteUserSessions userID sessions = sessions := by
  rw [deleteUserSessions, List.filter_eq_self]
  exact fun session member => decide_eq_true (absent session member)

theorem sessionUser_some {token userID : String} {now : Nat} (recorded : Recorded sessions notes) :
    sessionUser token now sessions = some userID ↔ ∃ expiresAt, Live notes token userID expiresAt ∧ now < expiresAt := by
  unfold sessionUser
  cases looked : sessions.find? fun session => decide (session.token = token) with
  | none =>
    simp only [List.find?_eq_none, decide_eq_true_eq] at looked
    constructor
    · intro none
      cases none
    · rintro ⟨expiresAt, live, _⟩
      obtain ⟨session, member, named, _⟩ := (recorded.live token userID expiresAt).mpr live
      exact absurd named (looked session member)
  | some session =>
    have member := List.mem_of_find?_eq_some looked
    have named : session.token = token := by simpa using List.find?_some looked
    constructor
    · intro resolved
      simp only at resolved
      split at resolved
      next => cases resolved
      next running =>
        cases resolved
        exact ⟨session.expiresAt, (recorded.live _ _ _).mp ⟨session, member, named, rfl, rfl⟩, Nat.lt_of_not_le running⟩
    · rintro ⟨expiresAt, live, running⟩
      obtain ⟨other, inside, called, rfl, rfl⟩ := (recorded.live token userID expiresAt).mpr live
      cases recorded.distinct other inside session member (called.trans named.symm)
      simp only [if_neg (Nat.not_le_of_lt running)]

theorem noteOf_failed {request : Request} {users : List Account} {response : Response} (failed : response.status ≠ 200) :
    noteOf env request users response = none := if_pos failed

/-- The sessions and the notes agree after a request. -/
def Noted (env : Env) (request : Request) (notes : List Note) (result : State × Response) : Prop :=
  Recorded result.1.sessions (notes ++ (noteOf env request result.1.config.users result.2).toList)

theorem noted_failed {request : Request} {result : State × Response} (recorded : Recorded state.sessions notes)
    (same : result.1.sessions = state.sessions) (failed : result.2.status ≠ 200) : Noted env request notes result := by
  unfold Noted
  rw [noteOf_failed failed, same]
  simpa using recorded

theorem checkBootstrap_failed {body : Option Credentials} {response : Response}
    (failed : checkBootstrap env state body = .error response) : response.status ≠ 200 := by
  unfold checkBootstrap at failed
  split at failed
  next => cases failed; simp
  next =>
    split at failed
    next => cases failed; simp
    next =>
      split at failed
      next => cases failed; simp
      next =>
        split at failed
        next => cases failed; simp
        next => cases failed

theorem checkBootstrap_ok {body : Option Credentials} {req : Credentials} (passed : checkBootstrap env state body = .ok req) :
    state.config.users = [] ∧ body = some req := by
  unfold checkBootstrap at passed
  split at passed
  next => cases passed
  next =>
    split at passed
    next => cases passed
    next =>
      split at passed
      next => cases passed
      next empty =>
        split at passed
        next => cases passed
        next =>
          cases passed
          exact ⟨List.eq_nil_of_length_eq_zero (Nat.eq_zero_of_not_pos empty), rfl⟩

theorem issueSession_noted {request : Request} {req : Credentials}
    (endpoint : request.endpoint = .login (some req) ∨ request.endpoint = .bootstrap (some req))
    (minted : ∀ token, env.newSessionToken = some token → token ≠ "") (recorded : Recorded state.sessions notes) :
    Noted env request notes (issueSession env state req.username req.password) := by
  rcases issueSession_cases req.username req.password with ⟨same, failed⟩ | ⟨account, token, next, found, drawn, made, after, done⟩
  · exact noted_failed recorded (congrArg State.sessions same) failed
  · have users : (issueSession env state req.username req.password).1.config.users = state.config.users := by
      rw [after]
    have noted : noteOf env request state.config.users (issueSession env state req.username req.password).2 =
        some (.issued token account.user.id (env.now + sessionTTL)) := by
      unfold noteOf
      rcases endpoint with login | bootstrap
      · simp only [done, login, drawn, found, ne_eq, not_true_eq_false, if_false]
      · simp only [done, bootstrap, drawn, found, ne_eq, not_true_eq_false, if_false]
    unfold Noted
    rw [users, noted, after]
    exact recorded_issued recorded (minted token drawn) made

theorem bootstrap_noted {request : Request} {body : Option Credentials} (endpoint : request.endpoint = .bootstrap body)
    (minted : ∀ token, env.newSessionToken = some token → token ≠ "") (recorded : Recorded state.sessions notes) :
    Noted env request notes (bootstrap env state body) := by
  unfold bootstrap
  cases checked : checkBootstrap env state body with
  | error response => exact noted_failed recorded rfl (checkBootstrap_failed checked)
  | ok req =>
    have given : body = some req := (checkBootstrap_ok checked).2
    cases stored : storeUser env state req.username req.password .admin with
    | error response =>
      simp only [stored]
      exact noted_failed recorded rfl (storeUser_failed stored)
    | ok created =>
      obtain ⟨_, hash, _, rfl⟩ := storeUser_ok.mp stored
      simp only [stored]
      exact issueSession_noted (Or.inr (given ▸ endpoint)) minted recorded

theorem login_noted {request : Request} {body : Option Credentials} (endpoint : request.endpoint = .login body)
    (minted : ∀ token, env.newSessionToken = some token → token ≠ "") (recorded : Recorded state.sessions notes) :
    Noted env request notes (login env state body) := by
  cases body with
  | none => exact noted_failed recorded rfl (by simp [login])
  | some req => exact issueSession_noted (Or.inl endpoint) minted recorded

theorem logout_noted {request : Request} (endpoint : request.endpoint = .logout)
    (revokes : (env.fails .deleteSession).isSome = true → ∀ session ∈ state.sessions, session.token ≠ Text.trimSpace request.session)
    (recorded : Recorded state.sessions notes) : Noted env request notes (logout env state request.session) := by
  have deleted : (logout env state request.session).1.sessions =
      deleteSession (Text.trimSpace request.session) state.sessions := by
    unfold logout
    extract_lets token
    split
    next skipped =>
      rcases skipped with empty | broken
      · have blank : Text.trimSpace request.session = "" := empty
        exact (deleteSession_absent fun session member => blank ▸ recorded.named session member).symm
      · exact (deleteSession_absent (revokes broken)).symm
    next => rfl
  have answered : (logout env state request.session).2 = writeOK := by
    unfold logout
    extract_lets token
    split <;> rfl
  unfold Noted noteOf
  rw [deleted, answered]
  simp only [endpoint, ne_eq, writeOK_status, not_true_eq_false, if_false]
  exact recorded_loggedOut recorded

theorem createUser_noted {request : Request} {body : Option CreateUserRequest} (endpoint : request.endpoint = .createUser body)
    (recorded : Recorded state.sessions notes) : Noted env request notes (createUser env state user body) := by
  have kept : (createUser env state user body).1.sessions = state.sessions := by
    obtain ⟨accounts, same, _⟩ := createUser_state env state user body
    rw [same]
    rfl
  unfold Noted noteOf
  rw [kept]
  simpa only [endpoint, ite_self, Option.toList_none, List.append_nil] using recorded

/-- Disabling an account ends its sessions. What is not answered with success, and
what disables nobody, ends none. -/
theorem updateDisabled_sessions {id : String} {disabled : Option Bool} (state : State) :
    (updateDisabled env state id disabled).1.sessions = state.sessions ∧
        (disabled = some true → (updateDisabled env state id disabled).2.status = 200 →
          (env.fails .deleteUserSessions).isSome = true) ∨
      disabled = some true ∧ (updateDisabled env state id disabled).2.status = 200 ∧
        (updateDisabled env state id disabled).1.sessions = deleteUserSessions id state.sessions := by
  unfold updateDisabled
  cases disabled with
  | none => exact Or.inl ⟨rfl, nofun⟩
  | some wanted =>
    cases failed : (env.fails .setUserDisabled).isSome with
    | true => exact Or.inl ⟨rfl, fun _ done => absurd done (by simp)⟩
    | false =>
      cases wanted with
      | false => exact Or.inl ⟨by simp [State.setUsers], nofun⟩
      | true =>
        cases broken : (env.fails .deleteUserSessions).isNone with
        | true => exact Or.inr ⟨rfl, by simp, by simp [State.setUsers]⟩
        | false =>
          refine Or.inl ⟨by simp [State.setUsers], fun _ _ => ?_⟩
          simpa using broken

theorem updateDisabled_noted {request : Request} {id : String} {req : UpdateUserRequest}
    (endpoint : request.endpoint = .updateUser id (some req))
    (revokes : req.disabled = some true → (env.fails .deleteUserSessions).isSome = true →
      ∀ session ∈ state.sessions, session.userID ≠ id) (recorded : Recorded state.sessions notes) :
    Noted env request notes (updateDisabled env state id req.disabled) := by
  have noted : ∀ users, req.disabled = some true → (updateDisabled env state id req.disabled).2.status = 200 →
      noteOf env request users (updateDisabled env state id req.disabled).2 = some (.disabled id) := by
    intro users wanted done
    obtain ⟨role, disabled⟩ := req
    cases wanted
    simp only [noteOf, endpoint, done, ne_eq, not_true_eq_false, if_false]
  unfold Noted
  rcases updateDisabled_sessions state with ⟨kept, broken⟩ | ⟨wanted, done, deleted⟩
  · by_cases disables : req.disabled = some true ∧ (updateDisabled env state id req.disabled).2.status = 200
    · obtain ⟨wanted, done⟩ := disables
      rw [noted _ wanted done, kept, ← deleteUserSessions_absent (revokes wanted (broken wanted done))]
      exact recorded_disabled recorded
    · have silent : ∀ users, noteOf env request users (updateDisabled env state id req.disabled).2 = none := by
        intro users
        by_cases done : (updateDisabled env state id req.disabled).2.status = 200
        · have other : req.disabled ≠ some true := fun wanted => disables ⟨wanted, done⟩
          obtain ⟨role, disabled⟩ := req
          unfold noteOf
          rw [endpoint]
          rcases disabled with _ | _ | _
          · simp
          · simp
          · exact absurd rfl other
        · exact noteOf_failed done
      rw [silent, kept]
      simpa using recorded
  · rw [noted _ wanted done, deleted]
    exact recorded_disabled recorded

theorem updateUser_noted {request : Request} {id : String} {body : Option UpdateUserRequest}
    (endpoint : request.endpoint = .updateUser id body)
    (revokes : ∀ req, body = some req → req.disabled = some true → (env.fails .deleteUserSessions).isSome = true →
      ∀ session ∈ state.sessions, session.userID ≠ id) (recorded : Recorded state.sessions notes) :
    Noted env request notes (updateUser env state user id body) := by
  unfold updateUser requireAdmin
  split
  next =>
    split
    next => exact noted_failed recorded rfl (by simp)
    next =>
      split
      next => exact noted_failed recorded rfl (by simp)
      next req =>
        have rest : ∀ before : State, before.sessions = state.sessions →
            Noted env request notes (updateDisabled env before id req.disabled) := by
          intro before same
          apply updateDisabled_noted endpoint
          · rw [same]
            exact revokes req rfl
          · rwa [same]
        unfold updateRole
        split
        next => exact rest state rfl
        next =>
          split
          next => exact noted_failed recorded rfl (by simp)
          next =>
            split
            next => exact noted_failed recorded rfl (by simp)
            next => exact rest _ rfl
  next => exact noted_failed recorded rfl (by simp)

theorem dispatch_noted {event : Event} (revokes : Revokes (state, notes) event) (recorded : Recorded state.sessions notes) :
    Noted event.env event.request notes (dispatch event.env state user event.request) := by
  have minted : ∀ token, event.env.newSessionToken = some token → token ≠ "" := by
    intro token drawn
    obtain ⟨bytes, length, rfl⟩ := event.minted token drawn
    apply encodeToString_nonempty
    rintro rfl
    cases length
  cases accounts : event.request.endpoint.accounts with
  | false =>
    have kept := (dispatch_accounts accounts : (dispatch event.env state user event.request).1.config.users = _ ∧ _).2
    have silent : ∀ users response, noteOf event.env event.request users response = none := by
      intro users response
      unfold noteOf
      cases endpoint : event.request.endpoint <;> simp [endpoint, Endpoint.accounts] at accounts ⊢
    unfold Noted
    rw [kept, silent]
    simpa using recorded
  | true =>
    unfold dispatch
    cases endpoint : event.request.endpoint with
    | bootstrap body => exact bootstrap_noted endpoint minted recorded
    | login body => exact login_noted endpoint minted recorded
    | logout =>
      apply logout_noted endpoint _ recorded
      simpa only [Revokes, endpoint] using revokes
    | createUser body => exact createUser_noted endpoint recorded
    | updateUser id body =>
      apply updateUser_noted endpoint _ recorded
      rintro ⟨role, disabled⟩ rfl wanted
      cases wanted
      simpa only [Revokes, endpoint] using revokes
    | _ => simp [endpoint, Endpoint.accounts] at accounts

theorem auditRequest_kept {request : Request} {response : Response} :
    (auditRequest env user request state response).sessions = state.sessions ∧
      (auditRequest env user request state response).config = state.config := by
  unfold auditRequest
  split <;> exact ⟨rfl, rfl⟩

theorem recorded_step {event : Event} {next : State × List Note} (recorded : Recorded state.sessions notes)
    (revokes : Revokes (state, notes) event) (taken : track (state, notes) event = some next) :
    Recorded next.1.sessions next.2 := by
  cases taken
  have noted : Noted event.env event.request notes (handle event.env state event.request) := by
    unfold handle
    split
    next => exact noted_failed recorded rfl (by simp [unauthenticated, codedError])
    next user passes =>
      have done : Noted event.env event.request notes (dispatch event.env state user event.request) :=
        dispatch_noted revokes recorded
      unfold Noted at done ⊢
      extract_lets result
      rw [auditRequest_kept.1, auditRequest_kept.2]
      exact done
  exact noted

/-- After every run of requests, in which no session outlives its sign-out or the
disabling of its user, a token resolves to a user exactly when it is valid. -/
theorem resolves_iff_valid (events : List Event) (start last : State) (notes : List Note) (env : Env) (request : Request)
    (user : User) (fresh : Fresh start) (revokes : Meets track Revokes (start, []) events)
    (ran : run track (start, []) events = some (last, notes))
    (reads : env.fails .sessionUser = none ∧ env.fails .getUser = none) :
    resolveSessionUser env last request = some user ↔
      ValidSession notes last.config.users env.now (Text.trimSpace request.session) user := by
  have recorded : Recorded last.sessions notes := by
    have empty : Recorded start.sessions [] := by
      rw [fresh.sessions]
      exact ⟨fun _ _ _ => ⟨by simp, fun live => absurd live live_nil⟩, by simp, by simp⟩
    exact invariant (fun system => Recorded system.1.sessions system.2)
      (fun _ _ _ holds allowed taken => recorded_step holds allowed taken) empty revokes ran
  unfold resolveSessionUser
  simp only [reads, Option.isSome_none, Bool.false_eq_true, or_false]
  split
  next blank =>
    constructor
    · intro none
      cases none
    · rintro ⟨⟨expiresAt, live, _⟩, _, _⟩
      obtain ⟨session, member, named, _⟩ := (recorded.live _ _ _).mpr live
      exact absurd (named.trans blank) (recorded.named session member)
  next =>
    have identified : ∀ {id found}, getUser id last.config.users = some found → found.id = id := by
      intro id found looked
      obtain ⟨account, first, rfl⟩ := Option.map_eq_some_iff.mp looked
      simpa using List.find?_some first
    constructor
    · intro resolved
      split at resolved
      next => cases resolved
      next userID looked =>
        obtain ⟨found, enabled⟩ := Option.filter_eq_some_iff.mp resolved
        have same : user.id = userID := identified found
        refine ⟨?_, same ▸ found, by simpa using enabled⟩
        rw [same]
        exact (sessionUser_some recorded).mp looked
    · rintro ⟨live, found, enabled⟩
      rw [(sessionUser_some recorded).mpr live]
      exact Option.filter_eq_some_iff.mpr ⟨found, by simp [enabled]⟩

/-- A token of 32 equal bytes. -/
private def tokenOf (byte : UInt8) : String := encodeToString (List.replicate 32 byte)

/-- A request with the session of the token, after which the given token is drawn. -/
private def eventOf (endpoint : Endpoint) (now : Nat) (id : String) (session : String) (byte : UInt8) (broken : Query → Bool) :
    Event where
  env := { Env.calm now id (some (tokenOf byte)) with
    database := fun query => if broken query then some "database is locked" else none }
  request := ⟨endpoint, "", "", session, none, ""⟩
  minted _ drawn := ⟨List.replicate 32 byte, List.length_replicate, (Option.some.inj drawn).symm⟩

private def root : User := ⟨"root0", "root", .admin, false, 1⟩

private def firstSetup : Event :=
  eventOf (.bootstrap (some ⟨"root", "password"⟩)) 1 "root" "" 1 fun _ => false

private def tokenRequest (byte : UInt8) : Request := ⟨.logout, "", "", tokenOf byte, none, ""⟩

theorem first_session_valid : ∃ last notes, run track (State.empty, []) [firstSetup] = some (last, notes) ∧
    ValidSession notes last.config.users 2 (Text.trimSpace (tokenOf 1)) root := by
  have outcome : (run track (State.empty, []) [firstSetup]).any (fun reached =>
      resolveSessionUser (Env.calm 2 "" none) reached.1 (tokenRequest 1) = some root) = true := by decide +kernel
  obtain ⟨⟨last, notes⟩, ran, resolved⟩ := (Option.any_eq_true _ _).mp outcome
  exact ⟨last, notes, ran, (resolves_iff_valid [firstSetup] State.empty last notes (Env.calm 2 "" none) (tokenRequest 1) root
    ⟨rfl, rfl⟩ ⟨trivial, trivial⟩ ran ⟨rfl, rfl⟩).mp (of_decide_eq_true resolved)⟩

/-- An admin creates an account, which signs in, and is disabled while the database
is locked, and is enabled again. -/
private def revival : List Event := [
  firstSetup,
  eventOf (.createUser (some ⟨"bob", "password", .viewer⟩)) 2 "bob" (tokenOf 1) 2 fun _ => false,
  eventOf (.login (some ⟨"bob", "password"⟩)) 3 "" "" 2 fun _ => false,
  eventOf (.updateUser "bob0" (some ⟨none, some true⟩)) 4 "" (tokenOf 1) 3 fun query => query = .deleteUserSessions,
  eventOf (.updateUser "bob0" (some ⟨none, some false⟩)) 5 "" (tokenOf 1) 3 fun _ => false]

/-- The session from before is good again. -/
theorem disabled_session_revives :
    ¬ ∀ (events : List Event) (start last : State) (notes : List Note) (env : Env) (request : Request) (user : User),
      Fresh start → run track (start, []) events = some (last, notes) →
        env.fails .sessionUser = none ∧ env.fails .getUser = none →
          (resolveSessionUser env last request = some user ↔
            ValidSession notes last.config.users env.now (Text.trimSpace request.session) user) := by
  intro valid
  have outcome : (run track (State.empty, []) revival).any (fun reached =>
      resolveSessionUser (Env.calm 6 "" none) reached.1 (tokenRequest 2) = some ⟨"bob0", "bob", .viewer, false, 2⟩ ∧
        reached.2 = [Note.issued (tokenOf 1) "root0" 43201, Note.issued (tokenOf 2) "bob0" 43203] ++ [Note.disabled "bob0"]) = true := by
    decide +kernel
  obtain ⟨⟨last, notes⟩, ran, holds⟩ := (Option.any_eq_true _ _).mp outcome
  obtain ⟨resolves, noted⟩ := of_decide_eq_true holds
  have claimed := valid revival State.empty last notes (Env.calm 6 "" none) (tokenRequest 2) ⟨"bob0", "bob", .viewer, false, 2⟩
    ⟨rfl, rfl⟩ ran ⟨rfl, rfl⟩
  obtain ⟨expiresAt, live, _⟩ := (claimed.mp resolves).live
  dsimp only at noted
  rw [noted, live_snoc] at live
  simp at live

end K8Sense.Doctor.Api
