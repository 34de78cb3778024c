import Mathlib.Logic.Relation
import K8Sense.Library.Transition
import K8Sense.Doctor.Frames

/-! Requests that are served at the same time. Between two statements of a request
to the database, those of other requests may come. Handlers that touch neither
accounts nor sessions are one step. -/

namespace K8Sense.Doctor.Api
open Db Transition

/-- What the handler of an admitted request has done so far. -/
inductive Stage where
  | started
  | counted (users : Nat) (body : Option Credentials)
  | signingIn (username password : String)
  | verified (account : Account)
  | updating (id : String) (req : UpdateUserRequest)
  | changing (id : String) (disabled : Option Bool)
  | revoking (id : String)
  | answered (response : Response)

def Stage.busy : Stage → Bool
  | .answered _ => false
  | _ => true

inductive Phase where
  | received
  | resolved (userID : String)
  | handling (user : Option User) (stage : Stage)
  | done (response : Response)

section
variable (env : Env)

/-- The first half of `issueSession`. -/
def verifyPassword (state : State) (username password : String) : Except Response Account :=
  if (env.fails .getUserAuth).isSome then .error (jsonError 500 "could not sign in")
  else match getUserAuth (Text.trimSpace username) state.config.users with
  | none => .error (jsonError 401 "Incorrect username or password.")
  | some account =>
    if account.user.disabled || !env.passwordMatches account.passwordHash password then
      .error (jsonError 401 "Incorrect username or password.")
    else .ok account

def openSession (state : State) (account : Account) : State × Response :=
  match env.newSessionToken with
  | none => (state, jsonError 500 "could not sign in")
  | some token =>
    match env.fails .createSession,
      Db.createSession ⟨token, account.user.id, env.now, env.now + sessionTTL⟩ state.sessions with
    | none, some sessions => ({ state with sessions }, writeJSON [("token", token.quote), ("user", userJSON account.user)])
    | _, _ => (state, jsonError 500 "could not sign in")

/-- The middleware up to the first statement. -/
def receive (state : State) (request : Request) : Phase :=
  if request.endpoint.isAuthPublicPath then .handling none .started
  else match env.authMode with
  | .off => .handling none .started
  | .oidc =>
    match resolveOIDCUser env request with
    | none => .done unauthenticated
    | some user => .handling (some user) .started
  | .local =>
    let token := Text.trimSpace request.session
    if token = "" ∨ (env.fails .sessionUser).isSome then .done unauthenticated
    else match sessionUser token env.now state.sessions with
    | none => .done unauthenticated
    | some userID => .resolved userID

/-- Its second statement, with a session that was found. -/
def resolve (state : State) (userID : String) : Phase :=
  if (env.fails .getUser).isSome then .done unauthenticated
  else match (getUser userID state.config.users).filter fun user => !user.disabled with
  | none => .done unauthenticated
  | some user => .handling (some user) .started

/-- The handler, up to and with its next statement. -/
def work (request : Request) (user : Option User) (state : State) : Stage → State × Stage
  | .started =>
    match request.endpoint with
    | .bootstrap body =>
      if env.authMode = .off then (state, .answered (jsonError 400 "Authentication is not enabled on this server."))
      else if (env.fails .countUsers).isSome then (state, .answered (jsonError 500 "could not read users"))
      else (state, .counted state.config.users.length body)
    | .login (some req) => (state, .signingIn req.username req.password)
    | .updateUser id body =>
      if !(currentUser user).role.atLeast .admin then (state, .answered (jsonError 403 "Admins only."))
      else if id = (currentUser user).id then
        (state, .answered (jsonError 400 "You can't change your own admin account here."))
      else match body with
      | none => (state, .answered (jsonError 400 "invalid request body"))
      | some req => (state, .updating id req)
    | _ => ((dispatch env state user request).1, .answered (dispatch env state user request).2)
  | .counted users body =>
    if 0 < users then (state, .answered (jsonError 409 "Setup is already complete — sign in instead."))
    else match body with
    | none => (state, .answered (jsonError 400 "invalid request body"))
    | some req =>
      match storeUser env state req.username req.password .admin with
      | .error response => (state, .answered response)
      | .ok created => (created, .signingIn req.username req.password)
  | .signingIn username password =>
    match verifyPassword env state username password with
    | .error response => (state, .answered response)
    | .ok account => (state, .verified account)
  | .verified account => ((openSession env state account).1, .answered (openSession env state account).2)
  | .updating id req =>
    match req.role with
    | none => (state, .changing id req.disabled)
    | some role =>
      if !role.valid then (state, .answered (jsonError 400 "unknown role"))
      else if (env.fails .setUserRole).isSome then (state, .answered (jsonError 500 "could not update role"))
      else (state.setUsers (setUserRole id role state.config.users), .changing id req.disabled)
  | .changing id disabled =>
    match disabled with
    | none => (state, .answered writeOK)
    | some disabled =>
      if (env.fails .setUserDisabled).isSome then (state, .answered (jsonError 500 "could not update status"))
      else (state.setUsers (setUserDisabled id disabled state.config.users),
        if disabled then .revoking id else .answered writeOK)
  | .revoking id =>
    if (env.fails .deleteUserSessions).isSome then (state, .answered writeOK)
    else ({ state with sessions := deleteUserSessions id state.sessions }, .answered writeOK)
  | .answered response => (state, .answered response)

/-- One step of a request. -/
def advance (request : Request) (state : State) : Phase → Option (State × Phase)
  | .received => some (state, receive env state request)
  | .resolved userID => some (state, resolve env state userID)
  | .handling user (.answered response) => some (auditRequest env user request state response, .done response)
  | .handling user stage => some ((work env request user state stage).1, .handling user (work env request user state stage).2)
  | .done _ => none

end

structure Thread where
  env : Env
  request : Request
  phase : Phase

/-- The server with the requests that have come, and the accounts that the setup
has created. -/
structure System where
  server : State
  threads : List Thread
  bootstrapped : List Account

inductive Act where
  | arrive (env : Env) (request : Request)
  | advance (place : Nat)

/-- The setup's own statement that creates an account. -/
def Phase.bootstraps : Phase → Bool
  | .handling _ (.counted _ _) => true
  | _ => false

/-- A request comes, or one that has come takes a step. -/
def perform (system : System) : Act → Option System
  | .arrive env request => some { system with threads := system.threads ++ [⟨env, request, .received⟩] }
  | .advance place =>
    match system.threads[place]? with
    | none => none
    | some thread =>
      match advance thread.env thread.request system.server thread.phase with
      | none => none
      | some (server, phase) => some {
          server
          threads := system.threads.set place { thread with phase }
          bootstrapped := system.bootstrapped ++
            if thread.phase.bootstraps then server.config.users.drop system.server.config.users.length else [] }

variable {env : Env} {state : State} {user : Option User}

theorem issueSession_eq (username password : String) : issueSession env state username password =
    match verifyPassword env state username password with
    | .error response => (state, response)
    | .ok account => openSession env state account := by
  unfold issueSession verifyPassword
  cases broken : (env.fails .getUserAuth).isSome with
  | true => rfl
  | false =>
    cases found : getUserAuth (Text.trimSpace username) state.config.users with
    | none => rfl
    | some account =>
      by_cases refused : (account.user.disabled || !env.passwordMatches account.passwordHash password) = true
      · simp only [if_pos refused, Bool.false_eq_true, if_false]
      · simp only [if_neg refused, Bool.false_eq_true, if_false]
        rfl

/-- A request that is alone on the server. -/
def Alone (env : Env) (request : Request) : State × Phase → State × Phase → Prop :=
  Relation.ReflTransGen fun before after => advance env request before.1 before.2 = some after

theorem alone_step {request : Request} {before after last : State × Phase}
    (taken : advance env request before.1 before.2 = some after) (rest : Alone env request after last) :
    Alone env request before last := Relation.ReflTransGen.head taken rest

theorem alone_work {request : Request} {stage : Stage} {last : State × Phase} (busy : stage.busy = true)
    (rest : Alone env request ((work env request user state stage).1, .handling user (work env request user state stage).2) last) :
    Alone env request (state, .handling user stage) last := by
  apply alone_step _ rest
  cases stage with
  | answered response => cases busy
  | _ => rfl

/-- The answer of a handler, with what it made of the server. -/
def Answers (env : Env) (request : Request) (user : Option User) (state : State) (stage : Stage) (result : State × Response) :
    Prop :=
  Alone env request (state, .handling user stage) (result.1, .handling user (.answered result.2))

theorem answers_at_once {request : Request} {stage : Stage} {result : State × Response}
    (busy : stage.busy = true)
    (answered : work env request user state stage = (result.1, .answered result.2)) :
    Answers env request user state stage result := by
  apply alone_work busy
  rw [answered]
  exact Relation.ReflTransGen.refl

theorem signingIn_answers {request : Request} (username password : String) :
    Answers env request user state (.signingIn username password) (issueSession env state username password) := by
  rw [issueSession_eq]
  cases verified : verifyPassword env state username password with
  | error response => exact answers_at_once rfl (by simp only [work, verified])
  | ok account =>
    apply alone_work rfl
    simp only [work, verified]
    exact answers_at_once rfl rfl

theorem changing_answers {request : Request} (id : String) (disabled : Option Bool) :
    Answers env request user state (.changing id disabled) (updateDisabled env state id disabled) := by
  unfold updateDisabled
  cases disabled with
  | none => exact answers_at_once rfl rfl
  | some wanted =>
    cases failed : (env.fails .setUserDisabled).isSome with
    | true => exact answers_at_once rfl (by simp [work, failed])
    | false =>
      cases wanted with
      | false => exact answers_at_once rfl (by simp [work, failed])
      | true =>
        apply alone_work rfl
        simp only [work, failed, Bool.false_eq_true, if_false, if_true, true_and]
        cases broken : env.fails .deleteUserSessions with
        | some err => exact answers_at_once rfl (by simp [work, broken])
        | none => exact answers_at_once rfl (by simp [work, broken])

theorem updating_answers {request : Request} (id : String) (req : UpdateUserRequest) :
    Answers env request user state (.updating id req) (updateRole env state id req) := by
  unfold updateRole
  cases wanted : req.role with
  | none =>
    apply alone_work rfl
    simp only [work, wanted]
    exact changing_answers id req.disabled
  | some role =>
    cases valid : role.valid with
    | false => exact answers_at_once rfl (by simp [work, wanted, valid])
    | true =>
      cases failed : (env.fails .setUserRole).isSome with
      | true => exact answers_at_once rfl (by simp [work, wanted, valid, failed])
      | false =>
        apply alone_work rfl
        simp only [work, wanted, valid, failed, Bool.not_true, Bool.false_eq_true, if_false]
        exact changing_answers id req.disabled

theorem counted_answers {request : Request} {body : Option Credentials} (off : env.authMode ≠ .off)
    (works : (env.fails .countUsers).isSome = false) :
    Answers env request user state (.counted state.config.users.length body) (bootstrap env state body) := by
  unfold bootstrap checkBootstrap
  simp only [off, works, if_false, Bool.false_eq_true]
  by_cases taken : 0 < state.config.users.length
  · exact answers_at_once rfl (by simp [work, taken])
  · cases body with
    | none => exact answers_at_once rfl (by simp [work, taken])
    | some req =>
      simp only [taken, if_false]
      cases made : storeUser env state req.username req.password .admin with
      | error response => exact answers_at_once rfl (by simp [work, taken, made])
      | ok created =>
        apply alone_work rfl
        simp only [work, taken, made, if_false]
        exact signingIn_answers req.username req.password

theorem started_answers (request : Request) :
    Answers env request user state .started (dispatch env state user request) := by
  unfold dispatch
  cases endpoint : request.endpoint with
  | bootstrap body =>
    by_cases off : env.authMode = .off
    · exact answers_at_once rfl (by simp [work, endpoint, off, bootstrap, checkBootstrap])
    · cases works : (env.fails .countUsers).isSome with
      | true => exact answers_at_once rfl (by simp [work, endpoint, off, works, bootstrap, checkBootstrap])
      | false =>
        apply alone_work rfl
        simp only [work, endpoint, off, works, Bool.false_eq_true, if_false]
        exact counted_answers off works
  | login body =>
    cases body with
    | none => exact answers_at_once rfl (by simp [work, endpoint, dispatch, login])
    | some req =>
      apply alone_work rfl
      simp only [work, endpoint]
      exact signingIn_answers req.username req.password
  | updateUser id body =>
    unfold updateUser requireAdmin
    cases admin : (currentUser user).role.atLeast .admin with
    | false => exact answers_at_once rfl (by simp [work, endpoint, admin])
    | true =>
      by_cases own : id = (currentUser user).id
      · exact answers_at_once rfl (by simp [work, endpoint, admin, own])
      · cases body with
        | none => exact answers_at_once rfl (by simp [work, endpoint, admin, own])
        | some req =>
          apply alone_work rfl
          simp only [work, endpoint, admin, own, Bool.not_true, Bool.false_eq_true, if_false, if_true]
          exact updating_answers id req
  | _ => exact answers_at_once rfl (by simp only [work, endpoint, dispatch])

/-- A request that is alone is answered as if it were served in one step. -/
theorem alone_handle (env : Env) (state : State) (request : Request) :
    Alone env request (state, .received) ((handle env state request).1, .done (handle env state request).2) := by
  have served : ∀ user, authenticate env state request = some user →
      Alone env request (state, .handling user .started) ((handle env state request).1, .done (handle env state request).2) := by
    intro user passes
    unfold handle
    simp only [passes]
    exact (started_answers request).tail rfl
  have refused : authenticate env state request = none →
      Alone env request (state, .done unauthenticated) ((handle env state request).1, .done (handle env state request).2) := by
    intro fails
    unfold handle
    simp only [fails]
    exact Relation.ReflTransGen.refl
  apply alone_step (show _ = some (state, receive env state request) from rfl)
  unfold receive
  unfold authenticate at served refused
  split
  next open' => exact served none (by simp [open'])
  next closed =>
    simp only [closed, Bool.false_eq_true, if_false] at served refused
    cases mode : env.authMode with
    | off => exact served none (by simp [mode])
    | oidc =>
      cases found : resolveOIDCUser env request with
      | none => exact refused (by simp [mode, found])
      | some user => exact served (some user) (by simp [mode, found])
    | «local» =>
      simp only [mode] at served refused ⊢
      unfold resolveSessionUser at served refused
      split
      next failed =>
        apply refused
        rw [if_pos (failed.imp_right Or.inl)]
        rfl
      next reads =>
        rw [not_or] at reads
        split
        next unknown => exact refused (by simp [unknown])
        next userID known =>
          apply alone_step (show _ = some (state, resolve env state userID) from rfl)
          unfold resolve
          split
          next broken => exact refused (by simp [broken])
          next looks =>
            split
            next absent => exact refused (by simp [known, absent])
            next found => exact served _ (by simp [reads, looks, known, found])

end K8Sense.Doctor.Api
