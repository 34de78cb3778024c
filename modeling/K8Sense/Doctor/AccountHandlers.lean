import K8Sense.Doctor.Handlers

/-! What the handlers of accounts and sessions leave behind. -/

namespace K8Sense.Doctor.Api
open Db

variable {env : Env} {state : State} {user : Option User}

/-- What `createUser` checks, the insertion included. -/
structure Accepts (env : Env) (users : List Account) (req : Credentials) : Prop where
  named : Text.trimSpace req.username ≠ ""
  long : minPasswordLen ≤ req.password.utf8ByteSize
  hashed : (env.hashPassword req.password).isSome = true
  works : (env.fails .createUser).isSome = false
  free : ∀ other ∈ users, other.user.username ≠ Text.trimSpace req.username ∧ other.user.id ≠ env.newID 0

instance (env : Env) (users : List Account) (req : Credentials) : Decidable (Accepts env users req) :=
  decidable_of_iff (Text.trimSpace req.username ≠ "" ∧ minPasswordLen ≤ req.password.utf8ByteSize ∧
      (env.hashPassword req.password).isSome = true ∧ (env.fails .createUser).isSome = false ∧
        ∀ other ∈ users, other.user.username ≠ Text.trimSpace req.username ∧ other.user.id ≠ env.newID 0)
    ⟨fun ⟨named, long, hashed, works, free⟩ => ⟨named, long, hashed, works, free⟩,
      fun ⟨named, long, hashed, works, free⟩ => ⟨named, long, hashed, works, free⟩⟩

theorem storeUser_ok {username password : String} {role : Role} {created : State} :
    storeUser env state username password role = .ok created ↔ Accepts env state.config.users ⟨username, password⟩ ∧
      ∃ hash, env.hashPassword password = some hash ∧ created = state.setUsers (state.config.users ++
        [⟨⟨env.newID 0, Text.trimSpace username, role, false, env.now⟩, hash⟩]) := by
  unfold storeUser
  constructor
  · intro made
    split at made
    next => cases made
    next named =>
      split at made
      next => cases made
      next long =>
        split at made
        next => cases made
        next hash hashed =>
          split at made
          next => cases made
          next works =>
            split at made
            next => cases made
            next users inserted =>
              cases made
              unfold Db.createUser at inserted
              split at inserted
              next => cases inserted
              next free =>
                cases inserted
                simp only [List.any_eq_true, Bool.or_eq_true, decide_eq_true_eq, not_exists, not_and, not_or] at free
                exact ⟨⟨named, Nat.le_of_not_lt long, by simp [hashed], by simp [works], free⟩, hash, hashed, rfl⟩
  · rintro ⟨⟨named, long, _, works, free⟩, hash, hashed, rfl⟩
    have inserted : ¬ (state.config.users.any fun other => decide (other.user.username = Text.trimSpace username) ||
        decide (other.user.id = env.newID 0)) = true := by
      simp only [List.any_eq_true, Bool.or_eq_true, decide_eq_true_eq, not_exists, not_and, not_or]
      exact free
    have silent : env.fails .createUser = none := by simpa using works
    simp only [named, Nat.not_lt_of_le long, if_false, hashed, silent, Db.createUser, if_neg inserted]
    rfl

theorem storeUser_rejected {username password : String} {role : Role} {response : Response}
    (failed : storeUser env state username password role = .error response) :
    ¬ Accepts env state.config.users ⟨username, password⟩ := by
  intro accepts
  obtain ⟨hash, hashed⟩ := Option.isSome_iff_exists.mp accepts.hashed
  have made : storeUser env state username password role = .ok _ := storeUser_ok.mpr ⟨accepts, hash, hashed, rfl⟩
  cases failed.symm.trans made

theorem storeUser_failed {username password : String} {role : Role} {response : Response}
    (failed : storeUser env state username password role = .error response) : response.status ≠ 200 := by
  unfold storeUser at failed
  split at failed
  next => cases failed; simp [authError]
  next =>
    split at failed
    next => cases failed; simp [authError]
    next =>
      split at failed
      next => cases failed; simp [authError]
      next =>
        split at failed
        next => cases failed; simp [authError]
        next =>
          split at failed
          next => cases failed; simp [authError]
          next => cases failed

theorem issueSession_cases (username password : String) :
    ((issueSession env state username password).1 = state ∧ (issueSession env state username password).2.status ≠ 200) ∨
      ∃ account token next, getUserAuth (Text.trimSpace username) state.config.users = some account ∧
        env.newSessionToken = some token ∧
        createSession ⟨token, account.user.id, env.now, env.now + sessionTTL⟩ state.sessions = some next ∧
        (issueSession env state username password).1 = { state with sessions := next } ∧
        (issueSession env state username password).2.status = 200 := by
  unfold issueSession
  split
  next => exact Or.inl ⟨rfl, by simp⟩
  next =>
    split
    next => exact Or.inl ⟨rfl, by simp⟩
    next account found =>
      split
      next => exact Or.inl ⟨rfl, by simp⟩
      next =>
        split
        next => exact Or.inl ⟨rfl, by simp⟩
        next token minted =>
          split
          next sessions _ made => exact Or.inr ⟨account, token, sessions, found, minted, made, rfl, rfl⟩
          next => exact Or.inl ⟨rfl, by simp⟩

theorem issueSession_state (env : Env) (state : State) (username password : String) : ∃ sessions,
    (issueSession env state username password).1 = { state with sessions } := by
  obtain ⟨same, _⟩ | ⟨_, _, sessions, _, _, _, added, _⟩ := issueSession_cases username password
  · exact ⟨state.sessions, same⟩
  · exact ⟨sessions, added⟩

theorem bootstrap_state (env : Env) (state : State) (body : Option Credentials) : ∃ accounts sessions,
    (bootstrap env state body).1 = { state.setUsers (state.config.users ++ accounts) with sessions } ∧
      ∀ account ∈ accounts, account.user.username ≠ "" := by
  have nothing : state = { state.setUsers (state.config.users ++ []) with sessions := state.sessions } := by
    simp [State.setUsers]
  unfold bootstrap
  split
  next => exact ⟨[], state.sessions, nothing, nofun⟩
  next req _ =>
    split
    next => exact ⟨[], state.sessions, nothing, nofun⟩
    next created made =>
      obtain ⟨accepts, hash, _, rfl⟩ := storeUser_ok.mp made
      obtain ⟨sessions, signedIn⟩ := issueSession_state env _ req.username req.password
      exact ⟨_, sessions, signedIn, List.forall_mem_singleton.mpr accepts.named⟩

theorem createUser_state (env : Env) (state : State) (user : Option User) (body : Option CreateUserRequest) : ∃ accounts,
    (createUser env state user body).1 = state.setUsers (state.config.users ++ accounts) ∧
      ∀ account ∈ accounts, account.user.username ≠ "" := by
  have nothing : state = state.setUsers (state.config.users ++ []) := by simp [State.setUsers]
  unfold createUser requireAdmin
  split
  next =>
    split
    next => exact ⟨[], nothing, nofun⟩
    next =>
      split
      next => exact ⟨[], nothing, nofun⟩
      next made =>
        obtain ⟨accepts, hash, _, rfl⟩ := storeUser_ok.mp made
        exact ⟨_, rfl, List.forall_mem_singleton.mpr accepts.named⟩
  next => exact ⟨[], nothing, nofun⟩

def disabledUsers (env : Env) (id : String) (disabled : Option Bool) (users : List Account) : List Account :=
  match disabled, env.fails .setUserDisabled with
  | some disabled, none => setUserDisabled id disabled users
  | _, _ => users

theorem updateDisabled_users (env : Env) (state : State) (id : String) (disabled : Option Bool) : ∃ sessions,
    (updateDisabled env state id disabled).1 =
      { state.setUsers (disabledUsers env id disabled state.config.users) with sessions } := by
  unfold updateDisabled disabledUsers
  cases disabled with
  | none => exact ⟨state.sessions, rfl⟩
  | some disabled =>
    cases env.fails .setUserDisabled with
    | some err => exact ⟨state.sessions, rfl⟩
    | none =>
      simp only [Option.isSome_none, Bool.false_eq_true, if_false]
      split
      next => exact ⟨_, rfl⟩
      next => exact ⟨state.sessions, rfl⟩

theorem updateUser_state (env : Env) (state : State) (user : Option User) (id : String) (body : Option UpdateUserRequest) :
    ∃ (role : Option Role) (disabled : Option Bool) (sessions : List Session), (updateUser env state user id body).1 =
      { state.setUsers (disabledUsers env id disabled (role.elim state.config.users (setUserRole id · state.config.users)))
        with sessions } := by
  unfold updateUser requireAdmin
  split
  next =>
    split
    next => exact ⟨none, none, state.sessions, rfl⟩
    next =>
      split
      next => exact ⟨none, none, state.sessions, rfl⟩
      next req =>
        unfold updateRole
        split
        next =>
          obtain ⟨sessions, updated⟩ := updateDisabled_users env state id req.disabled
          exact ⟨none, req.disabled, sessions, updated⟩
        next role _ =>
          split
          next => exact ⟨none, none, state.sessions, rfl⟩
          next =>
            split
            next => exact ⟨none, none, state.sessions, rfl⟩
            next =>
              obtain ⟨sessions, updated⟩ :=
                updateDisabled_users env (state.setUsers (setUserRole id role state.config.users)) id req.disabled
              exact ⟨some role, req.disabled, sessions, updated⟩
  next => exact ⟨none, none, state.sessions, rfl⟩

end K8Sense.Doctor.Api
