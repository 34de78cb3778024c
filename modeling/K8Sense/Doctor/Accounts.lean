import K8Sense.Doctor.Interleaving

/-! The accounts, under requests that are served at the same time: how many the
setup creates, and whether an admin is left. Both rest on what a request has read
earlier being true still when it writes. -/

namespace K8Sense.Doctor.Api
open Db Transition

/-- The account that a setup is about to create, if it has counted none. -/
def toBootstrap (thread : Thread) : Option Credentials :=
  match thread.phase with
  | .handling _ (.counted 0 body) => body
  | _ => none

/-- A setup that has counted no accounts finds none when it inserts its own. -/
def StillEmpty (system : System) : Act → Prop
  | .arrive _ _ => True
  | .advance place => ∀ thread ∈ system.threads[place]?, ∀ req ∈ toBootstrap thread,
      Accepts thread.env system.server.config.users req → system.server.config.users = []

instance (system : System) : ∀ act, Decidable (StillEmpty system act)
  | .arrive _ _ => isTrue trivial
  | .advance _ => inferInstanceAs (Decidable (∀ _ ∈ _, _))

/-- The setup creates at most one account, and none once there is one. -/
structure SetUpOnce (start : System) (acts : List Act) : Prop where
  once : ∀ before after last, acts = before ++ after → run perform start before = some last → last.bootstrapped.length ≤ 1
  closed : ∀ before act after middle next, acts = before ++ act :: after → run perform start before = some middle →
    perform middle act = some next → middle.server.config.users ≠ [] → next.bootstrapped = middle.bootstrapped

def EnabledAdmin (user : User) : Prop := user.role = .admin ∧ user.disabled = false

instance (user : User) : Decidable (EnabledAdmin user) := inferInstanceAs (Decidable (_ ∧ _))

def Administered (users : List Account) : Prop := ∃ account ∈ users, EnabledAdmin account.user

instance (users : List Account) : Decidable (Administered users) := inferInstanceAs (Decidable (∃ _ ∈ _, _))

/-- Whose account the next statement of a request demotes or disables, if it does,
and for whom. -/
def takesAdmin (thread : Thread) : Option (String × Option User) :=
  match thread.phase with
  | .handling user (.updating id ⟨some role, _⟩) =>
    if role.valid && role ≠ .admin && (thread.env.fails .setUserRole).isNone then some (id, user) else none
  | .handling user (.changing id (some true)) =>
    if (thread.env.fails .setUserDisabled).isNone then some (id, user) else none
  | _ => none

/-- Who demotes or disables an enabled admin is an enabled admin at that moment. -/
def StillAdmin (system : System) : Act → Prop
  | .arrive _ _ => True
  | .advance place => ∀ thread ∈ system.threads[place]?, ∀ taken ∈ takesAdmin thread,
      (∃ target ∈ system.server.config.users, target.user.id = taken.1 ∧ EnabledAdmin target.user) →
        ∃ account ∈ system.server.config.users, account.user.id = (currentUser taken.2).id ∧ EnabledAdmin account.user

instance (system : System) : ∀ act, Decidable (StillAdmin system act)
  | .arrive _ _ => isTrue trivial
  | .advance _ => inferInstanceAs (Decidable (∀ _ ∈ _, _))

variable {env : Env} {state : State} {system next : System}

theorem counted_work {request : Request} {user : Option User} {req : Credentials}
    (accepts : Accepts env state.config.users req) : ∃ account, EnabledAdmin account.user ∧
      (work env request user state (.counted 0 (some req))).1.config.users = state.config.users ++ [account] := by
  obtain ⟨hash, hashed⟩ := Option.isSome_iff_exists.mp accepts.hashed
  have made : storeUser env state req.username req.password .admin = .ok _ := storeUser_ok.mpr ⟨accepts, hash, hashed, rfl⟩
  refine ⟨⟨⟨env.newID 0, Text.trimSpace req.username, .admin, false, env.now⟩, hash⟩, ⟨rfl, rfl⟩, ?_⟩
  simp only [work, lt_irrefl, if_false, made]
  rfl

theorem issueSession_users (account : Account) : (openSession env state account).1.config.users = state.config.users := by
  unfold openSession
  split
  next => rfl
  next => split <;> rfl

/-- What a handler's next statement does to the accounts. -/
inductive Writes (env : Env) (users : List Account) (user : Option User) : Stage → List Account → Prop where
  | nothing (stage : Stage) : Writes env users user stage users
  | creates (account : Account) : Writes env users user .started (users ++ [account])
  | bootstraps (req : Credentials) (account : Account) (accepts : Accepts env users req) (admin : EnabledAdmin account.user) :
      Writes env users user (.counted 0 (some req)) (users ++ [account])
  | setsRole (id : String) (role : Role) (disabled : Option Bool) (valid : role.valid = true)
      (works : (env.fails .setUserRole).isNone = true) :
      Writes env users user (.updating id ⟨some role, disabled⟩) (setUserRole id role users)
  | setsDisabled (id : String) (disabled : Bool) (works : (env.fails .setUserDisabled).isNone = true) :
      Writes env users user (.changing id (some disabled)) (setUserDisabled id disabled users)

theorem started_writes {request : Request} {user : Option User} :
    Writes env state.config.users user .started (work env request user state .started).1.config.users := by
  have created : ∀ body, (createUser env state user body).1.config.users = state.config.users ∨
      ∃ account, (createUser env state user body).1.config.users = state.config.users ++ [account] := by
    intro body
    unfold createUser requireAdmin
    split
    next =>
      split
      next => exact Or.inl rfl
      next =>
        split
        next => exact Or.inl rfl
        next stored =>
          obtain ⟨_, hash, _, rfl⟩ := storeUser_ok.mp stored
          exact Or.inr ⟨_, rfl⟩
    next => exact Or.inl rfl
  have kept : ∀ {after}, after = state.config.users → Writes env state.config.users user .started after := by
    rintro _ rfl
    exact .nothing _
  cases endpoint : request.endpoint with
  | createUser body =>
    simp only [work, endpoint, dispatch]
    rcases created body with same | ⟨account, added⟩
    · exact kept same
    · rw [added]
      exact .creates account
  | bootstrap body =>
    apply kept
    simp only [work, endpoint]
    split
    next => rfl
    next => split <;> rfl
  | login body => cases body <;> exact kept (by simp [work, endpoint, dispatch, login])
  | logout =>
    apply kept
    simp only [work, endpoint, dispatch, logout]
    split <;> rfl
  | updateUser id body =>
    apply kept
    simp only [work, endpoint]
    split
    next => rfl
    next =>
      split
      next => rfl
      next => split <;> rfl
  | _ =>
    apply kept
    have apart : (dispatch env state user request).1.config.users = state.config.users ∧ _ :=
      dispatch_accounts (by rw [endpoint]; rfl)
    simpa only [work, endpoint] using apart.1

theorem work_writes {request : Request} {user : Option User} (stage : Stage) :
    Writes env state.config.users user stage (work env request user state stage).1.config.users := by
  have kept : ∀ {after}, after = state.config.users → Writes env state.config.users user stage after := by
    rintro _ rfl
    exact .nothing _
  cases stage with
  | started => exact started_writes
  | counted users body =>
    simp only [work]
    split
    next => exact kept rfl
    next empty =>
      cases Nat.eq_zero_of_not_pos empty
      split
      next => exact kept rfl
      next req =>
        split
        next => exact kept rfl
        next created stored =>
          obtain ⟨accepts, hash, _, rfl⟩ := storeUser_ok.mp stored
          exact .bootstraps req _ accepts ⟨rfl, rfl⟩
  | signingIn username password =>
    simp only [work]
    split <;> exact kept rfl
  | verified account => exact kept (issueSession_users account)
  | updating id req =>
    obtain ⟨role, disabled⟩ := req
    cases role with
    | none => exact kept rfl
    | some role =>
      simp only [work]
      split
      next => exact kept rfl
      next valid =>
        split
        next => exact kept rfl
        next works => exact .setsRole id role disabled (by simpa using valid) (by simpa using works)
  | changing id disabled =>
    simp only [work]
    split
    next => exact kept rfl
    next disabled =>
      split
      next => exact kept rfl
      next works => exact .setsDisabled id disabled (by simpa using works)
  | revoking id =>
    simp only [work]
    split <;> exact kept rfl
  | answered response => exact kept rfl

theorem perform_cases {act : Act} (taken : perform system act = some next) :
    (∃ env request, act = .arrive env request ∧ next = { system with threads := system.threads ++ [⟨env, request, .received⟩] }) ∨
      ∃ place thread server phase, act = .advance place ∧ system.threads[place]? = some thread ∧
        advance thread.env thread.request system.server thread.phase = some (server, phase) ∧
        next = ⟨server, system.threads.set place { thread with phase }, system.bootstrapped ++
          if thread.phase.bootstraps then server.config.users.drop system.server.config.users.length else []⟩ := by
  cases act with
  | arrive env request =>
    cases taken
    exact Or.inl ⟨env, request, rfl, rfl⟩
  | advance place =>
    simp only [perform] at taken
    split at taken
    next => cases taken
    next thread found =>
      split at taken
      next => cases taken
      next server phase moved =>
        cases taken
        exact Or.inr ⟨place, thread, server, phase, rfl, found, moved, rfl⟩

theorem advance_writes {request : Request} {phase after : Phase} {server : State}
    (moved : advance env request state phase = some (server, after)) : server.config.users = state.config.users ∨
      ∃ user stage, phase = .handling user stage ∧ Writes env state.config.users user stage server.config.users := by
  unfold advance at moved
  split at moved
  next => cases moved; exact Or.inl rfl
  next => cases moved; exact Or.inl rfl
  next user response =>
    cases moved
    refine Or.inl ?_
    unfold auditRequest
    split <;> rfl
  next user stage _ =>
    cases moved
    exact Or.inr ⟨user, stage, rfl, work_writes stage⟩
  next => cases moved

theorem perform_bootstrapped {act : Act} (taken : perform system act = some next) :
    next.bootstrapped = system.bootstrapped ∨
      ∃ place thread user req account, act = .advance place ∧ system.threads[place]? = some thread ∧
        thread.phase = .handling user (.counted 0 (some req)) ∧ Accepts thread.env system.server.config.users req ∧
        EnabledAdmin account.user ∧ next.bootstrapped = system.bootstrapped ++ [account] ∧
        next.server.config.users = system.server.config.users ++ [account] := by
  rcases perform_cases taken with ⟨env, request, rfl, rfl⟩ | ⟨place, thread, server, phase, rfl, found, moved, rfl⟩
  · exact Or.inl rfl
  · cases setup : thread.phase.bootstraps with
    | false => exact Or.inl (by simp)
    | true =>
      rcases advance_writes moved with same | ⟨user, stage, here, writes⟩
      · exact Or.inl (by simp [same])
      · rw [here] at setup
        generalize changed : server.config.users = users at writes
        cases writes with
        | nothing => exact Or.inl (by simp)
        | creates account => cases setup
        | bootstraps req account accepts admin =>
          exact Or.inr ⟨place, thread, user, req, account, rfl, found, here, accepts, admin, by simp, rfl⟩
        | setsRole => cases setup
        | setsDisabled => cases setup

theorem perform_users {act : Act} (taken : perform system act = some next) (some_users : system.server.config.users ≠ []) :
    next.server.config.users ≠ [] := by
  rcases perform_cases taken with ⟨env, request, rfl, rfl⟩ | ⟨place, thread, server, phase, rfl, found, moved, rfl⟩
  · exact some_users
  · rcases advance_writes moved with same | ⟨user, stage, here, writes⟩
    · rwa [← same] at some_users
    · show server.config.users ≠ []
      generalize server.config.users = users at writes
      cases writes with
      | nothing => exact some_users
      | creates account => simp
      | bootstraps req account accepts admin => simp
      | setsRole id role disabled valid works => simpa [setUserRole, updateUsers] using some_users
      | setsDisabled id disabled works => simpa [setUserDisabled, updateUsers] using some_users

theorem setup_inserts {place : Nat} {thread : Thread} {user : Option User} {req : Credentials}
    (found : system.threads[place]? = some thread) (here : thread.phase = .handling user (.counted 0 (some req)))
    (accepts : Accepts thread.env system.server.config.users req) :
    ∃ next account, perform system (.advance place) = some next ∧ next.bootstrapped = system.bootstrapped ++ [account] := by
  have written : ∃ account, EnabledAdmin account.user ∧ (work thread.env thread.request user system.server
    (.counted 0 (some req))).1.config.users = system.server.config.users ++ [account] := counted_work accepts
  obtain ⟨account, _, inserted⟩ := written
  cases taken : perform system (.advance place) with
  | none => simp [perform, found, here, advance] at taken
  | some next =>
    refine ⟨next, account, rfl, ?_⟩
    simp only [perform, found, here, advance, Option.some.injEq] at taken
    rw [← taken]
    simp [inserted, Phase.bootstraps]

theorem toBootstrap_eq_some {thread : Thread} {req : Credentials} (due : toBootstrap thread = some req) :
    ∃ user, thread.phase = .handling user (.counted 0 (some req)) := by
  unfold toBootstrap at due
  split at due
  next user body here => exact ⟨user, due ▸ here⟩
  next => cases due

/-- One setup, and then no more of its accounts. -/
structure SetUp (system : System) : Prop where
  once : system.bootstrapped.length ≤ 1
  there : system.bootstrapped ≠ [] → system.server.config.users ≠ []

/-- In every run the setup creates one account at most and none where there is one,
exactly when no setup inserts an account that has counted none before others came. -/
theorem bootstrap_once_iff (start : System) (acts : List Act) (idle : start.bootstrapped = []) :
    SetUpOnce start acts ↔ Meets perform StillEmpty start acts := by
  constructor
  · intro safe
    rw [meets_iff_prefixes]
    intro before act after middle split ran
    cases act with
    | arrive env request => trivial
    | advance place =>
      intro thread found req due accepts
      by_contra some_users
      obtain ⟨user, here⟩ := toBootstrap_eq_some due
      obtain ⟨next, account, taken, added⟩ := setup_inserts found here accepts
      have same := safe.closed before (.advance place) after middle next split ran taken some_users
      rw [added] at same
      simp at same
  · intro meets
    have closed : ∀ {system act next}, StillEmpty system act → perform system act = some next →
        system.server.config.users ≠ [] → next.bootstrapped = system.bootstrapped := by
      intro system act next allowed taken some_users
      rcases perform_bootstrapped taken with same | ⟨place, thread, user, req, account, rfl, found, here, accepts, _⟩
      · exact same
      · have due : toBootstrap thread = some req := by simp only [toBootstrap, here]
        exact absurd (allowed thread found req due accepts) some_users
    have kept : ∀ system act next, SetUp system → StillEmpty system act → perform system act = some next →
        SetUp next := by
      intro system act next settled allowed taken
      by_cases some_users : system.server.config.users = []
      · have fresh : system.bootstrapped = [] := by
          by_contra some_setup
          exact settled.there some_setup some_users
        rcases perform_bootstrapped taken with same | ⟨_, _, _, _, account, _, _, _, _, _, added, users⟩
        · exact ⟨by simp [same, fresh], fun more => absurd (same.trans fresh) more⟩
        · exact ⟨by simp [added, fresh], fun _ => by simp [users]⟩
      · have same := closed allowed taken some_users
        exact ⟨same ▸ settled.once, fun _ => perform_users taken some_users⟩
    constructor
    · intro before after last split ran
      rw [split] at meets
      exact (invariant SetUp kept ⟨by simp [idle], fun more => absurd idle more⟩ (meets_before meets) ran).once
    · intro before act after middle next split ran taken some_users
      exact closed ((meets_iff_prefixes start acts).mp meets before act after middle split ran) taken some_users

/-- `UpdateUser` has checked that the account is not the user's own. -/
def Phase.OfOthers : Phase → Prop
  | .handling user (.updating id _) => id ≠ (currentUser user).id
  | .handling user (.changing id _) => id ≠ (currentUser user).id
  | _ => True

theorem work_ofOthers {request : Request} {user : Option User} {stage : Stage}
    (others : (Phase.handling user stage).OfOthers) :
    (Phase.handling user (work env request user state stage).2).OfOthers := by
  cases stage with
  | started =>
    cases endpoint : request.endpoint with
    | bootstrap body =>
      simp only [work, endpoint]
      split
      next => trivial
      next => split <;> trivial
    | login body => cases body <;> simp only [work, endpoint, Phase.OfOthers]
    | updateUser id body =>
      simp only [work, endpoint]
      split
      next => trivial
      next =>
        split
        next => trivial
        next other =>
          split
          next => trivial
          next => exact other
    | _ => simp only [work, endpoint, Phase.OfOthers]
  | counted users body =>
    simp only [work]
    split
    next => trivial
    next =>
      split
      next => trivial
      next => split <;> trivial
  | signingIn username password =>
    simp only [work]
    split <;> trivial
  | updating id req =>
    simp only [work]
    split
    next => exact others
    next =>
      split
      next => trivial
      next =>
        split
        next => trivial
        next => exact others
  | changing id disabled =>
    simp only [work]
    split
    next => trivial
    next =>
      split
      next => trivial
      next => split <;> trivial
  | revoking id =>
    simp only [work]
    split <;> trivial
  | _ => trivial

theorem advance_ofOthers {request : Request} {phase after : Phase} {server : State} (others : phase.OfOthers)
    (moved : advance env request state phase = some (server, after)) : after.OfOthers := by
  unfold advance at moved
  split at moved
  next =>
    cases moved
    unfold receive
    split
    next => trivial
    next =>
      split
      next => trivial
      next => split <;> trivial
      next =>
        extract_lets token
        split
        next => trivial
        next => split <;> trivial
  next =>
    cases moved
    unfold resolve
    split
    next => trivial
    next => split <;> trivial
  next => cases moved; trivial
  next => cases moved; exact work_ofOthers others
  next => cases moved

theorem administered_update {id : String} {change : User → User} {users : List Account}
    (kept : ∃ account ∈ users, EnabledAdmin account.user ∧ (account.user.id = id → EnabledAdmin (change account.user))) :
    Administered (updateUsers id change users) := by
  obtain ⟨account, member, admin, remains⟩ := kept
  refine ⟨_, List.mem_map_of_mem member, ?_⟩
  by_cases named : account.user.id = id
  · simpa only [named, if_true] using remains named
  · simpa only [named, if_false] using admin

theorem administered_taken {id actor : String} {change : User → User} {users : List Account} (other : id ≠ actor)
    (administered : Administered users) (still : (∃ target ∈ users, target.user.id = id ∧ EnabledAdmin target.user) →
      ∃ account ∈ users, account.user.id = actor ∧ EnabledAdmin account.user) :
    Administered (updateUsers id change users) := by
  apply administered_update
  by_cases target : ∃ target ∈ users, target.user.id = id ∧ EnabledAdmin target.user
  · obtain ⟨account, member, own, admin⟩ := still target
    exact ⟨account, member, admin, fun named => absurd (named.symm.trans own) other⟩
  · obtain ⟨account, member, admin⟩ := administered
    exact ⟨account, member, admin, fun named => absurd ⟨account, member, named, admin⟩ target⟩

theorem administered_step {act : Act} (others : ∀ thread ∈ system.threads, thread.phase.OfOthers)
    (allowed : StillAdmin system act) (taken : perform system act = some next)
    (administered : Administered system.server.config.users) : Administered next.server.config.users := by
  rcases perform_cases taken with ⟨env, request, rfl, rfl⟩ | ⟨place, thread, server, phase, rfl, found, moved, rfl⟩
  · exact administered
  · rcases advance_writes moved with same | ⟨user, stage, here, writes⟩
    · rwa [← same] at administered
    · have apart := others thread (List.mem_of_getElem? found)
      rw [here] at apart
      have still : ∀ id, takesAdmin thread = some (id, user) → _ := fun id => allowed thread found (id, user)
      unfold takesAdmin at still
      rw [here] at still
      show Administered server.config.users
      generalize server.config.users = users at writes
      cases writes with
      | nothing => exact administered
      | creates account =>
        obtain ⟨admin, member, holds⟩ := administered
        exact ⟨admin, List.mem_append_left _ member, holds⟩
      | bootstraps req account accepts admin =>
        exact ⟨account, List.mem_append_right _ List.mem_cons_self, admin⟩
      | setsRole id role disabled valid works =>
        by_cases promoted : role = .admin
        · subst promoted
          obtain ⟨admin, member, holds⟩ := administered
          exact administered_update ⟨admin, member, holds, fun _ => ⟨rfl, holds.2⟩⟩
        · exact administered_taken apart administered (still id (by simp [valid, promoted, works]))
      | setsDisabled id disabled works =>
        cases disabled with
        | false =>
          obtain ⟨admin, member, holds⟩ := administered
          exact administered_update ⟨admin, member, holds, fun _ => ⟨holds.1, rfl⟩⟩
        | true => exact administered_taken apart administered (still id (by simp [works]))

theorem ofOthers_step {act : Act} (others : ∀ thread ∈ system.threads, thread.phase.OfOthers)
    (taken : perform system act = some next) : ∀ thread ∈ next.threads, thread.phase.OfOthers := by
  rcases perform_cases taken with ⟨env, request, rfl, rfl⟩ | ⟨place, thread, server, phase, rfl, found, moved, rfl⟩
  · intro thread member
    rcases List.mem_append.mp member with old | new
    · exact others thread old
    · cases List.mem_singleton.mp new
      trivial
  · intro other member
    rcases List.mem_or_eq_of_mem_set member with old | rfl
    · exact others other old
    · exact advance_ofOthers (others thread (List.mem_of_getElem? found)) moved

/-- After the setup, or on a server with an admin, there is an enabled admin in
every state that is reached by requests whose users, where they demote or disable
an admin, are themselves still admins. -/
theorem admin_remains (start last : System) (acts : List Act) (idle : start.threads = [] ∧ start.bootstrapped = [])
    (meets : Meets perform StillAdmin start acts) (ran : run perform start acts = some last)
    (setUp : Administered start.server.config.users ∨ last.bootstrapped ≠ []) : Administered last.server.config.users := by
  have kept : (∀ thread ∈ last.threads, thread.phase.OfOthers) ∧
      (Administered start.server.config.users ∨ last.bootstrapped ≠ [] → Administered last.server.config.users) := by
    apply invariant (fun system => (∀ thread ∈ system.threads, thread.phase.OfOthers) ∧
      (Administered start.server.config.users ∨ system.bootstrapped ≠ [] → Administered system.server.config.users))
      ?_ ?_ meets ran
    · rintro system act next ⟨others, administered⟩ allowed taken
      refine ⟨ofOthers_step others taken, fun setUp => ?_⟩
      rcases perform_bootstrapped taken with same | ⟨_, _, _, _, account, _, _, _, _, admin, _, users⟩
      · exact administered_step others allowed taken (administered (same ▸ setUp))
      · rw [users]
        exact ⟨account, List.mem_append_right _ List.mem_cons_self, admin⟩
    · refine ⟨by simp [idle.1], ?_⟩
      rintro (administered | some_setup)
      · exact administered
      · exact absurd idle.2 some_setup
  exact kept.2 setUp

/-- A request comes and takes so many steps. -/
private def arriving (env : Env) (place : Nat) (endpoint : Endpoint) (session : String) (steps : Nat) : List Act :=
  .arrive env ⟨endpoint, "", "", session, none, ""⟩ :: List.replicate steps (.advance place)

private def unused : System := ⟨State.empty, [], []⟩

private def setup (place : Nat) (name : String) : List Act :=
  arriving (Env.calm 1 name (some name)) place (.bootstrap (some ⟨name, "password"⟩)) "" 6

theorem second_setup_refused : SetUpOnce unused (setup 0 "root" ++ setup 1 "eve") :=
  (bootstrap_once_iff unused _ rfl).mpr (by decide)

/-- Two setups that count before either inserts both create their account. -/
theorem two_setups_race : ¬ ∀ (start : System) (acts : List Act), start.bootstrapped = [] → SetUpOnce start acts := by
  intro safe
  have once := (safe unused ((setup 0 "root").take 3 ++ (setup 1 "eve").take 4 ++ [Act.advance 0]) rfl).once _ [] _
    (List.append_nil _).symm rfl
  exact absurd once (by decide)

private def twoAdmins : List Act :=
  setup 0 "root" ++ arriving (Env.calm 2 "eve" none) 1 (.createUser (some ⟨"eve", "password", .admin⟩)) "root" 4 ++
    arriving (Env.calm 3 "" (some "eve")) 2 (.login (some ⟨"eve", "password"⟩)) "" 5

private def demote (place : Nat) (user other : String) : List Act :=
  arriving (Env.calm 4 "" none) place (.updateUser (other ++ "0") (some ⟨some .viewer, none⟩)) user 6

theorem one_admin_demotes_other : ∃ last, run perform unused (twoAdmins ++ demote 3 "root" "eve") = some last ∧
    Administered last.server.config.users :=
  ⟨_, rfl, admin_remains unused _ (twoAdmins ++ demote 3 "root" "eve") ⟨rfl, rfl⟩ (by decide) rfl
    (Or.inr (by decide))⟩

/-- Two admins who demote each other at the same time. -/
theorem admins_lock_out : ¬ ∀ (start last : System) (acts : List Act), start.threads = [] ∧ start.bootstrapped = [] →
    run perform start acts = some last → Administered start.server.config.users ∨ last.bootstrapped ≠ [] →
      Administered last.server.config.users := by
  intro safe
  have left := safe unused _ (twoAdmins ++ (demote 3 "root" "eve").take 4 ++ (demote 4 "eve" "root").take 5 ++ [Act.advance 3])
    ⟨rfl, rfl⟩ rfl (Or.inr (by decide))
  exact absurd left (by decide)

end K8Sense.Doctor.Api
