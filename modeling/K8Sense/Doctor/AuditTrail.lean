import K8Sense.Library.Transition
import K8Sense.Doctor.Accounts
import K8Sense.Doctor.Revert

/-! Which requests leave an entry in the audit log. The middleware judges by the
method and the path, wherever the router is mounted, and the handlers of guided
fixes write entries of their own. -/

namespace K8Sense.Doctor.Api
open Db Transition

inductive Reading where
  | authStatus
  | me
  | users
  | scanStatus (id : String)
  | findings (scanID : String)
  | exportReport (scanID : String)
  | scanDiff (scanID prevID : String)
  | history
  | rules
  | customRules
  | networkMap
  | timeline
  | cost
  | upgrade
  | compliance
  | complianceHistory
  | aiStatus
  | aiConfig
  | catalog
  | runbooks
  | runbooksStatus
  | runbookLogs (runID : String)
  | vulnScanConfig
  | vulnScanStatus (runID : String)
  | registry
  | auditLog
  | notifyConfig
  | branding
  | role
  | exportAuditLog
  | testConnection
  | storage
  | licence

def Reading.route : Reading → String
  | .authStatus => "auth/status"
  | .me => "auth/me"
  | .users => "users"
  | .scanStatus id => "scan/" ++ id ++ "/status"
  | .findings scanID => "findings/" ++ scanID
  | .exportReport scanID => "findings/" ++ scanID ++ "/export"
  | .scanDiff scanID prevID => "findings/" ++ scanID ++ "/diff/" ++ prevID
  | .history => "history"
  | .rules => "rules"
  | .customRules => "rules/custom"
  | .networkMap => "network-map"
  | .timeline => "timeline"
  | .cost => "cost"
  | .upgrade => "upgrade"
  | .compliance => "compliance"
  | .complianceHistory => "compliance/history"
  | .aiStatus => "ai/status"
  | .aiConfig => "ai/config"
  | .catalog => "catalog"
  | .runbooks => "runbooks"
  | .runbooksStatus => "runbooks/status"
  | .runbookLogs runID => "runbooks/run/" ++ runID ++ "/logs"
  | .vulnScanConfig => "vulnscan/config"
  | .vulnScanStatus runID => "vulnscan/" ++ runID
  | .registry => "registry"
  | .auditLog => "audit-log"
  | .notifyConfig => "notifications"
  | .branding => "branding"
  | .role => "role"
  | .exportAuditLog => "audit-log/export"
  | .testConnection => "clusters/test"
  | .storage => "storage"
  | .licence => "licence"

def Reading.exports : Reading → Bool
  | .exportReport _ | .exportAuditLog => true
  | _ => false

/-- What a request is for. The router has other routes, and a catch-all, beside
those below `/cluster-doctor/`. -/
inductive Target where
  | change (endpoint : Endpoint)
  | read (reading : Reading)
  | elsewhere (method path : String)

/-- A request changes state if its route has a mutating method. -/
def Target.due : Target → Bool
  | .change _ => true
  | .read reading => reading.exports
  | .elsewhere _ _ => false

structure Visit where
  target : Target
  cluster : String
  bodyCluster : String
  session : String
  claims : Option Claims
  actor : String

def Visit.request (visit : Visit) (endpoint : Endpoint) : Request :=
  ⟨endpoint, visit.cluster, visit.bodyCluster, visit.session, visit.claims, visit.actor⟩

/-- What names the user of a request is in its headers only. -/
def Visit.headers (visit : Visit) : Request := visit.request .logout

def Visit.method (visit : Visit) : String :=
  match visit.target with
  | .change endpoint => endpoint.route.1
  | .read _ => "GET"
  | .elsewhere method _ => method

/-- The path of a request to a server with a base URL. -/
def Visit.path (base : String) (visit : Visit) : String :=
  match visit.target with
  | .change endpoint => base ++ endpoint.path
  | .read reading => base ++ ("/cluster-doctor/" ++ reading.route)
  | .elsewhere _ path => path

def isAuthPublicPath (path : String) : Bool :=
  path = "/cluster-doctor/auth/status" || path = "/cluster-doctor/auth/login" || path = "/cluster-doctor/auth/bootstrap"

/-- The checks on the path that `shouldAudit` begins with. -/
def watched (path : String) : Bool :=
  "/cluster-doctor/".toList.isPrefixOf path.toList && !Text.contains path.toList "/guided-fix".toList

def shouldAuditPath (method path : String) : Bool :=
  watched path && (method = "POST" || method = "PUT" || method = "DELETE" || method = "PATCH" ||
    method = "GET" && "/export".toList.isSuffixOf path.toList)

def visitEntry (env : Env) (base : String) (user : Option User) (visit : Visit) (status : Nat) : AuditEntry :=
  { platformEntry env user visit.headers status with
    action := visit.method ++ " /" ++ Text.trimPrefix "/cluster-doctor/" (visit.path base) }

/-- `auditMiddleware`, for every route. -/
def auditVisit (env : Env) (base : String) (user : Option User) (visit : Visit) (state : State) (response : Response) : State :=
  if shouldAuditPath visit.method (visit.path base) && (env.fails .writeAudit).isNone then
    { state with audit := state.audit ++ [visitEntry env base user visit response.status] }
  else state

/-- `authMiddleware`, for every route. -/
def authenticateVisit (env : Env) (base : String) (state : State) (visit : Visit) : Option (Option User) :=
  if isAuthPublicPath (visit.path base) then some none
  else match env.authMode with
  | .off => some none
  | .local => (resolveSessionUser env state visit.headers).map some
  | .oidc => (resolveOIDCUser env visit.headers).map some

section
variable (answers : State → Option User → Target → Response) (base : String)

/-- The handler of the route. Those that only read are a parameter. -/
def answer (env : Env) (state : State) (user : Option User) (visit : Visit) : State × Response :=
  match visit.target with
  | .change endpoint => dispatch env state user (visit.request endpoint)
  | other => (state, answers state user other)

def serve (env : Env) (state : State) (visit : Visit) : State × Response :=
  match authenticateVisit env base state visit with
  | none => (state, unauthenticated)
  | some user =>
    let result := answer answers env state user visit
    (auditVisit env base user visit result.1 result.2, result.2)

def serveStep (state : State) (event : Env × Visit) : Option State := some (serve answers base event.1 state event.2).1

end

/-- Who asks: the user of the request, or who it says that it is. -/
def requester (user : Option User) (visit : Visit) : String :=
  match user with
  | some user => user.username
  | none =>
    let claimed := (visit.claims.map oidcUsername).getD ""
    if claimed ≠ "" then claimed
    else if Text.trimSpace visit.actor ≠ "" then Text.trimSpace visit.actor
    else "unknown"

/-- The log without the marks of reverted entries. -/
def unmarked (audit : List AuditEntry) : List AuditEntry := audit.map fun entry => { entry with revertedAt := none }

/-- One entry is added, with who asked and what came of it. -/
def AddsOne (user : Option User) (visit : Visit) (before : State) (after : State × Response) : Prop :=
  ∃ entry, unmarked after.1.audit = unmarked before.audit ++ [entry] ∧ entry.actor = requester user visit ∧
    (entry.result = .failed ↔ 400 ≤ after.2.status)

def AddsNone (before : State) (after : State × Response) : Prop := unmarked after.1.audit = unmarked before.audit

/-- What is due leaves one entry and everything else none. -/
def AuditComplete (answers : State → Option User → Target → Response) (base : String) (env : Env) (state : State)
    (visit : Visit) : Prop :=
  match authenticateVisit env base state visit with
  | none => AddsNone state (serve answers base env state visit)
  | some user => if visit.target.due then AddsOne user visit state (serve answers base env state visit)
      else AddsNone state (serve answers base env state visit)

/-- A guided fix that passes the checks before it is carried out. -/
structure FixPasses (env : FixEnv) (state : FixState) (body : Option GuidedFixRequest) : Prop where
  admitted : gate env .operator = none
  requested : ∃ req, body = some req ∧ req.confirmed = true ∧ allowedGuidedFixActions req.action = true ∧
    (state.clusters req.cluster).isSome = true

/-- A revert that passes them. -/
def RevertPasses (env : FixEnv) (state : FixState) (body : Option RevertRequest) : Prop :=
  ∃ passed, checkRevert env state body = .ok passed

/-- When the log gets the entry that is due: it can be written, the middleware does
not pass over the path, and a guided fix or its revert gets through its checks. A
request that no entry is due for is passed over. -/
def Watches (base : String) (env : Env) (state : State) (user : Option User) (visit : Visit) : Prop :=
  match visit.target with
  | .change (.guidedFix body) => env.fails .writeAudit = none ∧
      FixPasses (fixEnv env state user (visit.request (.guidedFix body))) state.fixState body
  | .change (.revertGuidedFix body) => env.fails .writeAudit = none ∧
      RevertPasses (fixEnv env state user (visit.request (.revertGuidedFix body))) state.fixState body
  | .change _ => env.fails .writeAudit = none ∧ watched (visit.path base) = true
  | .read reading =>
      if reading.exports then env.fails .writeAudit = none ∧ watched (visit.path base) = true
      else ¬ (env.fails .writeAudit = none ∧ shouldAuditPath "GET" (visit.path base) = true)
  | .elsewhere method path => ¬ (env.fails .writeAudit = none ∧ shouldAuditPath method path = true)

variable {answers : State → Option User → Target → Response} {base : String} {env : Env} {state : State} {user : Option User}
  {visit : Visit}

theorem shouldAudit_change (endpoint : Endpoint) (path : String) :
    shouldAuditPath endpoint.route.1 path = watched path := by
  have changes : endpoint.route.1 = "POST" ∨ endpoint.route.1 = "PUT" ∨ endpoint.route.1 = "DELETE" := by
    cases endpoint with
    | updateUser | toggleRule | setRuleSeverity | setAIConfig | setRunbooksConfig | setVulnScanConfig | setRegistry
    | commentFinding | setNotifyConfig | setBranding | setRole => exact .inr (.inl rfl)
    | deleteCustomRule => exact .inr (.inr rfl)
    | _ => exact .inl rfl
  obtain method | method | method := changes <;> simp [shouldAuditPath, method]

theorem shouldAudit_export {reading : Reading} (exports : reading.exports = true) :
    shouldAuditPath "GET" (base ++ ("/cluster-doctor/" ++ reading.route)) =
      watched (base ++ ("/cluster-doctor/" ++ reading.route)) := by
  have ends : ∀ {start text : String}, text = start ++ "/export" → "/export".toList.isSuffixOf text.toList = true := by
    rintro start text rfl
    simp
  have route : ∃ start, base ++ ("/cluster-doctor/" ++ reading.route) = start ++ "/export" := by
    cases reading with
    | exportReport scanID =>
      refine ⟨base ++ ("/cluster-doctor/" ++ ("findings/" ++ scanID)), ?_⟩
      rw [String.append_assoc, String.append_assoc]
      rfl
    | exportAuditLog =>
      refine ⟨base ++ ("/cluster-doctor/" ++ "audit-log"), ?_⟩
      rw [String.append_assoc, String.append_assoc]
      rfl
    | _ => cases exports
  obtain ⟨start, same⟩ := route
  rw [shouldAuditPath, ends same]
  simp

theorem contains_guidedFix (start rest : String) :
    watched (start ++ ("/cluster-doctor/guided-fix" ++ rest)) = false := by
  have found := Text.contains_between (start ++ "/cluster-doctor").toList "/guided-fix".toList rest.toList
  have whole : (start ++ ("/cluster-doctor/guided-fix" ++ rest)).toList =
      (start ++ "/cluster-doctor").toList ++ "/guided-fix".toList ++ rest.toList := by
    simp
  rw [watched, whole, found, Bool.not_true, Bool.and_false]

theorem fixes_unwatched {endpoint : Endpoint} (fixes : endpoint.fixes = true) (base : String) :
    watched (base ++ endpoint.path) = false := by
  cases endpoint with
  | guidedFix body =>
    have path : "/cluster-doctor/" ++ "guided-fix" = "/cluster-doctor/guided-fix" ++ "" := by decide
    show watched (base ++ ("/cluster-doctor/" ++ "guided-fix")) = false
    rw [path]
    exact contains_guidedFix base ""
  | revertGuidedFix body =>
    have path : "/cluster-doctor/" ++ "guided-fix/revert" = "/cluster-doctor/guided-fix" ++ "/revert" := by decide
    show watched (base ++ ("/cluster-doctor/" ++ "guided-fix/revert")) = false
    rw [path]
    exact contains_guidedFix base "/revert"
  | _ => cases fixes

def Named (users : List Account) : Prop := ∀ account ∈ users, account.user.username ≠ ""

theorem named_added {users added : List Account} (named : Named users)
    (new : ∀ account ∈ added, account.user.username ≠ "") : Named (users ++ added) := by
  intro account member
  rcases List.mem_append.mp member with old | fresh
  · exact named account old
  · exact new account fresh

theorem named_updated {id : String} {change : User → User} {users : List Account} (named : Named users)
    (kept : ∀ user, (change user).username = user.username) : Named (updateUsers id change users) := by
  intro account member
  obtain ⟨old, inside, rfl⟩ := List.mem_map.mp member
  split
  next => exact (kept old.user).symm ▸ named old inside
  next => exact named old inside

theorem bootstrap_named {body : Option Credentials} (named : Named state.config.users) :
    Named (bootstrap env state body).1.config.users := by
  obtain ⟨accounts, sessions, same, new⟩ := bootstrap_state env state body
  rw [same]
  exact named_added named new

theorem createUser_named {body : Option CreateUserRequest} (named : Named state.config.users) :
    Named (createUser env state user body).1.config.users := by
  obtain ⟨accounts, same, new⟩ := createUser_state env state user body
  rw [same]
  exact named_added named new

theorem disabledUsers_named {id : String} {disabled : Option Bool} {users : List Account} (named : Named users) :
    Named (disabledUsers env id disabled users) := by
  unfold disabledUsers
  split
  next => exact named_updated named fun _ => rfl
  next => exact named

theorem updateUser_named {id : String} {body : Option UpdateUserRequest} (named : Named state.config.users) :
    Named (updateUser env state user id body).1.config.users := by
  obtain ⟨role, disabled, sessions, same⟩ := updateUser_state env state user id body
  rw [same]
  apply disabledUsers_named
  cases role with
  | none => exact named
  | some role =>
    have updated : Named (setUserRole id role state.config.users) := named_updated named fun _ => rfl
    exact updated

theorem dispatch_named {request : Request} (named : Named state.config.users) :
    Named (dispatch env state user request).1.config.users := by
  cases accounts : request.endpoint.accounts with
  | false =>
    have kept : (dispatch env state user request).1.config.users = state.config.users ∧ _ := dispatch_accounts accounts
    rwa [kept.1]
  | true =>
    unfold dispatch
    cases endpoint : request.endpoint with
    | bootstrap body => exact bootstrap_named named
    | login body =>
      cases body with
      | none => exact named
      | some req =>
        show Named (issueSession env state req.username req.password).1.config.users
        obtain ⟨sessions, same⟩ := issueSession_state env state req.username req.password
        rwa [same]
    | logout =>
      simp only [logout]
      split <;> exact named
    | createUser body => exact createUser_named named
    | updateUser id body => exact updateUser_named named
    | _ => simp [endpoint, Endpoint.accounts] at accounts

theorem auditVisit_config {after : State} {response : Response} :
    (auditVisit env base user visit after response).config = after.config := by
  unfold auditVisit
  split <;> rfl

theorem named_serve (named : Named state.config.users) : Named (serve answers base env state visit).1.config.users := by
  unfold serve
  split
  next => exact named
  next user _ =>
    rw [auditVisit_config]
    unfold answer
    split
    next => exact dispatch_named named
    next => exact named

theorem sessionUser_named {request : Request} {known : User} (named : Named state.config.users)
    (resolved : resolveSessionUser env state request = some known) : known.username ≠ "" := by
  unfold resolveSessionUser at resolved
  extract_lets token at resolved
  split at resolved
  next => cases resolved
  next =>
    split at resolved
    next => cases resolved
    next =>
      obtain ⟨looked, _⟩ := Option.filter_eq_some_iff.mp resolved
      obtain ⟨account, first, rfl⟩ := Option.map_eq_some_iff.mp looked
      exact named account (List.mem_of_find?_eq_some first)

theorem oidcUser_named {request : Request} {known : User} (resolved : resolveOIDCUser env request = some known) :
    known.username ≠ "" := by
  unfold resolveOIDCUser at resolved
  split at resolved
  next => cases resolved
  next claims _ =>
    split at resolved
    next => cases resolved
    next =>
      split at resolved
      next => cases resolved
      next called =>
        have same : known.username = oidcUsername claims := by rw [← Option.some.inj resolved]
        rw [same]
        exact called

theorem admitted_named {known : User} (named : Named state.config.users)
    (passes : authenticateVisit env base state visit = some (some known)) : known.username ≠ "" := by
  unfold authenticateVisit at passes
  split at passes
  next => cases passes
  next =>
    split at passes
    next => cases passes
    next =>
      obtain ⟨found, resolved, same⟩ := Option.map_eq_some_iff.mp passes
      cases same
      exact sessionUser_named named resolved
    next =>
      obtain ⟨found, resolved, same⟩ := Option.map_eq_some_iff.mp passes
      cases same
      exact oidcUser_named resolved

theorem actor_requester (known : ∀ found, user = some found → found.username ≠ "") (endpoint : Endpoint) :
    actorFromRequest user (visit.request endpoint) = requester user visit := by
  cases user with
  | some found => simp [actorFromRequest, requester, known found rfl]
  | none =>
    unfold actorFromRequest requester
    by_cases claimed : (visit.claims.map oidcUsername).getD "" = ""
    · by_cases named : Text.trimSpace visit.actor = "" <;> simp [Visit.request, claimed, named]
    · simp [Visit.request, claimed]

theorem not_addsOne {before : State} {after : State × Response} (same : unmarked after.1.audit = unmarked before.audit) :
    ¬ AddsOne user visit before after := by
  rintro ⟨entry, added, _⟩
  have lengths := congrArg List.length (same.symm.trans added)
  simp at lengths

theorem unmarked_append (audit : List AuditEntry) (entry : AuditEntry) :
    unmarked (audit ++ [entry]) = unmarked audit ++ [{ entry with revertedAt := none }] := by
  simp [unmarked]

theorem unmarked_markReverted {fixEnv : FixEnv} {id : String} {fixed : FixState} :
    unmarked (markReverted fixEnv id fixed).audit = unmarked fixed.audit := by
  unfold markReverted
  split
  next =>
    simp only [unmarked, List.map_map]
    apply List.map_congr_left
    intro entry _
    by_cases named : entry.id = id <;> simp [named]
  next => rfl

/-- What a handler of guided fixes writes. -/
structure Logs (fixEnv : FixEnv) (before : FixState) (after : FixState × Response) (entry : AuditEntry) : Prop where
  written : unmarked after.1.audit = if fixEnv.writes then unmarked before.audit ++ [entry] else unmarked before.audit
  actor : entry.actor = fixEnv.actor
  outcome : entry.result = .failed ↔ 400 ≤ after.2.status

theorem applied_audit {fixed : FixState} {cluster : String} {outcome : Except String (String × RevertInfo × Cluster)} :
    (applied fixed cluster outcome).audit = fixed.audit := by
  cases outcome <;> rfl

theorem writeAudit_unmarked {fixEnv : FixEnv} {entry : AuditEntry} {fixed : FixState} (fresh : entry.revertedAt = none) :
    unmarked (writeAudit fixEnv entry fixed).audit =
      if fixEnv.writes then unmarked fixed.audit ++ [entry] else unmarked fixed.audit := by
  unfold writeAudit
  split
  next =>
    rw [unmarked_append]
    congr 2
    rw [← fresh]
  next => rfl

theorem guidedFix_writes {fixEnv : FixEnv} {fixed : FixState} {body : Option GuidedFixRequest}
    (passes : FixPasses fixEnv fixed body) : ∃ entry, Logs fixEnv fixed (Doctor.guidedFix fixEnv fixed body) entry := by
  obtain ⟨admitted, req, rfl, confirmed, allowed, reached⟩ := passes
  obtain ⟨cluster, found⟩ := Option.isSome_iff_exists.mp reached
  simp only [Doctor.guidedFix, admitted, confirmed, allowed, found, Bool.not_true, Bool.false_eq_true, if_false]
  generalize executeGuidedFix fixEnv.calls fixEnv.now cluster req = outcome
  refine ⟨fixEntry fixEnv req outcome, ?_⟩
  have written := @writeAudit_unmarked fixEnv (fixEntry fixEnv req outcome) (applied fixed req.cluster outcome) rfl
  rw [applied_audit] at written
  cases outcome with
  | error err => exact ⟨written, rfl, by simp [fixEntry, Except.toBool]⟩
  | ok done => exact ⟨written, rfl, by simp [fixEntry, Except.toBool]⟩

theorem guidedFix_rejected {fixEnv : FixEnv} {fixed : FixState} {body : Option GuidedFixRequest}
    (fails : ¬ FixPasses fixEnv fixed body) : (Doctor.guidedFix fixEnv fixed body).1 = fixed := by
  unfold Doctor.guidedFix
  split
  next => rfl
  next admitted =>
    split
    next => rfl
    next req =>
      split
      next => rfl
      next confirmed =>
        split
        next => rfl
        next allowed =>
          split
          next => rfl
          next cluster found =>
            exact absurd ⟨admitted, req, rfl, by simpa using confirmed, by simpa using allowed, by simp [found]⟩ fails

theorem logRevert_entry (fixEnv : FixEnv) (orig : AuditEntry) (outcome : Except String String) :
    ∃ entry, (∀ fixed, logRevert fixEnv orig outcome fixed = writeAudit fixEnv entry fixed) ∧ entry.actor = fixEnv.actor ∧
      entry.revertedAt = none ∧ (entry.result = .failed ↔ outcome.toBool = false) :=
  ⟨_, fun _ => rfl, rfl, rfl, by cases outcome <;> simp [Except.toBool]⟩

theorem revert_writes {fixEnv : FixEnv} {fixed : FixState} {body : Option RevertRequest}
    (passes : RevertPasses fixEnv fixed body) :
    ∃ entry, Logs fixEnv fixed (Doctor.revertGuidedFix fixEnv fixed body) entry := by
  obtain ⟨⟨orig, req⟩, checked⟩ := passes
  have kept := Revert.performRevert_audit fixEnv fixed req
  simp only [Doctor.revertGuidedFix, checked]
  generalize performRevert fixEnv fixed req = performed at kept
  obtain ⟨after, outcome⟩ := performed
  obtain ⟨entry, logged, actor, fresh, failed⟩ := logRevert_entry fixEnv orig outcome
  have written := @writeAudit_unmarked fixEnv entry after fresh
  rw [kept] at written
  refine ⟨entry, ?_⟩
  cases outcome with
  | error err =>
    simp only [logged]
    exact ⟨written, actor, by simp [failed, Except.toBool]⟩
  | ok message =>
    simp only [logged]
    exact ⟨unmarked_markReverted.trans written, actor, by simp [failed, Except.toBool]⟩

theorem revert_rejected {fixEnv : FixEnv} {fixed : FixState} {body : Option RevertRequest}
    (fails : ¬ RevertPasses fixEnv fixed body) : (Doctor.revertGuidedFix fixEnv fixed body).1 = fixed := by
  unfold Doctor.revertGuidedFix
  split
  next => rfl
  next orig req checked => exact absurd ⟨_, checked⟩ fails

/-- The middleware takes the request down. -/
def TakenDown (base : String) (env : Env) (visit : Visit) : Prop :=
  env.fails .writeAudit = none ∧ shouldAuditPath visit.method (visit.path base) = true

theorem passed_over {after : State} {response : Response} (unseen : ¬ TakenDown base env visit) :
    auditVisit env base user visit after response = after := by
  unfold auditVisit
  split
  next both =>
    rw [Bool.and_eq_true, Option.isNone_iff_eq_none] at both
    exact absurd ⟨both.2, both.1⟩ unseen
  next => rfl

theorem taken_down {after : State} {response : Response} (taken : TakenDown base env visit) :
    auditVisit env base user visit after response =
      { after with audit := after.audit ++ [visitEntry env base user visit response.status] } := by
  rw [auditVisit, if_pos]
  simp [taken.1, taken.2]

section
variable (passes : authenticateVisit env base state visit = some user)

include passes

theorem serve_admitted : serve answers base env state visit =
    (auditVisit env base user visit (answer answers env state user visit).1 (answer answers env state user visit).2,
      (answer answers env state user visit).2) := by
  simp only [serve, passes]

theorem addsOne_iff (known : ∀ found, user = some found → found.username ≠ "")
    (kept : (answer answers env state user visit).1.audit = state.audit) :
    AddsOne user visit state (serve answers base env state visit) ↔ TakenDown base env visit := by
  rw [serve_admitted passes]
  constructor
  · intro added
    by_contra unseen
    apply not_addsOne _ added
    simp only [passed_over unseen, kept]
  · intro taken
    refine ⟨visitEntry env base user visit (answer answers env state user visit).2.status, ?_, ?_, ?_⟩
    · simp only [taken_down taken, kept, unmarked_append]
      rfl
    · exact actor_requester known .logout
    · simp [visitEntry, platformEntry]

theorem addsNone_iff (kept : (answer answers env state user visit).1.audit = state.audit) :
    AddsNone state (serve answers base env state visit) ↔ ¬ TakenDown base env visit := by
  rw [AddsNone, serve_admitted passes]
  constructor
  · intro same taken
    rw [taken_down taken, kept, unmarked_append] at same
    have lengths := congrArg List.length same
    simp at lengths
  · intro unseen
    rw [passed_over unseen, kept]

theorem fix_addsOne {endpoint : Endpoint} {passed : Prop} {after : FixState × Response}
    (known : ∀ found, user = some found → found.username ≠ "") (change : visit.target = .change endpoint)
    (fixes : endpoint.fixes = true)
    (ran : dispatch env state user (visit.request endpoint) = (state.setFixState after.1, after.2))
    (logs : passed → ∃ entry, Logs (fixEnv env state user (visit.request endpoint)) state.fixState after entry)
    (rejected : ¬ passed → after.1 = state.fixState) :
    AddsOne user visit state (serve answers base env state visit) ↔ env.fails .writeAudit = none ∧ passed := by
  have unseen : ¬ TakenDown base env visit := by
    rintro ⟨_, taken⟩
    have method : visit.method = endpoint.route.1 := by simp [Visit.method, change]
    have path : visit.path base = base ++ endpoint.path := by simp [Visit.path, change]
    rw [method, path, shouldAudit_change, fixes_unwatched fixes] at taken
    cases taken
  have answered : answer answers env state user visit = (state.setFixState after.1, after.2) := by
    simp only [answer, change, ran]
  have served : serve answers base env state visit = (state.setFixState after.1, after.2) := by
    rw [serve_admitted passes, passed_over unseen, answered]
  rw [served]
  constructor
  · intro added
    by_cases passing : passed
    · refine ⟨?_, passing⟩
      by_contra broken
      obtain ⟨entry, written, _⟩ := logs passing
      apply not_addsOne _ added
      show unmarked after.1.audit = _
      rw [written, if_neg (by simpa [fixEnv] using broken)]
      rfl
    · apply absurd added
      apply not_addsOne
      show unmarked after.1.audit = _
      rw [rejected passing]
      rfl
  · rintro ⟨works, passing⟩
    obtain ⟨entry, written, actor, outcome⟩ := logs passing
    refine ⟨entry, ?_, actor.trans (actor_requester known endpoint), outcome⟩
    show unmarked after.1.audit = _
    rw [written, if_pos (by simp [fixEnv, works])]
    rfl

end

/-- In every state of the server, a request leaves the entry that is due, and no
other, exactly when it is watched. -/
theorem audit_complete_iff (answers : State → Option User → Target → Response) (base : String) (start state : State)
    (events : List (Env × Visit)) (env : Env) (visit : Visit) (fresh : start.config.users = [])
    (reached : run (serveStep answers base) start events = some state) :
    AuditComplete answers base env state visit ↔
      ∀ user, authenticateVisit env base state visit = some user → Watches base env state user visit := by
  have named : Named state.config.users := by
    apply always (fun state => Named state.config.users) _ _ reached
    · intro before event after named taken
      cases taken
      exact named_serve named
    · rw [fresh]
      exact fun account member => nomatch member
  unfold AuditComplete
  cases passes : authenticateVisit env base state visit with
  | none => simp [AddsNone, serve, passes]
  | some user =>
    have known : ∀ found, user = some found → found.username ≠ "" := by
      rintro found rfl
      exact admitted_named named passes
    simp only [Option.some.injEq, forall_eq']
    unfold Watches
    cases target : visit.target with
    | read reading =>
      have kept : (answer answers env state user visit).1.audit = state.audit := by simp [answer, target]
      have method : visit.method = "GET" := by simp [Visit.method, target]
      have path : visit.path base = base ++ ("/cluster-doctor/" ++ reading.route) := by simp [Visit.path, target]
      cases exports : reading.exports with
      | true =>
        simp only [Target.due, exports, if_true]
        rw [addsOne_iff passes known kept, TakenDown, method, path, shouldAudit_export exports]
      | false =>
        simp only [Target.due, exports, Bool.false_eq_true, if_false]
        rw [addsNone_iff passes kept, TakenDown, method]
    | elsewhere method path =>
      have kept : (answer answers env state user visit).1.audit = state.audit := by simp [answer, target]
      simp only [Target.due, Bool.false_eq_true, if_false]
      rw [addsNone_iff passes kept, TakenDown]
      simp only [Visit.method, Visit.path, target]
    | change endpoint =>
      simp only [Target.due, if_true]
      cases fixes : endpoint.fixes with
      | true =>
        cases endpoint with
        | guidedFix body =>
          exact fix_addsOne passes known target rfl rfl guidedFix_writes guidedFix_rejected
        | revertGuidedFix body =>
          exact fix_addsOne passes known target rfl rfl revert_writes revert_rejected
        | _ => cases fixes
      | false =>
        have kept : (answer answers env state user visit).1.audit = state.audit := by
          simp only [answer, target]
          exact dispatch_audit fixes
        have method : visit.method = endpoint.route.1 := by simp [Visit.method, target]
        rw [addsOne_iff passes known kept, TakenDown, method, shouldAudit_change]
        cases endpoint with
        | guidedFix body => cases fixes
        | revertGuidedFix body => cases fixes
        | _ => rfl

private def visitOf (target : Target) : Visit := ⟨target, "c", "", "", none, ""⟩

/-- A sign-in is recorded, also one that fails. -/
theorem login_audited : AuditComplete (fun _ _ _ => writeOK) "" (Env.calm 1 "" none) State.empty
    (visitOf (.change (.login (some ⟨"root", "password"⟩)))) :=
  (audit_complete_iff (fun _ _ _ => writeOK) "" State.empty State.empty [] (Env.calm 1 "" none)
    (visitOf (.change (.login (some ⟨"root", "password"⟩)))) rfl rfl).mpr fun _ _ => ⟨rfl, by decide⟩

/-- A rule can be turned off without a trace if its id begins like the path of a
guided fix. -/
theorem toggled_unseen : ¬ ∀ (answers : State → Option User → Target → Response) (base : String) (start state : State)
    (events : List (Env × Visit)) (env : Env) (visit : Visit), start.config.users = [] →
      run (serveStep answers base) start events = some state → AuditComplete answers base env state visit := by
  intro complete
  have added : AddsOne none (visitOf (.change (.toggleRule "guided-fix-1" "false"))) State.empty _ :=
    complete (fun _ _ _ => writeOK) "" State.empty State.empty [] { Env.calm 1 "" none with authMode := .off }
      (visitOf (.change (.toggleRule "guided-fix-1" "false"))) rfl rfl
  apply not_addsOne _ added
  have unseen : (serve (fun _ _ _ => writeOK) "" { Env.calm 1 "" none with authMode := .off } State.empty
      (visitOf (.change (.toggleRule "guided-fix-1" "false")))).1.audit = [] := by
    decide
  rw [unseen]
  rfl

end K8Sense.Doctor.Api
