import K8Sense.Doctor.Kube
import K8Sense.Doctor.Tables
import K8Sense.Doctor.Licence
import K8Sense.Doctor.CustomRules
import K8Sense.Library.Text

/-! The server behind the cluster-doctor routes: what it stores, what a request
to a route with a mutating method carries, and who may pass. -/

namespace K8Sense.Doctor.Api
open Alerting Db

structure StoredAIConfig where
  endpoint : String
  model : String
  deriving DecidableEq

structure VulnConfig where
  image : String
  dbRepository : String
  deriving DecidableEq

structure Branding where
  productName : String
  primaryColor : String
  logoDataURI : String
  hidePoweredBy : Bool
  deriving DecidableEq

/-- The configuration that outlives a request: the tables, the files beside the
licence, and the rules and the licence as the server holds them. A file that is
missing or cannot be parsed is `none`. -/
structure Config where
  users : List Account
  notifications : String → Option NotificationConfig
  schedules : String → Option ScanSchedule
  overrides : String × String → Option RuleOverride
  suppressions : ResourceKey → Option Suppression
  rules : CustomRules.Server
  role : Option Role
  branding : Option Branding
  ai : Option StoredAIConfig
  runbooks : Option String
  vulnScan : Option VulnConfig
  registry : Option String
  licenceFile : Option String
  licence : Licence.Info
  trialUsed : Option String

/-- `active` are the scans started, by id and cluster. -/
structure State where
  config : Config
  history : Store
  clusters : String → Option Kube
  sessions : List Session
  active : List (String × String)
  audit : List AuditEntry

def State.setCluster (cluster : String) (kube : Kube) (state : State) : State :=
  { state with clusters := Function.update state.clusters cluster (some kube) }

inductive AuthMode where
  | off
  | «local»
  | oidc
  deriving DecidableEq

inductive Query where
  | countUsers
  | createUser
  | getUserAuth
  | getUser
  | setUserRole
  | setUserDisabled
  | createSession
  | sessionUser
  | deleteSession
  | deleteUserSessions
  | setRuleOverride
  | setRuleSeverity
  | deleteCustomRule
  | addSuppression
  | removeSuppression
  | setComment
  | getNotificationConfig
  | setNotificationConfig
  | setSchedule
  | pruneScans
  | writeAudit
  deriving DecidableEq

def Query.context : Query → String
  | .countUsers => "counting users"
  | .createUser => "creating user"
  | .getUserAuth => "reading user"
  | .getUser => "reading user"
  | .setUserRole => "updating user role"
  | .setUserDisabled => "updating user status"
  | .createSession => "creating session"
  | .sessionUser => "reading session"
  | .deleteSession => "deleting session"
  | .deleteUserSessions => "revoking user sessions"
  | .setRuleOverride => "upserting rule override"
  | .setRuleSeverity => "upserting rule severity override"
  | .deleteCustomRule => "deleting custom rule"
  | .addSuppression => "adding suppression"
  | .removeSuppression => "removing suppression"
  | .setComment => "setting comment"
  | .getNotificationConfig => "reading notification config"
  | .setNotificationConfig => "saving notification config"
  | .setSchedule => "saving scan schedule"
  | .pruneScans => "selecting scans to prune"
  | .writeAudit => "writing audit entry"

/-- The steps in which files are written. -/
inductive FileStep where
  | role
  | branding
  | ai
  | runbooks
  | vulnScan
  | registry
  | licenceDirectory
  | licenceStage
  | licenceRename
  | trial
  | trialMarker
  deriving DecidableEq

inductive Value where
  | flag (on : Bool)
  | text (content : String)
  | texts (items : List String)
  | group (entries : List (String × Value))

structure Install where
  releaseName : String
  «namespace» : String
  chartPath : String
  values : List (String × Value)

/-- The Helm library. A failed operation may still have changed the cluster. -/
structure Helm where
  initialise : Option String
  locateChart : (repoURL chart version : String) → Except String String
  load : String → Option String
  install : Install → Kube → Kube × Option String
  uninstall : («namespace» release : String) → Kube → Kube × Option String

structure Message where
  role : String
  content : String
  deriving DecidableEq

structure AIChatRequest where
  cluster : String
  scanID : String
  messages : List Message
  deriving DecidableEq

/-- Everything one request meets outside of the server's state: the environment
variables, the clock, and how files, database, clusters and libraries answer. -/
structure Env where
  authMode : AuthMode
  adminGroups : List String
  operatorGroups : List String
  defaultRole : Role
  now : Nat
  newID : Nat → String
  newSessionToken : Option String
  hashPassword : String → Option String
  passwordMatches : (hash password : String) → Bool
  database : Query → Option String
  files : FileStep → Option String
  readFile : String → Option String
  licence : Licence.Tools
  unmarshalRules : String → Except String (List Rule)
  customRuleFailsAt : Option Nat
  calls : Calls
  auditLoads : Bool
  auditMarks : Bool
  clientError : String
  refuses : Object → Option String
  pods : String → Except String (List (String × List String))
  clientConfig : Bool
  helm : Helm
  charts : List String
  airGapped : Bool
  runbookImage : String
  trivyImage : String
  trivyDB : String
  internalRegistry : String
  aiEndpoint : String
  aiModel : String
  aiEnabled : Bool
  chat : StoredAIConfig → AIChatRequest → Except String String
  postWebhook : String → Option String

def Env.fails (env : Env) (query : Query) : Option String :=
  (env.database query).map fun err => query.context ++ ": " ++ err

/-- Local accounts, and nothing fails. -/
def Env.calm (now : Nat) (id : String) (token : Option String) : Env where
  authMode := .local
  adminGroups := []
  operatorGroups := []
  defaultRole := .viewer
  now
  newID place := id ++ toString place
  newSessionToken := token
  hashPassword password := some ("hash of " ++ password)
  passwordMatches hash password := hash = "hash of " ++ password
  database _ := none
  files _ := none
  readFile _ := none
  licence := ⟨fun _ => none, fun _ => "", fun _ => true, fun _ _ _ => true, fun _ => "", fun _ => none, fun _ => "", 0, "", true⟩
  unmarshalRules _ := .ok []
  customRuleFailsAt := none
  calls := ⟨none, none⟩
  auditLoads := true
  auditMarks := true
  clientError := ""
  refuses _ := none
  pods _ := .ok []
  clientConfig := true
  helm := ⟨none, fun _ chart _ => .ok chart, fun _ => none, fun _ kube => (kube, none), fun _ _ kube => (kube, none)⟩
  charts := []
  airGapped := false
  runbookImage := ""
  trivyImage := ""
  trivyDB := ""
  internalRegistry := ""
  aiEndpoint := ""
  aiModel := ""
  aiEnabled := true
  chat _ _ := .ok ""
  postWebhook _ := none

/-- A server on its first start, which reaches no cluster. -/
def State.empty : State where
  config := ⟨[], fun _ => none, fun _ => none, fun _ => none, fun _ => none, CustomRules.newServer [] [], none, none, none,
    none, none, none, none, Licence.freeInfo "", none⟩
  history := ⟨[], []⟩
  clusters _ := none
  sessions := []
  active := []
  audit := []

structure Credentials where
  username : String
  password : String
  deriving DecidableEq

structure CreateUserRequest where
  username : String
  password : String
  role : Role
  deriving DecidableEq

structure UpdateUserRequest where
  role : Option Role
  disabled : Option Bool
  deriving DecidableEq

structure SuppressRequest where
  cluster : String
  ruleID : String
  «namespace» : String
  resourceKind : String
  resourceName : String
  reason : String
  comment : String
  suppressedBy : String
  deriving DecidableEq

structure NotifyUpdateRequest where
  cluster : String
  slackWebhook : String
  teamsWebhook : String
  notifyCritical : Bool
  scheduleEnabled : Bool
  intervalMinutes : Int
  deriving DecidableEq

structure CatalogActionRequest where
  cluster : String
  appID : String
  deriving DecidableEq

structure RunRunbookRequest where
  cluster : String
  runbookID : String
  vars : List (String × String)
  check : Bool
  deriving DecidableEq

structure ActivateRequest where
  path : String
  content : String
  deriving DecidableEq

/-- The routes with a mutating method, with what their paths, queries and bodies
carry. A body that does not decode is `none`. -/
inductive Endpoint where
  | bootstrap (body : Option Credentials)
  | login (body : Option Credentials)
  | logout
  | createUser (body : Option CreateUserRequest)
  | updateUser (id : String) (body : Option UpdateUserRequest)
  | startScan (body : Option String)
  | startMultiScan (body : Option (List String))
  | validateRule (body : Option String)
  | importRule (body : Option String)
  | deleteCustomRule (id : String)
  | toggleRule (id enabled : String)
  | setRuleSeverity (id severity : String)
  | aiChat (body : Option AIChatRequest)
  | setAIConfig (body : Option StoredAIConfig)
  | installApp (body : Option CatalogActionRequest)
  | uninstallApp (body : Option CatalogActionRequest)
  | enableRunbooks (body : Option String)
  | runRunbook (body : Option RunRunbookRequest)
  | setRunbooksConfig (body : Option String)
  | runVulnScan (body : Option String)
  | setVulnScanConfig (body : Option VulnConfig)
  | setRegistry (body : Option String)
  | guidedFix (body : Option GuidedFixRequest)
  | revertGuidedFix (body : Option RevertRequest)
  | suppressFinding (body : Option SuppressRequest)
  | unsuppressFinding (body : Option SuppressRequest)
  | commentFinding (body : Option SuppressRequest)
  | setNotifyConfig (body : Option NotifyUpdateRequest)
  | testNotification
  | setBranding (body : Option Branding)
  | setRole (body : Option Role)
  | purgeScans (body : Option Int)
  | activateLicence (body : Option ActivateRequest)
  | startTrial

/-- Method and path below `/cluster-doctor/`. -/
def Endpoint.route : Endpoint → String × String
  | .bootstrap _ => ("POST", "auth/bootstrap")
  | .login _ => ("POST", "auth/login")
  | .logout => ("POST", "auth/logout")
  | .createUser _ => ("POST", "users")
  | .updateUser id _ => ("PUT", "users/" ++ id)
  | .startScan _ => ("POST", "scan")
  | .startMultiScan _ => ("POST", "scan/multi")
  | .validateRule _ => ("POST", "rules/validate")
  | .importRule _ => ("POST", "rules/import")
  | .deleteCustomRule id => ("DELETE", "rules/custom/" ++ id)
  | .toggleRule id _ => ("PUT", "rules/" ++ id ++ "/toggle")
  | .setRuleSeverity id _ => ("PUT", "rules/" ++ id ++ "/severity")
  | .aiChat _ => ("POST", "ai/chat")
  | .setAIConfig _ => ("PUT", "ai/config")
  | .installApp _ => ("POST", "catalog/install")
  | .uninstallApp _ => ("POST", "catalog/uninstall")
  | .enableRunbooks _ => ("POST", "runbooks/enable")
  | .runRunbook _ => ("POST", "runbooks/run")
  | .setRunbooksConfig _ => ("PUT", "runbooks/config")
  | .runVulnScan _ => ("POST", "vulnscan")
  | .setVulnScanConfig _ => ("PUT", "vulnscan/config")
  | .setRegistry _ => ("PUT", "registry")
  | .guidedFix _ => ("POST", "guided-fix")
  | .revertGuidedFix _ => ("POST", "guided-fix/revert")
  | .suppressFinding _ => ("POST", "findings/suppress")
  | .unsuppressFinding _ => ("POST", "findings/unsuppress")
  | .commentFinding _ => ("PUT", "findings/comment")
  | .setNotifyConfig _ => ("PUT", "notifications")
  | .testNotification => ("POST", "notifications/test")
  | .setBranding _ => ("PUT", "branding")
  | .setRole _ => ("PUT", "role")
  | .purgeScans _ => ("POST", "storage/purge")
  | .activateLicence _ => ("POST", "licence/activate")
  | .startTrial => ("POST", "licence/trial")

/-- The claims of a bearer token. Groups that are not a list are `none`. -/
structure Claims where
  email : String
  preferredUsername : String
  name : String
  subject : String
  groups : Option (List String)
  deriving DecidableEq

/-- `cluster` is the query parameter and `bodyCluster` the cluster that the body
names. -/
structure Request where
  endpoint : Endpoint
  cluster : String
  bodyCluster : String
  session : String
  claims : Option Claims
  actor : String

def oidcUsername (claims : Claims) : String :=
  (([claims.email, claims.preferredUsername, claims.name, claims.subject].map Text.trimSpace).find? fun name =>
    name ≠ "").getD ""

def intersects (groups others : List String) : Bool := groups.any others.contains

def oidcRole (env : Env) (groups : List String) : Role :=
  if intersects groups env.adminGroups then .admin
  else if intersects groups env.operatorGroups then .operator
  else if env.defaultRole.valid then env.defaultRole
  else .viewer

def resolveOIDCUser (env : Env) (request : Request) : Option User :=
  match request.claims with
  | none => none
  | some claims =>
    match claims.groups with
    | none => none
    | some groups =>
      if oidcUsername claims = "" then none
      else some ⟨if claims.subject = "" then oidcUsername claims else claims.subject, oidcUsername claims,
        oidcRole env groups, false, 0⟩

def resolveSessionUser (env : Env) (state : State) (request : Request) : Option User :=
  let token := Text.trimSpace request.session
  if token = "" ∨ (env.fails .sessionUser).isSome ∨ (env.fails .getUser).isSome then none
  else match sessionUser token env.now state.sessions with
  | none => none
  | some userID => (getUser userID state.config.users).filter fun user => !user.disabled

/-- `isAuthPublicPath`, among the routes with a mutating method. -/
def Endpoint.isAuthPublicPath : Endpoint → Bool
  | .login _ | .bootstrap _ => true
  | _ => false

/-- `authMiddleware`: whether the request may pass, and the user in its context. -/
def authenticate (env : Env) (state : State) (request : Request) : Option (Option User) :=
  if request.endpoint.isAuthPublicPath then some none
  else match env.authMode with
  | .off => some none
  | .local => (resolveSessionUser env state request).map some
  | .oidc => (resolveOIDCUser env request).map some

/-- Without a user in the context it is a synthetic admin. -/
def currentUser (user : Option User) : User := user.getD ⟨"local", "local", defaultRole, false, 0⟩

/-- `LoadRole`. -/
def loadRole (file : Option Role) : Role := (file.filter Role.valid).getD defaultRole

def currentRole (state : State) : Role := loadRole state.config.role

def effectiveRole (env : Env) (state : State) (user : Option User) : Role :=
  if env.authMode = .off then currentRole state else (currentUser user).role

/-- `actorFromRequest`. -/
def actorFromRequest (user : Option User) (request : Request) : String :=
  let names := [(user.map User.username).getD "", (request.claims.map oidcUsername).getD "", Text.trimSpace request.actor]
  (names.find? fun name => name ≠ "").getD "unknown"

def unauthenticated : Response := codedError 401 "Please sign in." "unauthenticated"

def requirePaid (state : State) (next : State × Response) : State × Response :=
  if state.config.licence.tier = .free then (state, upgradeRequired) else next

def requireRole (env : Env) (state : State) (user : Option User) (required : Role) (next : State × Response) :
    State × Response :=
  if (effectiveRole env state user).atLeast required then next else (state, roleForbidden)

def requireAdmin (state : State) (user : Option User) (next : State × Response) : State × Response :=
  if (currentUser user).role.atLeast .admin then next else (state, jsonError 403 "Admins only.")

end K8Sense.Doctor.Api
