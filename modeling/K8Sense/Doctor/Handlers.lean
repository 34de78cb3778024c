import K8Sense.Doctor.Runbooks

/-! The other handlers behind the routes with a mutating method, and the way of a
request through the middlewares to its handler. -/

namespace K8Sense.Doctor.Api
open Alerting Db

def sessionTTL : Nat := 12 * 60 * 60

def minPasswordLen : Nat := 8

def Role.name : Role → String
  | .viewer => "viewer"
  | .operator => "operator"
  | .admin => "admin"
  | .unknown name => name

/-- `authErr`. -/
def authError (code : Nat) (message : String) : Response := ⟨code, jsonObject [("error", message.quote)]⟩

def userJSON (user : User) : String :=
  jsonObject [("id", user.id.quote), ("username", user.username.quote), ("role", (Role.name user.role).quote),
    ("disabled", toString user.disabled), ("createdAt", toString user.createdAt)]

def webhookFailures (env : Env) (config : NotificationConfig) : List String :=
  [("slack", config.slackWebhook), ("teams", config.teamsWebhook)].filterMap fun (name, url) =>
    if url = "" then none else (env.postWebhook url).map fun err => name ++ ": " ++ err

def isHexColor (color : String) : Bool :=
  (color.utf8ByteSize = 4 || color.utf8ByteSize = 7) && color.toList.head? = some '#' &&
    color.toList.tail.all fun char => '0' ≤ char && char ≤ '9' || 'a' ≤ char && char ≤ 'f' || 'A' ≤ char && char ≤ 'F'

def maxLogoBytes : Nat := 512 * 1024

/-- `Validate`. -/
def Branding.invalid (branding : Branding) : Option String :=
  if branding.logoDataURI ≠ "" ∧ !"data:image/".toList.isPrefixOf branding.logoDataURI.toList then
    some "logo must be a data:image/... URI so it works offline"
  else if maxLogoBytes < branding.logoDataURI.utf8ByteSize then
    some ("logo exceeds " ++ toString (maxLogoBytes / 1024) ++ " KB limit")
  else if branding.primaryColor ≠ "" ∧ !isHexColor branding.primaryColor then
    some "primaryColor must be a hex colour like #3B82F6"
  else none

section
variable (env : Env) (state : State)

/-- `createUser`: checks the account and stores it. -/
def storeUser (username password : String) (role : Role) : Except Response State :=
  if Text.trimSpace username = "" then .error (authError 400 "A username is required.")
  else if password.utf8ByteSize < minPasswordLen then .error (authError 400 "Password must be at least 8 characters.")
  else match env.hashPassword password with
  | none => .error (authError 500 "could not hash password")
  | some hash =>
    match env.fails .createUser with
    | some _ => .error (authError 500 "could not create user")
    | none =>
      match Db.createUser ⟨⟨env.newID 0, Text.trimSpace username, role, false, env.now⟩, hash⟩ state.config.users with
      | none => .error (authError 409 "That username is taken.")
      | some users => .ok { state with config := { state.config with users } }

/-- The same answer for an unknown name and a wrong password. -/
def issueSession (username password : String) : State × Response :=
  if (env.fails .getUserAuth).isSome then (state, jsonError 500 "could not sign in")
  else match getUserAuth (Text.trimSpace username) state.config.users with
  | none => (state, jsonError 401 "Incorrect username or password.")
  | some account =>
    if account.user.disabled || !env.passwordMatches account.passwordHash password then
      (state, jsonError 401 "Incorrect username or password.")
    else match env.newSessionToken with
    | none => (state, jsonError 500 "could not sign in")
    | some token =>
      match env.fails .createSession,
        Db.createSession ⟨token, account.user.id, env.now, env.now + sessionTTL⟩ state.sessions with
      | none, some sessions => ({ state with sessions },
          writeJSON [("token", token.quote), ("user", userJSON account.user)])
      | _, _ => (state, jsonError 500 "could not sign in")

/-- What `Bootstrap` checks before it creates the account. -/
def checkBootstrap (body : Option Credentials) : Except Response Credentials :=
  if env.authMode = .off then .error (jsonError 400 "Authentication is not enabled on this server.")
  else if (env.fails .countUsers).isSome then .error (jsonError 500 "could not read users")
  else if 0 < state.config.users.length then
    .error (jsonError 409 "Setup is already complete — sign in instead.")
  else match body with
  | none => .error (jsonError 400 "invalid request body")
  | some req => .ok req

def bootstrap (body : Option Credentials) : State × Response :=
  match checkBootstrap env state body with
  | .error response => (state, response)
  | .ok req =>
    match storeUser env state req.username req.password .admin with
    | .error response => (state, response)
    | .ok created => issueSession env created req.username req.password

def login (body : Option Credentials) : State × Response :=
  match body with
  | none => (state, jsonError 400 "invalid request body")
  | some req => issueSession env state req.username req.password

/-- A session that cannot be deleted is left. -/
def logout (session : String) : State × Response :=
  let token := Text.trimSpace session
  if token = "" ∨ (env.fails .deleteSession).isSome then (state, writeOK)
  else ({ state with sessions := Db.deleteSession token state.sessions }, writeOK)

/-- A role that is not known becomes viewer. -/
def createUser (user : Option User) (body : Option CreateUserRequest) : State × Response :=
  requireAdmin state user <|
    match body with
    | none => (state, jsonError 400 "invalid request body")
    | some req =>
      match storeUser env state req.username req.password (if req.role.valid then req.role else .viewer) with
      | .error response => (state, response)
      | .ok created => (created, writeOK)

def State.setUsers (users : List Account) (state : State) : State :=
  { state with config := { state.config with users } }

/-- The second half of `UpdateUser`. Disabling an account ends its sessions. -/
def updateDisabled (id : String) (disabled : Option Bool) : State × Response :=
  match disabled with
  | none => (state, writeOK)
  | some disabled =>
    if (env.fails .setUserDisabled).isSome then (state, jsonError 500 "could not update status")
    else
      let next := state.setUsers (setUserDisabled id disabled state.config.users)
      if disabled ∧ (env.fails .deleteUserSessions).isNone then
        ({ next with sessions := deleteUserSessions id next.sessions }, writeOK)
      else (next, writeOK)

def updateRole (id : String) (req : UpdateUserRequest) : State × Response :=
  match req.role with
  | none => updateDisabled env state id req.disabled
  | some role =>
    if !role.valid then (state, jsonError 400 "unknown role")
    else if (env.fails .setUserRole).isSome then (state, jsonError 500 "could not update role")
    else updateDisabled env (state.setUsers (setUserRole id role state.config.users)) id req.disabled

def updateUser (user : Option User) (id : String) (body : Option UpdateUserRequest) : State × Response :=
  requireAdmin state user <|
    if id = (currentUser user).id then (state, jsonError 400 "You can't change your own admin account here.")
    else match body with
    | none => (state, jsonError 400 "invalid request body")
    | some req => updateRole env state id req

def startScan (body : Option String) : State × Response :=
  match body.filter fun cluster => cluster ≠ "" with
  | none => (state, errorResponse 400 "cluster is required")
  | some cluster =>
    match state.clusters cluster with
    | none => (state, errorResponse 404 ("cluster not found: " ++ env.clientError))
    | some _ => ({ state with active := state.active ++ [(env.newID 0, cluster)] },
        writeJSON [("scanId", (env.newID 0).quote)])

/-- The clusters that are reached, with the ids of their scans. -/
def multiScans (clusters : List String) : List (String × String) :=
  (clusters.zipIdx.filter fun entry => (state.clusters entry.1).isSome).map fun entry => (env.newID entry.2, entry.1)

def multiScanEntry (entry : String × Nat) : String :=
  if (state.clusters entry.1).isSome then jsonObject [("cluster", entry.1.quote), ("scanId", (env.newID entry.2).quote)]
  else jsonObject [("cluster", entry.1.quote), ("error", "cluster not found".quote)]

def startMultiScan (body : Option (List String)) : State × Response :=
  match body.filter fun clusters => clusters ≠ [] with
  | none => (state, jsonError 400 "clusters is required")
  | some clusters => ({ state with active := state.active ++ multiScans env state clusters },
      ⟨200, "[" ++ Text.join ',' (clusters.zipIdx.map (multiScanEntry env state)) ++ "]"⟩)

def validateRule (body : Option String) : State × Response :=
  match body with
  | none => (state, jsonError 400 "invalid request")
  | some yaml =>
    match CustomRules.parseRules env.unmarshalRules yaml with
    | .error err => (state, writeJSON [("valid", "false"), ("error", err.quote)])
    | .ok rules => (state, writeJSON [("valid", "true"),
        ("rules", "[" ++ Text.join ',' (rules.map fun rule => rule.id.quote) ++ "]")])

def State.paid (state : State) : Bool := state.config.licence.tier ≠ .free

def State.setRules (state : State) (rules : CustomRules.Server) : State :=
  { state with config := { state.config with rules } }

def importRule (body : Option String) : State × Response :=
  let result := CustomRules.importRule env.unmarshalRules state.paid body env.now env.customRuleFailsAt state.config.rules
  (state.setRules result.1, result.2)

def deleteCustomRule (id : String) : State × Response :=
  let result := CustomRules.deleteCustomRule id (env.fails .deleteCustomRule).isSome state.config.rules
  (state.setRules result.1, result.2)

/-- A write to the database and its answer. -/
def stored (query : Query) (next : State) : State × Response :=
  match env.fails query with
  | some err => (state, errorResponse 500 err)
  | none => (next, writeOK)

def toggleRule (user : Option User) (cluster id enabled : String) : State × Response :=
  requireRole env state user .admin <|
    if cluster = "" then (state, errorResponse 400 "cluster query param is required")
    else stored env state .setRuleOverride { state with config := { state.config with
      overrides := setRuleOverride cluster id (enabled = "true") state.config.overrides } }

def setRuleSeverity (user : Option User) (cluster id severity : String) : State × Response :=
  requireRole env state user .admin <|
    if cluster = "" then (state, errorResponse 400 "cluster query param is required")
    else if severity ≠ "" ∧ severity ≠ severityCritical ∧ severity ≠ severityWarning ∧ severity ≠ severityInfo then
      (state, errorResponse 400 "severity must be CRITICAL, WARNING, INFO, or empty")
    else stored env state .setRuleSeverity { state with config := { state.config with
      overrides := Db.setRuleSeverity cluster id severity state.config.overrides } }

/-- The saved endpoint and model, where they are not empty, or those of the
environment. -/
def loadAIConfig : StoredAIConfig :=
  match state.config.ai with
  | none => ⟨env.aiEndpoint, env.aiModel⟩
  | some saved => ⟨if saved.endpoint = "" then env.aiEndpoint else Text.trimRight '/' saved.endpoint,
      if saved.model = "" then env.aiModel else saved.model⟩

def aiChat (body : Option AIChatRequest) : State × Response :=
  match body with
  | none => (state, jsonError 400 "invalid request body")
  | some req =>
    if req.messages = [] then (state, jsonError 400 "no messages provided")
    else if !env.aiEnabled then (state, codedError 503 "The Copilot is disabled on this server" "ai_disabled")
    else match env.chat (loadAIConfig env state) req with
    | .error err => (state, codedError 502 err "ai_unreachable")
    | .ok reply => (state, writeJSON [("reply", reply.quote)])

def normaliseEndpoint (endpoint : String) : String := Text.trimRight '/' (Text.trimSpace endpoint)

def setAIConfig (body : Option StoredAIConfig) : State × Response :=
  match body with
  | none => (state, jsonError 400 "invalid request body")
  | some req =>
    if normaliseEndpoint req.endpoint = "" then (state, jsonError 400 "endpoint is required")
    else match env.files .ai with
    | some _ => (state, jsonError 500 "could not save config")
    | none =>
      let next := { state with config := { state.config with
        ai := some ⟨normaliseEndpoint req.endpoint, Text.trimSpace req.model⟩ } }
      (next, writeJSON [("endpoint", (loadAIConfig env next).endpoint.quote), ("model", (loadAIConfig env next).model.quote)])

/-- What guided fixes see of the server and of the request. -/
def fixEnv (user : Option User) (request : Request) : FixEnv where
  paid := state.paid
  role := effectiveRole env state user
  actor := actorFromRequest user request
  calls := env.calls
  loads := env.auditLoads
  writes := (env.fails .writeAudit).isNone
  marks := env.auditMarks
  newID := env.newID 0
  now := env.now

def State.fixState (state : State) : FixState where
  clusters name := (state.clusters name).map Kube.base
  audit := state.audit

def State.setFixState (state : State) (fixed : FixState) : State :=
  { state with
    clusters := fun name =>
      match state.clusters name, fixed.clusters name with
      | some kube, some base => some { kube with base }
      | found, _ => found
    audit := fixed.audit }

def guidedFix (user : Option User) (request : Request) (body : Option GuidedFixRequest) : State × Response :=
  let result := Doctor.guidedFix (fixEnv env state user request) state.fixState body
  (state.setFixState result.1, result.2)

def revertGuidedFix (user : Option User) (request : Request) (body : Option RevertRequest) : State × Response :=
  let result := Doctor.revertGuidedFix (fixEnv env state user request) state.fixState body
  (state.setFixState result.1, result.2)

def SuppressRequest.key (req : SuppressRequest) : ResourceKey :=
  ⟨req.cluster, req.ruleID, req.namespace, req.resourceKind, req.resourceName⟩

/-- The gate and the checks that suppressing, unsuppressing and commenting share. -/
def checkedSuppression (user : Option User) (body : Option SuppressRequest) (next : SuppressRequest → State × Response) :
    State × Response :=
  requireRole env state user .operator <|
    match body with
    | none => (state, errorResponse 400 "invalid request body")
    | some req =>
      if req.cluster = "" ∨ req.ruleID = "" ∨ req.resourceName = "" then
        (state, errorResponse 400 "cluster, ruleId and resourceName are required")
      else next req

def State.setSuppressions (suppressions : ResourceKey → Option Suppression) (state : State) : State :=
  { state with config := { state.config with suppressions } }

def suppressFinding (user : Option User) (actor : String) (body : Option SuppressRequest) : State × Response :=
  checkedSuppression env state user body fun req =>
    if req.reason = "" then (state, errorResponse 400 "reason is required")
    else stored env state .addSuppression (state.setSuppressions (addSuppression req.key
      ⟨nullIfEmpty req.reason, nullIfEmpty (if req.suppressedBy = "" then actor else req.suppressedBy), env.now,
        nullIfEmpty req.comment⟩ state.config.suppressions))

def unsuppressFinding (user : Option User) (body : Option SuppressRequest) : State × Response :=
  checkedSuppression env state user body fun req =>
    stored env state .removeSuppression (state.setSuppressions (removeSuppression req.key state.config.suppressions))

def commentFinding (user : Option User) (body : Option SuppressRequest) : State × Response :=
  checkedSuppression env state user body fun req =>
    stored env state .setComment
      (state.setSuppressions (setComment req.key req.comment env.now state.config.suppressions))

def setNotifyConfig (user : Option User) (body : Option NotifyUpdateRequest) : State × Response :=
  requirePaid state <| requireRole env state user .admin <|
    match body.filter fun req => req.cluster ≠ "" with
    | none => (state, errorResponse 400 "cluster is required")
    | some req =>
      match env.fails .setNotificationConfig with
      | some err => (state, errorResponse 500 err)
      | none =>
        let notified := { state with config := { state.config with
          notifications := setNotificationConfig req.cluster ⟨req.slackWebhook, req.teamsWebhook, req.notifyCritical⟩
            state.config.notifications } }
        stored env notified .setSchedule { notified with config := { notified.config with
          schedules := setSchedule req.cluster req.scheduleEnabled req.intervalMinutes notified.config.schedules } }

def testNotification (cluster : String) : State × Response :=
  if cluster = "" then (state, errorResponse 400 "cluster query param is required")
  else match env.fails .getNotificationConfig with
  | some err => (state, errorResponse 500 err)
  | none =>
    let config := getNotificationConfig cluster state.config.notifications
    if config.slackWebhook = "" ∧ config.teamsWebhook = "" then
      (state, errorResponse 400 "no webhook configured for this cluster")
    else match webhookFailures env config with
    | [] => (state, writeOK)
    | failures => (state, ⟨422, jsonObject [("errors", "[" ++ Text.join ',' (failures.map String.quote) ++ "]"),
        ("result", "failed".quote)]⟩)

def setBranding (user : Option User) (body : Option Branding) : State × Response :=
  requirePaid state <| requireRole env state user .admin <|
    match body with
    | none => (state, jsonError 400 "invalid request body")
    | some branding =>
      match branding.invalid with
      | some err => (state, jsonError 400 err)
      | none =>
        match env.files .branding with
        | some err => (state, jsonError 400 ("writing branding config: " ++ err))
        | none => ({ state with config := { state.config with branding := some branding } }, writeOK)

def setRole (user : Option User) (body : Option Role) : State × Response :=
  requireRole env state user .admin <|
    match body.filter Role.valid with
    | none => (state, jsonError 400 "role must be viewer, operator or admin")
    | some role =>
      match env.files .role with
      | some err => (state, jsonError 500 ("writing role config: " ++ err))
      | none => ({ state with config := { state.config with role := some role } },
          writeJSON [("result", "ok".quote), ("role", (Role.name role).quote)])

def defaultKeep : Nat := 10

/-- A body that does not decode is taken to be empty. -/
def keepPerCluster (body : Option Int) : Nat :=
  if body.getD 0 ≤ 0 then defaultKeep else (body.getD 0).toNat

def purgeScans (body : Option Int) : State × Response :=
  match env.fails .pruneScans with
  | some err => (state, jsonError 500 err)
  | none => ({ state with history := pruneScans (keepPerCluster body) state.history },
      writeJSON [("pruned", toString (prunedIDs (keepPerCluster body) state.history.scans).length)])

def Licence.Tier.name : Licence.Tier → String
  | .free => "free"
  | .pro => "pro"
  | .enterprise => "enterprise"
  | .other name => name

def licenceJSON (info : Licence.Info) : Response :=
  writeJSON [("tier", (Licence.Tier.name info.tier).quote), ("customerName", info.customerName.quote),
    ("maxClusters", toString info.maxClusters), ("seatCount", toString info.seatCount),
    ("expiresAt", info.expiresAt.quote), ("isTrial", toString info.isTrial), ("valid", toString info.valid),
    ("inGrace", toString info.inGrace), ("message", info.message.quote)]

/-- A new licence file, which is validated at once. -/
def State.setLicence (file : String) (state : State) : State :=
  { state with config := { state.config with
    licenceFile := some file
    licence := Licence.validate env.licence (some file) } }

/-- The pasted contents, or those of the file that is named. -/
def licenceContent (req : ActivateRequest) : Except Response String :=
  if req.content ≠ "" then .ok req.content
  else if req.path ≠ "" then
    match env.readFile req.path with
    | none => .error (jsonError 400 "could not read licence file")
    | some data => .ok data
  else .error (jsonError 400 "path or content is required")

/-- The file is staged and validated before it replaces the old one. -/
def checkActivation (body : Option ActivateRequest) : Except Response String :=
  match body with
  | none => .error (jsonError 400 "invalid request")
  | some req =>
    match licenceContent env req with
    | .error response => .error response
    | .ok data =>
      if (env.files .licenceDirectory).isSome then .error (jsonError 500 "could not prepare licence directory")
      else if (env.files .licenceStage).isSome then .error (jsonError 500 "could not stage licence")
      else if !(Licence.validate env.licence (some data)).valid then
        .error (jsonError 400 ("licence is not valid: " ++ (Licence.validate env.licence (some data)).message))
      else if (env.files .licenceRename).isSome then .error (jsonError 500 "could not install licence")
      else .ok data

def activateLicence (body : Option ActivateRequest) : State × Response :=
  match checkActivation env body with
  | .error response => (state, response)
  | .ok data =>
    let next := State.setLicence env data state
    (next, licenceJSON next.config.licence)

/-- A trial is generated once. That it has been is noted in a file, if that can be
written. -/
def startTrial : State × Response :=
  if state.config.licence.valid then (state, jsonError 409 "a licence is already active")
  else if state.config.trialUsed.isSome then (state, jsonError 409 "a trial has already been used on this machine")
  else match Licence.generateTrial env.licence (env.files .trial) with
  | (none, .error err) => (state, jsonError 500 ("could not start trial: " ++ err))
  | (none, .ok _) => (state, jsonError 500 "could not start trial: ")
  | (some file, .error err) =>
    ({ state with config := { state.config with licenceFile := some file } }, jsonError 500 ("could not start trial: " ++ err))
  | (some file, .ok info) =>
    let marked := if (env.files .trialMarker).isSome then state
      else { state with config := { state.config with trialUsed := some info.expiresAt } }
    let next := State.setLicence env file marked
    (next, licenceJSON next.config.licence)

def dispatch (user : Option User) (request : Request) : State × Response :=
  match request.endpoint with
  | .bootstrap body => bootstrap env state body
  | .login body => login env state body
  | .logout => logout env state request.session
  | .createUser body => createUser env state user body
  | .updateUser id body => updateUser env state user id body
  | .startScan body => startScan env state body
  | .startMultiScan body => startMultiScan env state body
  | .validateRule body => validateRule env state body
  | .importRule body => importRule env state body
  | .deleteCustomRule id => deleteCustomRule env state id
  | .toggleRule id enabled => toggleRule env state user request.cluster id enabled
  | .setRuleSeverity id severity => setRuleSeverity env state user request.cluster id severity
  | .aiChat body => aiChat env state body
  | .setAIConfig body => setAIConfig env state body
  | .installApp body => installApp env state body
  | .uninstallApp body => uninstallApp env state body
  | .enableRunbooks body => enableRunbooks env state body
  | .runRunbook body => runRunbook env state body
  | .setRunbooksConfig body => setRunbooksConfig env state body
  | .runVulnScan body => runVulnScan env state body
  | .setVulnScanConfig body => setVulnScanConfig env state body
  | .setRegistry body => setRegistry env state body
  | .guidedFix body => guidedFix env state user request body
  | .revertGuidedFix body => revertGuidedFix env state user request body
  | .suppressFinding body => suppressFinding env state user request.actor body
  | .unsuppressFinding body => unsuppressFinding env state user body
  | .commentFinding body => commentFinding env state user body
  | .setNotifyConfig body => setNotifyConfig env state user body
  | .testNotification => testNotification env state request.cluster
  | .setBranding body => setBranding env state user body
  | .setRole body => setRole env state user body
  | .purgeScans body => purgeScans env state body
  | .activateLicence body => activateLicence env state body
  | .startTrial => startTrial env state

end

def Endpoint.path (endpoint : Endpoint) : String := "/cluster-doctor/" ++ endpoint.route.2

/-- `shouldAudit`, where the method is a mutating one. -/
def shouldAudit (request : Request) : Bool :=
  !Text.contains request.endpoint.path.toList "/guided-fix".toList

/-- `clusterFromRequest`. -/
def clusterFromRequest (request : Request) : String :=
  if request.cluster ≠ "" then request.cluster
  else if request.bodyCluster ≠ "" then request.bodyCluster
  else "platform"

def auditActionName (request : Request) : String := request.endpoint.route.1 ++ " /" ++ request.endpoint.route.2

def platformEntry (env : Env) (user : Option User) (request : Request) (status : Nat) : AuditEntry where
  id := env.newID 1
  actor := actorFromRequest user request
  action := auditActionName request
  clusterID := clusterFromRequest request
  «namespace» := ""
  resourceKind := ""
  resourceName := ""
  payload := none
  result := if 400 ≤ status then .failed else .success
  error := if 400 ≤ status then "http " ++ toString status else ""
  performedAt := env.now
  revertAction := none
  revertPayload := none
  revertedAt := none
  revertOf := ""

/-- `auditMiddleware`. -/
def auditRequest (env : Env) (user : Option User) (request : Request) (state : State) (response : Response) : State :=
  if shouldAudit request && (env.fails .writeAudit).isNone then
    { state with audit := state.audit ++ [platformEntry env user request response.status] }
  else state

/-- A request to a route with a mutating method. -/
def handle (env : Env) (state : State) (request : Request) : State × Response :=
  match authenticate env state request with
  | none => (state, unauthenticated)
  | some user =>
    let result := dispatch env state user request
    (auditRequest env user request result.1 result.2, result.2)

end K8Sense.Doctor.Api
