import Mathlib.Logic.Function.Basic
import K8Sense.Doctor.Role
import K8Sense.Doctor.Response

/-! Guided fixes: one pre-approved action on a cluster, its audit entry with what
is needed to undo it, and the revert of such an entry. -/

namespace K8Sense.Doctor

inductive Action where
  | deletePod
  | deleteJob
  | uncordonNode
  | cordonNode
  | scaleDeployment
  | restartDeployment
  | other (name : String)
  deriving DecidableEq

def Action.name : Action → String
  | .deletePod => "delete_pod"
  | .deleteJob => "delete_job"
  | .uncordonNode => "uncordon_node"
  | .cordonNode => "cordon_node"
  | .scaleDeployment => "scale_deployment"
  | .restartDeployment => "restart_deployment"
  | .other name => name

def allowedGuidedFixActions : Action → Bool
  | .other _ => false
  | _ => true

def kindForAction : Action → String
  | .deletePod => "Pod"
  | .deleteJob => "Job"
  | .uncordonNode | .cordonNode => "Node"
  | .scaleDeployment | .restartDeployment => "Deployment"
  | .other _ => ""

structure GuidedFixRequest where
  cluster : String
  action : Action
  «namespace» : String
  resourceName : String
  confirmed : Bool
  force : Bool
  replicas : Option Int32
  deriving DecidableEq

/-- The inverse action and the replica count in its JSON payload. -/
structure RevertInfo where
  action : Option Action
  payload : Option Int32
  deriving DecidableEq

structure Node where
  unschedulable : Bool
  deriving DecidableEq

structure Deployment where
  replicas : Option Int32
  restartedAt : Option Nat
  deriving DecidableEq

/-- The objects that guided fixes touch, by namespace and name. -/
structure Cluster where
  pods : String × String → Bool
  jobs : String × String → Bool
  nodes : String → Option Node
  deployments : String × String → Option Deployment

def Cluster.setNode (name : String) (node : Node) (cluster : Cluster) : Cluster :=
  { cluster with nodes := Function.update cluster.nodes name (some node) }

def Cluster.setDeployment (key : String × String) (deployment : Deployment) (cluster : Cluster) : Cluster :=
  { cluster with deployments := Function.update cluster.deployments key (some deployment) }

/-- How the API server treats the reading and the writing call of one action,
where that does not depend on the objects. -/
structure Calls where
  read : Option String
  write : Option String
  deriving DecidableEq

def notFound (kind name : String) : String := kind ++ " \"" ++ name ++ "\" not found"

def nothingToRevert : RevertInfo := ⟨none, none⟩

def patch {α : Type} (calls : Calls) (object : Option α) (missing : String) (change : α → α) : Except String α :=
  match calls.write, object with
  | some err, _ => .error err
  | none, none => .error missing
  | none, some found => .ok (change found)

def patchNodeSchedulable (calls : Calls) (cluster : Cluster) (node : String) (unschedulable : Bool) :
    Except String Cluster := do
  let patched ← patch calls (cluster.nodes node) (notFound "nodes" node) fun _ => ⟨unschedulable⟩
  return cluster.setNode node patched

def executeGuidedFix (calls : Calls) (now : Nat) (cluster : Cluster) (req : GuidedFixRequest) :
    Except String (String × RevertInfo × Cluster) :=
  let key := (req.namespace, req.resourceName)
  match req.action with
  | .deletePod =>
    match calls.write with
    | some err => .error err
    | none =>
      if cluster.pods key then
        .ok ("Pod " ++ req.namespace ++ "/" ++ req.resourceName ++ " deleted", nothingToRevert,
          { cluster with pods := Function.update cluster.pods key false })
      else .error (notFound "pods" req.resourceName)
  | .deleteJob =>
    match calls.write with
    | some err => .error err
    | none =>
      if cluster.jobs key then
        .ok ("Job " ++ req.namespace ++ "/" ++ req.resourceName ++ " deleted", nothingToRevert,
          { cluster with jobs := Function.update cluster.jobs key false })
      else .error (notFound "jobs" req.resourceName)
  | .uncordonNode => do
    let patched ← patchNodeSchedulable calls cluster req.resourceName false
    return ("Node " ++ req.resourceName ++ " uncordoned", ⟨some .cordonNode, none⟩, patched)
  | .cordonNode => do
    let patched ← patchNodeSchedulable calls cluster req.resourceName true
    return ("Node " ++ req.resourceName ++ " cordoned", nothingToRevert, patched)
  | .scaleDeployment =>
    match req.replicas with
    | none => .error "replicas is required for scale_deployment"
    | some replicas => do
      -- A count that cannot be read is taken to be one.
      let prior := match calls.read, cluster.deployments key with
        | none, some ⟨some current, _⟩ => current
        | _, _ => 1
      let patched ← patch calls (cluster.deployments key) (notFound "deployments.apps" req.resourceName)
        fun deployment => { deployment with replicas := some replicas }
      return ("Deployment " ++ req.namespace ++ "/" ++ req.resourceName ++ " scaled to " ++ toString replicas ++ " replicas",
        ⟨some .scaleDeployment, some prior⟩,
        cluster.setDeployment key patched)
  | .restartDeployment => do
    let patched ← patch calls (cluster.deployments key) (notFound "deployments.apps" req.resourceName)
      fun deployment => { deployment with restartedAt := some now }
    return ("Deployment " ++ req.namespace ++ "/" ++ req.resourceName ++ " rollout restarted", nothingToRevert,
      cluster.setDeployment key patched)
  | .other name => .error ("unsupported action \"" ++ name ++ "\"")

inductive AuditResult where
  | success
  | failed
  deriving DecidableEq

structure AuditEntry where
  id : String
  actor : String
  action : String
  clusterID : String
  «namespace» : String
  resourceKind : String
  resourceName : String
  payload : Option GuidedFixRequest
  result : AuditResult
  error : String
  performedAt : Nat
  revertAction : Option Action
  revertPayload : Option Int32
  revertedAt : Option Nat
  revertOf : String
  deriving DecidableEq

/-- The clusters that the server reaches and the rows of its audit log. -/
structure FixState where
  clusters : String → Option Cluster
  audit : List AuditEntry

/-- Everything one request meets: the licence, its user, the API server and the
database. -/
structure FixEnv where
  paid : Bool
  role : Role
  actor : String
  calls : Calls
  loads : Bool
  writes : Bool
  marks : Bool
  newID : String
  now : Nat

def writeAudit (env : FixEnv) (entry : AuditEntry) (state : FixState) : FixState :=
  if env.writes then { state with audit := state.audit ++ [entry] } else state

def getAudit (id : String) (audit : List AuditEntry) : Option AuditEntry := audit.find? (·.id = id)

def markReverted (env : FixEnv) (id : String) (state : FixState) : FixState :=
  if env.marks then
    { state with audit := state.audit.map fun entry =>
        if entry.id = id then { entry with revertedAt := some env.now } else entry }
  else state

/-- `requirePaid` and `requireRole`. -/
def gate (env : FixEnv) (required : Role) : Option Response :=
  if !env.paid then some upgradeRequired
  else if !env.role.atLeast required then some roleForbidden
  else none

/-- A cluster after an action that may have failed. -/
def applied (state : FixState) (cluster : String) (outcome : Except String (String × RevertInfo × Cluster)) : FixState :=
  match outcome with
  | .ok (_, _, changed) => { state with clusters := Function.update state.clusters cluster (some changed) }
  | .error _ => state

/-- The audit entry of a guided fix. Only a success can be reverted. -/
def fixEntry (env : FixEnv) (req : GuidedFixRequest) (outcome : Except String (String × RevertInfo × Cluster)) :
    AuditEntry where
  id := env.newID
  actor := env.actor
  action := req.action.name
  clusterID := req.cluster
  «namespace» := req.namespace
  resourceKind := kindForAction req.action
  resourceName := req.resourceName
  payload := some req
  result := if outcome.toBool then .success else .failed
  error := match outcome with
    | .error err => err
    | .ok _ => ""
  performedAt := env.now
  revertAction := match outcome with
    | .error _ => none
    | .ok (_, revert, _) => revert.action
  revertPayload := match outcome with
    | .error _ => none
    | .ok (_, revert, _) => revert.payload
  revertedAt := none
  revertOf := ""

/-- `GuidedFix`. A body that cannot be decoded is `none`. -/
def guidedFix (env : FixEnv) (state : FixState) (body : Option GuidedFixRequest) : FixState × Response :=
  match gate env .operator with
  | some response => (state, response)
  | none =>
    match body with
    | none => (state, errorResponse 400 "invalid request body")
    | some req =>
      if !req.confirmed then (state, errorResponse 400 "action must be explicitly confirmed")
      else if !allowedGuidedFixActions req.action then (state, errorResponse 403 "action is not permitted as a guided fix")
      else match state.clusters req.cluster with
        | none => (state, errorResponse 404 "cluster not found")
        | some cluster =>
          let outcome := executeGuidedFix env.calls env.now cluster req
          let recorded := writeAudit env (fixEntry env req outcome) (applied state req.cluster outcome)
          match outcome with
          | .error err => (recorded, ⟨422, err⟩)
          | .ok (message, _, _) => (recorded, ⟨200, message⟩)

structure RevertRequest where
  auditID : String
  confirmed : Bool
  deriving DecidableEq

/-- The inverse action of an audit entry. -/
def revertOf (orig : AuditEntry) (action : Action) : GuidedFixRequest where
  cluster := orig.clusterID
  action
  «namespace» := orig.namespace
  resourceName := orig.resourceName
  confirmed := true
  force := false
  replicas := if action = .scaleDeployment then orig.revertPayload else none

/-- The first part of `RevertGuidedFix`: everything it checks before it acts. -/
def checkRevert (env : FixEnv) (state : FixState) (body : Option RevertRequest) :
    Except Response (AuditEntry × GuidedFixRequest) :=
  match gate env .operator with
  | some response => .error response
  | none =>
    match body with
    | none => .error (errorResponse 400 "invalid request body")
    | some req =>
      if !req.confirmed then .error (errorResponse 400 "revert must be explicitly confirmed")
      else if !env.loads then .error (errorResponse 500 "could not load audit entry")
      else match getAudit req.auditID state.audit with
        | none => .error (errorResponse 404 "audit entry not found")
        | some orig =>
          match orig.result, orig.revertAction with
          | .success, some action =>
            if orig.revertedAt.isSome then .error (errorResponse 409 "this action has already been reverted")
            else if (state.clusters orig.clusterID).isNone then .error (errorResponse 404 "cluster not found")
            else .ok (orig, revertOf orig action)
          | _, _ => .error (errorResponse 422 "this action cannot be reverted")

/-- The second part: the inverse action. -/
def performRevert (env : FixEnv) (state : FixState) (req : GuidedFixRequest) : FixState × Except String String :=
  match state.clusters req.cluster with
  | none => (state, .error "cluster not found")
  | some cluster =>
    let outcome := executeGuidedFix env.calls env.now cluster req
    (applied state req.cluster outcome, outcome.map (·.1))

/-- The third part: the audit entry of the revert itself. -/
def logRevert (env : FixEnv) (orig : AuditEntry) (outcome : Except String String) (state : FixState) : FixState :=
  writeAudit env {
    id := env.newID
    actor := env.actor
    action := "revert_" ++ orig.action
    clusterID := orig.clusterID
    «namespace» := orig.namespace
    resourceKind := orig.resourceKind
    resourceName := orig.resourceName
    payload := none
    result := if outcome.toBool then .success else .failed
    error := match outcome with
      | .error err => err
      | .ok _ => ""
    performedAt := env.now
    revertAction := none
    revertPayload := none
    revertedAt := none
    revertOf := orig.id } state

/-- `RevertGuidedFix` with its parts one after another. -/
def revertGuidedFix (env : FixEnv) (state : FixState) (body : Option RevertRequest) : FixState × Response :=
  match checkRevert env state body with
  | .error response => (state, response)
  | .ok (orig, req) =>
    let (performed, outcome) := performRevert env state req
    let logged := logRevert env orig outcome performed
    match outcome with
    | .error err => (logged, ⟨422, err⟩)
    | .ok message => (markReverted env orig.id logged, ⟨200, message⟩)

theorem gate_status {env : FixEnv} {required : Role} {response : Response} (refused : gate env required = some response) :
    response.status ≠ 200 := by
  unfold gate at refused
  split at refused
  next => cases refused; decide
  next =>
    split at refused
    next => cases refused; decide
    next => cases refused

theorem gate_open {env : FixEnv} {required : Role} (paid : env.paid = true) (role : env.role.atLeast required = true) :
    gate env required = none := by
  simp [gate, paid, role]

theorem guidedFix_success {env : FixEnv} {state : FixState} {req : GuidedFixRequest}
    (succeeded : (guidedFix env state (some req)).2.status = 200) :
    ∃ cluster message revert changed, state.clusters req.cluster = some cluster ∧
      executeGuidedFix env.calls env.now cluster req = .ok (message, revert, changed) ∧
      (guidedFix env state (some req)).1 = writeAudit env (fixEntry env req (.ok (message, revert, changed)))
        { state with clusters := Function.update state.clusters req.cluster (some changed) } := by
  unfold guidedFix at *
  split at succeeded
  next response refused => exact absurd succeeded (gate_status refused)
  next open' =>
    simp only at succeeded ⊢
    by_cases confirmed : req.confirmed = true
    · by_cases allowed : allowedGuidedFixActions req.action = true
      · simp only [confirmed, allowed, Bool.not_true, Bool.false_eq_true, if_false] at succeeded ⊢
        cases reached : state.clusters req.cluster with
        | none => simp [reached, errorResponse] at succeeded
        | some cluster =>
          simp only [reached] at succeeded ⊢
          cases outcome : executeGuidedFix env.calls env.now cluster req with
          | error err => simp [outcome] at succeeded
          | ok done => exact ⟨cluster, done.1, done.2.1, done.2.2, rfl, outcome, rfl⟩
      · simp [confirmed, allowed, errorResponse] at succeeded
    · simp [confirmed, errorResponse] at succeeded

theorem bind_ok {ε α β : Type} {first : Except ε α} {next : α → Except ε β} {last : β} :
    first >>= next = .ok last ↔ ∃ middle, first = .ok middle ∧ next middle = .ok last := by
  cases first <;> simp [bind, Except.bind]

theorem patch_ok {α : Type} {calls : Calls} {object : Option α} {missing : String} {change : α → α} {patched : α} :
    patch calls object missing change = .ok patched ↔
      calls.write = none ∧ ∃ found, object = some found ∧ patched = change found := by
  unfold patch
  cases calls.write <;> cases object <;> simp [eq_comm]

theorem execute_reversible {calls : Calls} {now : Nat} {cluster changed : Cluster} {req : GuidedFixRequest}
    {message : String} {revert : RevertInfo} {action : Action}
    (executed : executeGuidedFix calls now cluster req = .ok (message, revert, changed))
    (reversible : revert.action = some action) :
    (req.action = .uncordonNode ∧ action = .cordonNode ∧ ∃ node, cluster.nodes req.resourceName = some node ∧
      changed = cluster.setNode req.resourceName ⟨false⟩) ∨
    (req.action = .scaleDeployment ∧ action = .scaleDeployment ∧ ∃ deployment replicas,
      cluster.deployments (req.namespace, req.resourceName) = some deployment ∧
      revert.payload = some (if calls.read = none then deployment.replicas.getD 1 else 1) ∧
      changed = cluster.setDeployment (req.namespace, req.resourceName) { deployment with replicas := some replicas }) := by
  cases named : req.action with
  | uncordonNode =>
    simp only [executeGuidedFix, named, patchNodeSchedulable, bind_ok, patch_ok] at executed
    obtain ⟨_, ⟨_, ⟨_, node, found, rfl⟩, made⟩, rest⟩ := executed
    cases made
    cases rest
    cases reversible
    exact Or.inl ⟨rfl, rfl, node, found, rfl⟩
  | scaleDeployment =>
    cases wanted : req.replicas with
    | none => simp [executeGuidedFix, named, wanted] at executed
    | some replicas =>
      simp only [executeGuidedFix, named, wanted, bind_ok, patch_ok] at executed
      obtain ⟨_, ⟨_, deployment, found, rfl⟩, rest⟩ := executed
      cases rest
      cases reversible
      refine Or.inr ⟨rfl, rfl, deployment, replicas, found, ?_, rfl⟩
      obtain ⟨prior, restartedAt⟩ := deployment
      cases calls.read <;> cases prior <;> simp [found]
  | cordonNode =>
    simp only [executeGuidedFix, named, bind_ok] at executed
    obtain ⟨_, _, rest⟩ := executed
    cases rest
    cases reversible
  | restartDeployment =>
    simp only [executeGuidedFix, named, bind_ok] at executed
    obtain ⟨_, _, rest⟩ := executed
    cases rest
    cases reversible
  | deletePod =>
    simp only [executeGuidedFix, named] at executed
    split at executed
    next => cases executed
    next =>
      split at executed
      next => cases executed; cases reversible
      next => cases executed
  | deleteJob =>
    simp only [executeGuidedFix, named] at executed
    split at executed
    next => cases executed
    next =>
      split at executed
      next => cases executed; cases reversible
      next => cases executed
  | other name => simp [executeGuidedFix, named] at executed

end K8Sense.Doctor
