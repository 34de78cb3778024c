import K8Sense.Library.Transition
import K8Sense.Cache.Expiring

/-! What is told of Helm actions while they run in the background and afterwards. -/

namespace K8Sense.Helm
open Cache Transition

inductive Action where
  | install
  | upgrade
  | rollback
  | uninstall
  deriving DecidableEq

def Action.name : Action → String
  | .install => "install"
  | .upgrade => "upgrade"
  | .rollback => "rollback"
  | .uninstall => "uninstall"

inductive Status where
  | processing
  | success
  | failed
  deriving DecidableEq

/-- A status, with an error exactly if it is a failure. -/
structure Stat where
  status : Status
  err : Option String
  told : err.isSome = true ↔ status = .failed
  deriving DecidableEq

def Stat.processing : Stat := ⟨.processing, none, by decide⟩

def Stat.success : Stat := ⟨.success, none, by decide⟩

def Stat.failed (err : String) : Stat := ⟨.failed, some err, by simp⟩

def statusCacheTimeout : Nat := 20 * 60 * 1000000000

def statusKey (actionName releaseName : String) : String := "helm_" ++ actionName ++ "_" ++ releaseName

def getReleaseStatus (actionName releaseName : String) (now : Nat) (store : Store Stat) : Option Stat :=
  store.get (statusKey actionName releaseName) now

def setReleaseStatus (action : Action) (releaseName : String) (stat : Stat) (now : Nat) (store : Store Stat) : Store Stat :=
  store.setWithTTL (statusKey action.name releaseName) stat statusCacheTimeout now

structure Reply where
  status : Nat
  body : Except String (List (String × String))

structure CommonInstallUpdateRequest where
  name : String
  «namespace» : String
  description : String
  values : String
  chart : String
  version : String

structure InstallRequest extends CommonInstallUpdateRequest where
  createNamespace : Bool
  dependencyUpdate : Bool

inductive Request where
  | install (req : InstallRequest)
  | upgrade (req : CommonInstallUpdateRequest)
  | rollback (name «namespace» : String) (revision : Int)
  | uninstall (name «namespace» : String)

def Request.action : Request → Action
  | .install _ => .install
  | .upgrade _ => .upgrade
  | .rollback .. => .rollback
  | .uninstall .. => .uninstall

def Request.name : Request → String
  | .install req => req.name
  | .upgrade req => req.name
  | .rollback name _ _ => name
  | .uninstall name _ => name

/-- The fields that are required, an integer by its text. -/
def Request.required : Request → List String
  | .install req => [req.name, req.namespace, req.description, req.chart, req.version]
  | .upgrade req => [req.name, req.namespace, req.description, req.chart, req.version]
  | .rollback name «namespace» revision => [name, «namespace», if revision = 0 then "" else toString revision]
  | .uninstall name «namespace» => [name, «namespace»]

/-! The goroutines. -/

structure Chart where
  type : String
  hasDependencies : Bool

/-- What Helm, its files and the cluster answer to a goroutine; `none` where a step
without a result works. -/
structure Tools where
  restConfig : Option String
  client : Option String
  review : Except String String
  locateChart : String → Except String String
  load : String → Except String Chart
  checkDependencies : Chart → Option String
  update : String → Option String
  decode : String → Except String String
  unmarshal : String → Option String
  run : Option String

section
variable (tools : Tools)

def verifyUser : Bool :=
  tools.restConfig.isNone && tools.client.isNone &&
    match tools.review with
    | .error _ => false
    | .ok user => user ≠ "" && user ≠ "system:anonymous"

def getChart (reqChart : String) (dependencyUpdate : Bool) : Except String Chart :=
  match tools.locateChart reqChart with
  | .error err => .error err
  | .ok chartPath =>
    match tools.load chartPath with
    | .error err => .error err
    | .ok chart =>
      if chart.type ≠ "" ∧ chart.type ≠ "application" then .error ("chart type " ++ chart.type.quote ++ " is not installable")
      else if chart.hasDependencies && dependencyUpdate && (tools.checkDependencies chart).isSome then
        match tools.update chartPath with
        | some err => .error err
        | none => .ok chart
      else .ok chart

/-- What an action ends with that runs by itself. -/
def runStat : Stat :=
  match tools.run with
  | some err => .failed err
  | none => .success

/-- The chart, its values and then the action itself; the first error is the outcome. -/
def chartStat (req : CommonInstallUpdateRequest) (dependencyUpdate : Bool) : Stat :=
  match getChart tools req.chart dependencyUpdate with
  | .error err => .failed err
  | .ok _ =>
    match tools.decode req.values with
    | .error err => .failed err
    | .ok decoded =>
      match tools.unmarshal decoded with
      | some err => .failed err
      | none => runStat tools

/-- Where the user is not verified, nothing is told. -/
def installRelease (req : InstallRequest) : Option Stat :=
  if !verifyUser tools then none else some (chartStat tools req.toCommonInstallUpdateRequest req.dependencyUpdate)

def upgradeRelease (req : CommonInstallUpdateRequest) : Stat := chartStat tools req true

def rollbackRelease : Stat := runStat tools

def uninstallRelease : Stat := runStat tools

/-- The status that is set when the goroutine ends, if one is. -/
def Request.outcome : Request → Option Stat
  | .install req => installRelease tools req
  | .upgrade req => some (upgradeRelease tools req)
  | .rollback .. => some (rollbackRelease tools)
  | .uninstall .. => some (uninstallRelease tools)

end

/-! The handlers. -/

/-- An accepted request; `ended` is what its goroutine left, once it has ended. -/
structure Job where
  cluster : String
  request : Request
  ended : Option (Option Stat)
  final : ended ≠ some (some .processing)

structure State where
  store : Store Stat
  jobs : List Job

/-- What a request meets before it is accepted: the texts of errors, where there are
any, and the one for a release that is not found. -/
structure Env where
  now : Nat
  parseError : String
  validation : String
  actionConfig : Option String
  notFound : Option String

def accept (env : Env) (cluster : String) (body : Option Request) (state : State) : State × Reply :=
  match body with
  | none => (state, ⟨400, .error env.parseError⟩)
  | some request =>
    if "" ∈ request.required then (state, ⟨400, .error env.validation⟩)
    else
      match env.actionConfig with
      | some err => (state, ⟨500, .error err⟩)
      | none =>
        match if request.action = .install then none else env.notFound with
        | some err => (state, ⟨404, .error err⟩)
        | none =>
          (⟨setReleaseStatus request.action request.name .processing env.now state.store,
              state.jobs ++ [⟨cluster, request, none, by simp⟩]⟩,
            ⟨202, .ok [("message", request.action.name ++ " request accepted")]⟩)

structure ActionStatusRequest where
  name : String
  action : String

/-- The fields of the answer for a status. -/
def statusFields (stat : Stat) : List (String × String) :=
  match stat.status with
  | .processing => [("status", "processing")]
  | .success => [("status", "success"), ("message", "action completed successfully")]
  | .failed => [("status", "failed"), ("message", "action failed with error: " ++ stat.err.getD "unknown error")]

def reply : Option Stat → Reply
  | none => ⟨500, .error "key not found"⟩
  | some stat => ⟨202, .ok (statusFields stat)⟩

def getActionStatus (validation : String) (request : ActionStatusRequest) (now : Nat) (store : Store Stat) : Reply :=
  if request.name = "" ∨ request.action = "" then ⟨400, .error validation⟩
  else if request.action ∉ ["install", "upgrade", "uninstall", "rollback"] then ⟨400, .error "invalid action"⟩
  else reply (getReleaseStatus request.action request.name now store)

inductive Event where
  | request (env : Env) (cluster : String) (body : Option Request)
  | ends (index : Nat) (now : Nat) (tools : Tools)

theorem runStat_cases (tools : Tools) : runStat tools = .success ∨ ∃ err, runStat tools = .failed err := by
  unfold runStat
  cases tools.run with
  | none => exact Or.inl rfl
  | some err => exact Or.inr ⟨err, rfl⟩

theorem chartStat_cases (tools : Tools) (req : CommonInstallUpdateRequest) (dependencyUpdate : Bool) :
    chartStat tools req dependencyUpdate = .success ∨ ∃ err, chartStat tools req dependencyUpdate = .failed err := by
  unfold chartStat
  split
  next err _ => exact Or.inr ⟨err, rfl⟩
  next =>
    split
    next err _ => exact Or.inr ⟨err, rfl⟩
    next =>
      split
      next err _ => exact Or.inr ⟨err, rfl⟩
      next => exact runStat_cases tools

theorem outcome_final {tools : Tools} {request : Request} : request.outcome tools ≠ some .processing := by
  have final {stat : Stat} (cases : stat = .success ∨ ∃ err, stat = .failed err) : stat ≠ .processing := by
    rcases cases with rfl | ⟨err, rfl⟩
    · decide
    · simp [Stat.failed, Stat.processing]
  cases request with
  | install req =>
    rw [Request.outcome, installRelease]
    split
    next => simp
    next => exact fun same => final (chartStat_cases _ _ _) (Option.some.inj same)
  | upgrade req => exact fun same => final (chartStat_cases _ _ _) (Option.some.inj same)
  | rollback name «namespace» revision => exact fun same => final (runStat_cases _) (Option.some.inj same)
  | uninstall name «namespace» => exact fun same => final (runStat_cases _) (Option.some.inj same)

/-- The status that a goroutine leaves, if it sets one. -/
def leave (request : Request) (outcome : Option Stat) (now : Nat) (store : Store Stat) : Store Stat :=
  match outcome with
  | none => store
  | some stat => setReleaseStatus request.action request.name stat now store

def step (state : State) : Event → Option State
  | .request env cluster body => some (accept env cluster body state).1
  | .ends index now tools =>
    match state.jobs[index]? with
    | none => none
    | some job =>
      if job.ended ≠ none then none
      else some ⟨leave job.request (job.request.outcome tools) now state.store, state.jobs.set index
        ⟨job.cluster, job.request, some (job.request.outcome tools), fun same => outcome_final (Option.some.inj same)⟩⟩

end K8Sense.Helm
