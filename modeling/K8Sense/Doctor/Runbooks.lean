import K8Sense.Doctor.Catalog

/-! Jobs that the server starts in a cluster: Ansible runbooks, for which a runner
is set up first, and vulnerability scans of the images that run there. -/

namespace K8Sense.Doctor.Api

def runbookNamespace : String := "k8sense-runbooks"

def runnerSAName : String := "k8sense-runner"

def runnerRoleName : String := "k8sense-runner"

def defaultRunnerImage : String := "quay.io/ansible/ansible-runner:latest"

def vulnNamespace : String := "k8sense-vulnscan"

def defaultTrivyImage : String := "aquasec/trivy:latest"

def maxScanImages : Nat := 60

def jobTTLSeconds : Nat := 3600

def managedBy : String × String := ("app.kubernetes.io/managed-by", "k8sense")

structure RunbookVar where
  name : String
  label : String
  required : Bool
  default : String
  deriving DecidableEq

structure RunbookTemplate where
  id : String
  vars : List RunbookVar
  deriving DecidableEq

def runbookTemplates : List RunbookTemplate := [
  ⟨"namespace-onboarding", [⟨"target_namespace", "Namespace", true, ""⟩, ⟨"cpu_quota", "CPU quota (cores)", false, "8"⟩,
    ⟨"mem_quota", "Memory quota", false, "16Gi"⟩]⟩,
  ⟨"default-deny-netpol", [⟨"target_namespace", "Namespace", true, ""⟩]⟩,
  ⟨"rollout-restart", [⟨"target_namespace", "Namespace", true, ""⟩, ⟨"deployment", "Deployment", true, ""⟩]⟩,
  ⟨"scale-deployment", [⟨"target_namespace", "Namespace", true, ""⟩, ⟨"deployment", "Deployment", true, ""⟩,
    ⟨"replicas", "Replicas", true, "1"⟩]⟩]

def findRunbook (id : String) : Option RunbookTemplate := runbookTemplates.find? fun template => template.id = id

def runbookError (context err : String) : Response := ⟨502, jsonObject [("error", (context ++ ": " ++ err).quote)]⟩

def runnerRules : List PolicyRule := [
  ⟨[""], ["namespaces", "resourcequotas", "limitranges", "configmaps", "serviceaccounts", "services", "pods"],
    ["get", "list", "watch", "create", "update", "patch", "delete"]⟩,
  ⟨["apps"], ["deployments", "statefulsets", "daemonsets"], ["get", "list", "watch", "update", "patch"]⟩,
  ⟨["networking.k8s.io"], ["networkpolicies"], ["get", "list", "create", "update", "patch", "delete"]⟩,
  ⟨["rbac.authorization.k8s.io"], ["roles", "rolebindings"], ["get", "list", "create", "update", "patch", "delete"]⟩]

/-- What `bootstrapRunner` creates, in this order. -/
def runnerObjects : List Object := [
  ⟨"", runbookNamespace, [managedBy], .namespace⟩,
  ⟨runbookNamespace, runnerSAName, [managedBy], .serviceAccount⟩,
  ⟨"", runnerRoleName, [managedBy], .clusterRole runnerRules⟩,
  ⟨"", runnerRoleName, [managedBy], .clusterRoleBinding runnerRoleName runnerSAName runbookNamespace⟩]

def lookupVar (name : String) (vars : List (String × String)) : String := (vars.lookup name).getD ""

def setVar (name content : String) (vars : List (String × String)) : List (String × String) :=
  vars.filter (fun entry => entry.1 ≠ name) ++ [(name, content)]

/-- What is left blank is an error if it is required, and else takes its default. -/
def fillVars : List RunbookVar → List (String × String) → Except Response (List (String × String))
  | [], vars => .ok vars
  | var :: rest, vars =>
    if Text.trimSpace (lookupVar var.name vars) = "" then
      if var.required then .error (jsonError 400 (var.label ++ " is required."))
      else fillVars rest (if var.default = "" then vars else setVar var.name var.default vars)
    else fillVars rest vars

/-- At most 63 characters, as Kubernetes names have. -/
def jobName (template : RunbookTemplate) (now : Nat) : String :=
  String.ofList (("k8sense-rb-" ++ template.id ++ "-" ++ toString now).toList.take 63)

def runnerJob (name image : String) (check : Bool) (labels : List (String × String)) : Object :=
  let command := ["ansible-playbook", "/work/playbook.yml", "-i", "localhost,", "-e", "@/work/extravars.json"]
  ⟨runbookNamespace, name, labels, .job image (if check then command ++ ["--check"] else command) [] runnerSAName
    jobTTLSeconds⟩

def trivyScript : String :=
  "while IFS= read -r img; do [ -z \"$img\" ] && continue; echo \"@@IMAGE $img\"; " ++
  "trivy image --quiet --scanners vuln --format json \"$img\" 2>/dev/null || echo '\x7b\"__scan_error__\":true\x7d'; " ++
  "echo \"@@END\"; done < /work/images.txt"

def trivyJob (name : String) (config : VulnConfig) (labels : List (String × String)) : Object :=
  ⟨vulnNamespace, name, labels, .job config.image ["sh", "-c", trivyScript]
    (if config.dbRepository = "" then [] else [("TRIVY_DB_REPOSITORY", config.dbRepository)]) "" jobTTLSeconds⟩

/-- The distinct images of the pods of all namespaces. -/
def imageNames (pods : List (String × List String)) : List String :=
  (((pods.flatMap Prod.snd).filter fun image => image ≠ "").eraseDups).mergeSort fun image other => image ≤ other

/-- `gatherImages`: each image with the namespaces it runs in. -/
def gatherImages (pods : List (String × List String)) : List (String × List String) :=
  (imageNames pods).map fun image =>
    (image, (((pods.filter fun pod => pod.2.contains image).map Prod.fst).eraseDups).mergeSort fun first second =>
      first ≤ second)

section
variable (env : Env) (state : State)

/-- The saved image, or the one of the environment, or the default. -/
def runnerImage : String :=
  match state.config.runbooks.filter fun image => Text.trimSpace image ≠ "" with
  | some image => Text.trimSpace image
  | none =>
    if Text.trimSpace env.runbookImage ≠ "" then Text.trimSpace env.runbookImage
    else resolveImage env state defaultRunnerImage

/-- Here the environment comes before the saved image, but not before the saved
database. -/
def trivyConfig : VulnConfig :=
  let stored := (state.config.vulnScan.map fun config =>
    VulnConfig.mk (Text.trimSpace config.image) (Text.trimSpace config.dbRepository)).getD ⟨"", ""⟩
  let registry := internalRegistry env state
  let image := if Text.trimSpace env.trivyImage ≠ "" then Text.trimSpace env.trivyImage else stored.image
  let database := if stored.dbRepository = "" then Text.trimSpace env.trivyDB else stored.dbRepository
  ⟨if image = "" then rewriteImage defaultTrivyImage registry else image,
    if database = "" && registry ≠ "" then registry ++ "/aquasecurity/trivy-db" else database⟩

def enableRunbooks (body : Option String) : State × Response :=
  match body with
  | none => (state, jsonError 400 "invalid request body")
  | some cluster =>
    match state.clusters cluster with
    | none => (state, clusterNotFound cluster)
    | some kube =>
      let bootstrapped := createAll env.refuses runnerObjects kube
      (state.setCluster cluster bootstrapped.1, match bootstrapped.2 with
        | some err => runbookError
            "enabling Runbooks (does your account have permission to create namespaces and RBAC?)" err
        | none => writeJSON [("enabled", "true"), ("airGapped", toString env.airGapped),
            ("runnerImage", (runnerImage env state).quote), ("namespace", runbookNamespace.quote)])

/-- A ConfigMap and the Job that reads it. -/
def launch (cluster : String) (kube : Kube) (configMap job : Object) (creating starting : String) (done : Response) :
    State × Response :=
  match create env.refuses configMap kube with
  | (same, some err) => (state.setCluster cluster same, runbookError creating err.text)
  | (next, none) =>
    match create env.refuses job next with
    | (same, some err) => (state.setCluster cluster same, runbookError starting err.text)
    | (last, none) => (state.setCluster cluster last, done)

/-- What `RunRunbook` checks before it touches the cluster. -/
def checkRunbook (body : Option RunRunbookRequest) :
    Except Response (RunRunbookRequest × RunbookTemplate × List (String × String) × Kube) :=
  match body with
  | none => .error (jsonError 400 "invalid request body")
  | some req =>
    match findRunbook req.runbookID with
    | none => .error (jsonError 404 "unknown runbook")
    | some template =>
      match fillVars template.vars req.vars with
      | .error response => .error response
      | .ok vars =>
        match state.clusters req.cluster with
        | none => .error (clusterNotFound req.cluster)
        | some kube => .ok (req, template, vars, kube)

def runbookLabels (template : RunbookTemplate) : List (String × String) := [managedBy, ("k8sense.io/runbook", template.id)]

/-- The ConfigMap of a run, with the time of the run among its variables. -/
def playbookMap (template : RunbookTemplate) (vars : List (String × String)) : Object :=
  ⟨runbookNamespace, jobName template env.now, runbookLabels template,
    .playbook template.id (setVar "run_stamp" (toString env.now) vars)⟩

def runRunbook (body : Option RunRunbookRequest) : State × Response :=
  match checkRunbook state body with
  | .error response => (state, response)
  | .ok (req, template, vars, kube) =>
    let name := jobName template env.now
    launch env state req.cluster kube (playbookMap env template vars)
      (runnerJob name (runnerImage env state) req.check (runbookLabels template))
      "creating the run (is Runbooks enabled on this cluster?)" "starting the runner Job"
      (writeJSON [("namespace", runbookNamespace.quote), ("runId", name.quote)])

def setRunbooksConfig (body : Option String) : State × Response :=
  match body with
  | none => (state, jsonError 400 "invalid request body")
  | some image =>
    if Text.trimSpace image = "" then (state, jsonError 400 "a runner image is required")
    else match env.files .runbooks with
    | some err => (state, runbookError "saving the runner image" err)
    | none =>
      let next := { state with config := { state.config with runbooks := some (Text.trimSpace image) } }
      (next, writeJSON [("image", (runnerImage env next).quote)])

def setVulnScanConfig (body : Option VulnConfig) : State × Response :=
  match body with
  | none => (state, jsonError 400 "invalid request body")
  | some req =>
    if Text.trimSpace req.image = "" then (state, jsonError 400 "a Trivy image is required")
    else match env.files .vulnScan with
    | some err => (state, runbookError "saving the scanner config" err)
    | none =>
      let next := { state with config := { state.config with
        vulnScan := some ⟨Text.trimSpace req.image, Text.trimSpace req.dbRepository⟩ } }
      (next, writeJSON [("airGapped", toString env.airGapped), ("dbRepository", (trivyConfig env next).dbRepository.quote),
        ("image", (trivyConfig env next).image.quote)])

/-- What `RunVulnScan` checks before it touches the cluster. -/
def checkVulnScan (body : Option String) : Except Response (String × Kube × List (String × List String)) :=
  match body with
  | none => .error (jsonError 400 "invalid request body")
  | some cluster =>
    match state.clusters cluster with
    | none => .error (clusterNotFound cluster)
    | some kube =>
      match env.pods cluster with
      | .error err => .error (runbookError "listing running images" err)
      | .ok pods =>
        if imageNames pods = [] then .error (jsonError 400 "No running images found to scan.")
        else .ok (cluster, kube, pods)

def vulnLabels : List (String × String) := [managedBy, ("k8sense.io/vulnscan", "true")]

def vulnNamespaceObject : Object := ⟨"", vulnNamespace, [managedBy], .namespace⟩

def vulnRunID : String := "k8sense-vuln-" ++ toString env.now

def imagesMap (pods : List (String × List String)) : Object :=
  ⟨vulnNamespace, vulnRunID env, vulnLabels, .images ((imageNames pods).take maxScanImages) (gatherImages pods)⟩

def runVulnScan (body : Option String) : State × Response :=
  match checkVulnScan env state body with
  | .error response => (state, response)
  | .ok (cluster, kube, pods) =>
    match createIgnoreExists env.refuses vulnNamespaceObject kube with
    | (same, some err) =>
      (state.setCluster cluster same, runbookError "creating the scan namespace (do you have permission?)" err)
    | (ready, none) =>
      launch env state cluster ready (imagesMap env pods) (trivyJob (vulnRunID env) (trivyConfig env state) vulnLabels)
        "creating the scan" "starting the Trivy Job"
        (writeJSON [("imageCount", toString ((imageNames pods).take maxScanImages).length), ("runId", (vulnRunID env).quote)])

end

variable {env : Env} {state : State}

theorem launch_cluster (env : Env) (state : State) (cluster : String) (kube : Kube) (configMap job : Object) (creating starting : String)
    (done : Response) : ∃ last, (launch env state cluster kube configMap job creating starting done).1 =
      state.setCluster cluster last ∧
        (last = kube ∧ ((env.refuses configMap).isSome = true ∨ kube.holds configMap = true) ∨
          kube.objects.length < last.objects.length ∧ (env.refuses configMap).isSome = false ∧
            kube.holds configMap = false) := by
  unfold launch
  cases made : create env.refuses configMap kube with
  | mk next err =>
    cases err with
    | some err =>
      have kept := create_failed (congrArg Prod.snd made)
      have stuck := create_unchanged.mp kept
      rw [made] at kept
      exact ⟨next, rfl, Or.inl ⟨kept, stuck⟩⟩
    | none =>
      obtain ⟨free, absent, longer⟩ := create_done (congrArg Prod.snd made)
      rw [made] at longer
      have grown := create_grows env.refuses job next
      have created := Nat.lt_of_lt_of_le longer grown
      cases second : create env.refuses job next with
      | mk last failure =>
        rw [second] at created
        cases failure with
        | some failure => exact ⟨last, by simp only [second], Or.inr ⟨created, free, absent⟩⟩
        | none => exact ⟨last, by simp only [second], Or.inr ⟨created, free, absent⟩⟩

theorem checkRunbook_ok {body : Option RunRunbookRequest} {req : RunRunbookRequest} {template : RunbookTemplate}
    {vars : List (String × String)} {kube : Kube} : checkRunbook state body = .ok (req, template, vars, kube) ↔
      body = some req ∧ findRunbook req.runbookID = some template ∧ fillVars template.vars req.vars = .ok vars ∧
        state.clusters req.cluster = some kube := by
  unfold checkRunbook
  constructor
  · intro passed
    split at passed
    next => cases passed
    next =>
      split at passed
      next => cases passed
      next found =>
        split at passed
        next => cases passed
        next filled =>
          split at passed
          next => cases passed
          next reached =>
            cases passed
            exact ⟨rfl, found, filled, reached⟩
  · rintro ⟨rfl, found, filled, reached⟩
    simp only [found, filled, reached]

theorem checkVulnScan_ok {body : Option String} {cluster : String} {kube : Kube} {pods : List (String × List String)} :
    checkVulnScan env state body = .ok (cluster, kube, pods) ↔
      body = some cluster ∧ state.clusters cluster = some kube ∧ env.pods cluster = .ok pods ∧ imageNames pods ≠ [] := by
  unfold checkVulnScan
  constructor
  · intro passed
    split at passed
    next => cases passed
    next =>
      split at passed
      next => cases passed
      next reached =>
        split at passed
        next => cases passed
        next listed =>
          split at passed
          next => cases passed
          next images =>
            cases passed
            exact ⟨rfl, reached, listed, images⟩
  · rintro ⟨rfl, reached, listed, images⟩
    simp only [reached, listed, images, if_false]

end K8Sense.Doctor.Api
