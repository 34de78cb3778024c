import K8Sense.Doctor.ApiServer

/-! The app catalog: a fixed set of charts that Helm installs into a cluster and
removes again, from bundled files or from their repositories. The internal
registry that images come from is set here too. -/

namespace K8Sense.Doctor.Api

/-- `json.Encoder` over an object, whose values are JSON already. -/
def jsonObject (fields : List (String × String)) : String :=
  "\x7b" ++ Text.join ',' (fields.map fun field => field.1.quote ++ ":" ++ field.2) ++ "\x7d"

def writeJSON (fields : List (String × String)) : Response := ⟨200, jsonObject fields⟩

def writeOK : Response := writeJSON [("result", "ok".quote)]

@[simp] theorem writeJSON_status (fields : List (String × String)) : (writeJSON fields).status = 200 := rfl

@[simp] theorem writeOK_status : writeOK.status = 200 := rfl

def clusterNotFound (cluster : String) : Response :=
  ⟨404, jsonObject [("error", ("Cluster " ++ cluster.quote ++
    " isn't connected to this backend. Select or re-add it in the cluster list, then try again.").quote)]⟩

def catalogError (context err : String) : Response :=
  ⟨502, jsonObject [("result", "failed".quote), ("message", (context ++ ": " ++ err).quote)]⟩

structure CatalogApp where
  id : String
  name : String
  «namespace» : String
  repoURL : String
  chart : String
  releaseName : String
  version : String
  values : List (String × Value)

def catalogApps : List CatalogApp := [
  { id := "kube-prometheus-stack", name := "Prometheus & Grafana", «namespace» := "monitoring"
    repoURL := "https://prometheus-community.github.io/helm-charts", chart := "kube-prometheus-stack"
    releaseName := "kube-prometheus-stack", version := "", values := [] },
  { id := "grafana", name := "Grafana", «namespace» := "monitoring"
    repoURL := "https://grafana.github.io/helm-charts", chart := "grafana"
    releaseName := "grafana", version := "", values := [] },
  { id := "loki", name := "Loki (logs)", «namespace» := "logging"
    repoURL := "https://grafana.github.io/helm-charts", chart := "loki-stack"
    releaseName := "loki", version := "", values := [("grafana", .group [("enabled", .flag false)])] },
  { id := "metrics-server", name := "Metrics Server", «namespace» := "kube-system"
    repoURL := "https://kubernetes-sigs.github.io/metrics-server/", chart := "metrics-server"
    releaseName := "metrics-server", version := "", values := [("args", .texts ["--kubelet-insecure-tls"])] },
  { id := "cert-manager", name := "cert-manager", «namespace» := "cert-manager"
    repoURL := "https://charts.jetstack.io", chart := "cert-manager"
    releaseName := "cert-manager", version := "", values := [("crds", .group [("enabled", .flag true)])] },
  { id := "ingress-nginx", name := "Ingress NGINX", «namespace» := "ingress-nginx"
    repoURL := "https://kubernetes.github.io/ingress-nginx", chart := "ingress-nginx"
    releaseName := "ingress-nginx", version := "", values := [] },
  { id := "velero", name := "Velero (backup)", «namespace» := "velero"
    repoURL := "https://vmware-tanzu.github.io/helm-charts", chart := "velero"
    releaseName := "velero", version := ""
    values := [("credentials", .group [("useSecret", .flag false)]), ("snapshotsEnabled", .flag false),
      ("backupsEnabled", .flag false), ("deployNodeAgent", .flag false)] }]

def findCatalogApp (id : String) : Option CatalogApp := catalogApps.find? fun app => app.id = id

/-- `findLocalChart`, over the names in the directory of bundled charts. -/
def findLocalChart (charts : List String) (chart : String) : Option String :=
  let bundled := charts.filter fun file => (chart ++ "-").toList.isPrefixOf file.toList &&
    ".tgz".toList.isSuffixOf (file.toList.drop (chart ++ "-").length)
  (bundled.mergeSort fun file other => file ≤ other).getLast?

def internalRegistry (env : Env) (state : State) : String :=
  match state.config.registry.filter fun registry => Text.trimSpace registry ≠ "" with
  | some registry => Text.trimSpace registry
  | none => Text.trimSpace env.internalRegistry

/-- The first segment is a host only if it holds a dot or a colon, or is `localhost`. -/
def splitRegistry (ref : String) : String × String :=
  match ref.toList.span (· ≠ '/') with
  | (_, []) => ("", ref)
  | (first, _ :: rest) =>
    if first.contains '.' || first.contains ':' || first = "localhost".toList then
      (String.ofList first, String.ofList rest)
    else ("", ref)

def rewriteImage (ref registry : String) : String :=
  let registry := Text.trim '/' (Text.trimSpace registry)
  if registry = "" || Text.trimSpace ref = "" then ref
  else if (registry ++ "/").toList.isPrefixOf ref.toList then ref
  else registry ++ "/" ++ (splitRegistry ref).2

def resolveImage (env : Env) (state : State) (ref : String) : String := rewriteImage ref (internalRegistry env state)

/-- The group under `global` gets the registry, whatever else it holds. -/
def chartValues (registry : String) (values : List (String × Value)) : List (String × Value) :=
  if registry = "" then values
  else
    let global := match values.lookup "global" with
      | some (.group entries) => entries.filter fun entry => entry.1 ≠ "imageRegistry"
      | _ => []
    (values.filter fun entry => entry.1 ≠ "global") ++ [("global", .group (global ++ [("imageRegistry", .text registry)]))]

/-- `clusterClientConfig`. -/
def clusterClientConfig (env : Env) (state : State) (cluster : String) : Option Kube :=
  if !env.clientConfig || cluster = "" then none else state.clusters cluster

section
variable (env : Env) (state : State)

def catalogAction (body : Option CatalogActionRequest) : Except Response (String × CatalogApp × Kube) :=
  match body with
  | none => .error (jsonError 400 "invalid request body")
  | some req =>
    match findCatalogApp req.appID with
    | none => .error (jsonError 404 "unknown app")
    | some app =>
      match clusterClientConfig env state req.cluster with
      | none => .error (clusterNotFound req.cluster)
      | some kube =>
        match env.helm.initialise with
        | some err => .error (catalogError "initialising Helm" err)
        | none => .ok (req.cluster, app, kube)

/-- A bundled chart, or else one from the repository, that can be loaded. -/
def loadChart (app : CatalogApp) : Except Response String :=
  let located : Except String String := match findLocalChart env.charts app.chart with
    | some file => .ok file
    | none => env.helm.locateChart app.repoURL app.chart app.version
  match located with
  | .error err => .error (catalogError ("locating chart — no bundled copy and the chart repo is unreachable " ++
      "(air-gapped? bundle the chart or set an internal registry)") err)
  | .ok path =>
    match env.helm.load path with
    | some err => .error (catalogError "loading chart" err)
    | none => .ok path

def installOf (app : CatalogApp) (chartPath : String) : Install where
  releaseName := app.releaseName
  «namespace» := app.namespace
  chartPath
  values := chartValues (internalRegistry env state) app.values

/-- What Helm did to the cluster, and its answer. -/
def helmRan (cluster context message : String) (result : Kube × Option String) : State × Response :=
  (state.setCluster cluster result.1, match result.2 with
    | some err => catalogError context err
    | none => writeJSON [("result", "success".quote), ("message", message.quote)])

def installApp (body : Option CatalogActionRequest) : State × Response :=
  match catalogAction env state body with
  | .error response => (state, response)
  | .ok (cluster, app, kube) =>
    match loadChart env app with
    | .error response => (state, response)
    | .ok chartPath =>
      helmRan state cluster ("installing " ++ app.name)
        (app.name ++ " is installing into namespace " ++ app.namespace.quote ++ ".")
        (env.helm.install (installOf env state app chartPath) kube)

def uninstallApp (body : Option CatalogActionRequest) : State × Response :=
  match catalogAction env state body with
  | .error response => (state, response)
  | .ok (cluster, app, kube) =>
    helmRan state cluster ("uninstalling " ++ app.name) (app.name ++ " and its pods have been removed.")
      (env.helm.uninstall app.namespace app.releaseName kube)

/-- The scheme and slashes around are dropped. -/
def normaliseRegistry (registry : String) : String :=
  Text.trim '/' (Text.trimPrefix "http://" (Text.trimPrefix "https://" (Text.trimSpace registry)))

def setRegistry (body : Option String) : State × Response :=
  match body with
  | none => (state, jsonError 400 "invalid request body")
  | some registry =>
    match env.files .registry with
    | some _ => (state, jsonError 500 "could not save the registry setting")
    | none =>
      let next := { state with config := { state.config with registry := some (normaliseRegistry registry) } }
      (next, writeJSON [("registry", (internalRegistry env next).quote), ("airGapped", toString env.airGapped)])

end

theorem setCluster_unchanged {state : State} {cluster : String} {kube next : Kube}
    (found : state.clusters cluster = some kube) :
    (state.setCluster cluster next).clusters = state.clusters ↔ next = kube := by
  constructor
  · intro same
    have at_cluster : Function.update state.clusters cluster (some next) cluster = some kube :=
      (congrFun same cluster).trans found
    rw [Function.update_self] at at_cluster
    exact Option.some.inj at_cluster
  · rintro rfl
    exact (congrArg _ found.symm).trans (Function.update_eq_self cluster state.clusters)

/-- A request that gets through names an app of the catalog and a cluster that is
there, and Helm is ready. -/
theorem catalogAction_ok {env : Env} {state : State} {body : Option CatalogActionRequest} {cluster : String}
    {app : CatalogApp} {kube : Kube} : catalogAction env state body = .ok (cluster, app, kube) ↔
      ∃ req, body = some req ∧ req.cluster = cluster ∧ findCatalogApp req.appID = some app ∧
        clusterClientConfig env state cluster = some kube ∧ env.helm.initialise = none := by
  unfold catalogAction
  constructor
  · intro passed
    split at passed
    next => cases passed
    next req =>
      split at passed
      next => cases passed
      next found =>
        split at passed
        next => cases passed
        next reached =>
          split at passed
          next => cases passed
          next ready =>
            cases passed
            exact ⟨req, rfl, rfl, found, reached, ready⟩
  · rintro ⟨req, rfl, rfl, found, reached, ready⟩
    simp only [found, reached, ready]

theorem reached_cluster {env : Env} {state : State} {cluster : String} {kube : Kube}
    (reached : clusterClientConfig env state cluster = some kube) : state.clusters cluster = some kube := by
  unfold clusterClientConfig at reached
  split at reached
  next => cases reached
  next => exact reached

end K8Sense.Doctor.Api
