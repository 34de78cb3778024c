import K8Sense.Library.Distinct
import K8Sense.Doctor.Workload
import Mathlib.Data.List.Dedup

/-! The network map: which workloads there are, how far each can be reached,
what may talk to what, and what is configured or observed to. -/

namespace K8Sense.Doctor.NetworkMap
open Text

inductive Exposure where
  | «open»
  | restricted
  | isolated
  | external
  deriving DecidableEq

structure NetNode where
  id : String
  «namespace» : String
  name : String
  kind : Kind
  exposure : Exposure
  «protected» : Bool
  database : Bool
  dbEngine : String
  deriving DecidableEq

structure NetEdge where
  id : String
  source : String
  target : String
  /-- Empty when the edge is not limited to some ports. -/
  ports : String
  deriving DecidableEq

structure InferredEdge where
  id : String
  source : String
  target : String
  /-- The name of the Service that the source refers to. -/
  via : String
  deriving DecidableEq

structure MeshInfo where
  enabled : Bool
  source : String
  deriving DecidableEq

structure TrafficEdge (R : Type) where
  id : String
  source : String
  target : String
  rps : R
  deriving DecidableEq

structure NetMap (R : Type) where
  nodes : List NetNode
  edges : List NetEdge
  traffic : List (TrafficEdge R)
  inferred : List InferredEdge
  mesh : MeshInfo
  namespaces : List String
  deriving DecidableEq

structure PromEndpoint where
  «namespace» : String
  service : String
  port : Nat
  deriving DecidableEq

structure PromSample (R : Type) where
  metric : StringMap
  value : R
  deriving DecidableEq

/-- What the builder gets from outside: the selectors of the Kubernetes library,
the lower-casing of strings, the answers of a Prometheus with their rates, and
the order in which the entries of a map are visited. -/
structure Env (R : Type) where
  labelSelectorAsSelector : LabelSelector → Except String (StringMap → Bool)
  toLower : String → String
  promQuery : PromEndpoint → String → Except String (List (PromSample R))
  positive : R → Bool
  visited : ConfigMap → StringMap
  visitedPerm : ∀ configMap, (visited configMap).Perm configMap.data

def policyAppliesToIngress (policy : NetworkPolicy) : Bool :=
  policy.policyTypes.isEmpty || policy.policyTypes.contains .ingress

/-- An ingress rule without peers allows all sources. -/
def ingressExposure (selecting : List NetworkPolicy) : Exposure :=
  let rules := selecting.flatMap NetworkPolicy.ingress
  if rules.any fun rule => rule.from.isEmpty then .open
  else if rules.isEmpty then .isolated
  else .restricted

def Protocol.lower : Protocol → String
  | .tcp => "tcp"
  | .udp => "udp"
  | .sctp => "sctp"

def PortRef.text : PortRef → String
  | .number port => toString port
  | .name port => port.text

/-- The end of a range of ports is not shown. -/
def portText (port : NetworkPolicyPort) : String :=
  let proto := (port.protocol.map Protocol.lower).getD "tcp"
  match port.port with
  | some ref => join '/' [proto, ref.text]
  | none => proto

def summarisePorts (ports : List NetworkPolicyPort) : String :=
  if ports.isEmpty then "" else concat ", " (ports.map portText)

variable {R : Type} (env : Env R)

/-- No selector matches everything, and one that is not valid nothing. -/
def selectorMatches (selector : Option LabelSelector) (podLabels : StringMap) : Bool :=
  match selector with
  | none => true
  | some selector =>
    match env.labelSelectorAsSelector selector with
    | .error _ => false
    | .ok selects => selects podLabels

def selectingIngressPolicies (workload : Workload) (policies : List NetworkPolicy) : List NetworkPolicy :=
  policies.filter fun policy =>
    policy.namespace = workload.namespace && policyAppliesToIngress policy &&
      selectorMatches env (some policy.podSelector) workload.labels

/-- A namespace selector counts as matching all namespaces, and an IP block has
no workloads. -/
def matchingSources (peer : NetworkPolicyPeer) (targetNS : Name) (all : List Workload) : List Workload :=
  if peer.ipBlock.isSome then []
  else all.filter fun workload =>
    (peer.namespaceSelector.isSome || workload.namespace = targetNS) && selectorMatches env peer.podSelector workload.labels

/-- The edge for a source that a rule allows. -/
def ingressEdge (workload : Workload) (rule : NetworkPolicyIngressRule) (source : Workload) : NetEdge where
  id := concat "->" [source.id, workload.id]
  source := source.id
  target := workload.id
  ports := summarisePorts rule.ports

/-- The edges for the peers of a rule, self-edges left out. -/
def ruleEdges (workload : Workload) (all : List Workload) (rule : NetworkPolicyIngressRule) : List NetEdge :=
  rule.from.flatMap fun peer =>
    ((matchingSources env peer workload.namespace all).filter fun source => source.id ≠ workload.id).map
      (ingressEdge workload rule)

/-- One edge per source, that of the first rule that allows it. -/
def ingressEdges (workload : Workload) (selecting : List NetworkPolicy) (all : List Workload) : List NetEdge :=
  Distinct.firsts NetEdge.id [] ((selecting.flatMap NetworkPolicy.ingress).flatMap (ruleEdges env workload all))

def workloadNode (policies : List NetworkPolicy) (workload : Workload) : NetNode :=
  let selecting := selectingIngressPolicies env workload policies
  { id := workload.id, «namespace» := workload.namespace.text, name := workload.name.text, kind := workload.kind
    exposure := if selecting.isEmpty then .open else ingressExposure selecting
    «protected» := !selecting.isEmpty
    database := workload.dbEngine ≠ "", dbEngine := workload.dbEngine }

/-- Every selector `key=value` is among the labels. -/
def selectorSubset (selector labels : StringMap) : Bool :=
  selector.all fun entry => labels.get entry.1 = entry.2

def isLabelChar (char : Char) : Bool :=
  'a' ≤ char && char ≤ 'z' || '0' ≤ char && char ≤ '9' || char = '-'

/-- The text before the token is given from its end. -/
def hostLikeContext (before after : List Char) : Bool :=
  (match after with
    | ':' :: digit :: _ => '0' ≤ digit && digit ≤ '9'
    | _ => false) ||
  "//:".toList.isPrefixOf before || "@".toList.isPrefixOf before || "=".toList.isPrefixOf before ||
    ":".toList.isPrefixOf (before.dropWhile (· = ' '))

/-- The text is given as the part passed over, from its end, and the rest. -/
def hostLikeToken (word : List Char) : List Char → List Char → Bool
  | _, [] => false
  | before, char :: rest =>
    let after := (char :: rest).drop word.length
    (word.isPrefixOf (char :: rest) && !(before.head?.any isLabelChar) && !(after.head?.any isLabelChar) &&
      hostLikeContext before after) || hostLikeToken word (char :: before) rest

def serviceRefTokens (name ns : String) : List String :=
  let n := env.toLower name
  [concat "" [n, ".", ns, ".svc.cluster.local"], concat "" [n, ".", ns, ".svc"], concat "" [n, ".", ns]]

def referencesService (text name : String) (tokens : List String) : Bool :=
  (tokens.any fun token => contains text.toList token.toList) ||
    3 ≤ name.length && hostLikeToken (env.toLower name).toList [] text.toList

def configMapEntry (cm : ConfigMap) : String × String :=
  (join '/' [cm.namespace.text, cm.name.text], env.toLower (concat "" ((env.visited cm).map fun entry => concat "" [entry.2, " "])))

/-- The lower-cased data of the ConfigMaps in a namespace by `namespace/name`.
None are known when they cannot be listed. -/
def configMapText (cluster : Cluster) (ns : String) : StringMap :=
  match cluster.list .configMaps ConfigMap.namespace cluster.configMaps ns with
  | .error _ => []
  | .ok cms => cms.map (configMapEntry env)

structure ResolvedSvc where
  name : String
  tokens : List String
  backends : List String
  deriving DecidableEq

/-- A Service without a selector, or that selects no workload, is passed over. -/
def resolveService (workloads : List Workload) (svc : Service) : Option ResolvedSvc :=
  let backends := (workloads.filter fun workload =>
    workload.namespace = svc.namespace && selectorSubset svc.selector workload.labels).map Workload.id
  if svc.selector.isEmpty || backends.isEmpty then none
  else some ⟨svc.name.text, serviceRefTokens env svc.name.text svc.namespace.text, backends⟩

/-- What is searched for the names of Services: the workload's own configuration
and the ConfigMaps that it refers to. -/
def searchedText (cmData : StringMap) (app : Workload) : String :=
  concat "" (app.configText :: app.configMaps.flatMap fun cm => [" ", cmData.get (join '/' [app.namespace.text, cm])])

def inferredEdge (app : Workload) (svc : ResolvedSvc) (backend : String) : InferredEdge where
  id := concat "" ["infer:", app.id, "->", backend]
  source := app.id
  target := backend
  via := svc.name

@[simp] theorem inferredEdge_source (app : Workload) (svc : ResolvedSvc) (backend : String) :
    (inferredEdge app svc backend).source = app.id := rfl

@[simp] theorem inferredEdge_target (app : Workload) (svc : ResolvedSvc) (backend : String) :
    (inferredEdge app svc backend).target = backend := rfl

/-- The edges for the Services that a workload refers to, self-edges left out. -/
def appEdges (cmData : StringMap) (svcs : List ResolvedSvc) (app : Workload) : List InferredEdge :=
  if trimSpace (searchedText cmData app) = "" then []
  else (svcs.filter fun svc => referencesService env (searchedText cmData app) svc.name svc.tokens).flatMap fun svc =>
    (svc.backends.filter fun backend => backend ≠ app.id).map (inferredEdge app svc)

def inferredConnections (cluster : Cluster) (workloads : List Workload) (ns : String) : List InferredEdge :=
  match cluster.list .services Service.namespace cluster.services ns with
  | .error _ => []
  | .ok services =>
    let cmData := configMapText env cluster ns
    let svcs := services.filterMap (resolveService env workloads)
    Distinct.firsts InferredEdge.id [] (workloads.flatMap (appEdges env cmData svcs))

def promCandidates : List PromEndpoint := [
  ⟨"istio-system", "prometheus", 9090⟩,
  ⟨"monitoring", "prometheus-k8s", 9090⟩,
  ⟨"monitoring", "prometheus-server", 80⟩,
  ⟨"monitoring", "prometheus-operated", 9090⟩,
  ⟨"prometheus", "prometheus-server", 80⟩,
  ⟨"istio-system", "prometheus-server", 9090⟩]

def istioRateQuery : String :=
  "sum by (source_workload,source_workload_namespace,destination_workload,destination_workload_namespace) (rate(istio_requests_total\x7breporter=\"destination\"\x7d[5m]))"

/-- The first candidate that answers and has request metrics. -/
def findIstioPrometheus : Option PromEndpoint :=
  promCandidates.find? fun ep =>
    match env.promQuery ep "count(istio_requests_total)" with
    | .ok (sample :: _) => env.positive sample.value
    | _ => false

/-- The two ends of an observed flow, as namespaces with names. -/
def PromSample.source (sample : PromSample R) : String × String :=
  (sample.metric.get "source_workload_namespace", sample.metric.get "source_workload")

def PromSample.destination (sample : PromSample R) : String × String :=
  (sample.metric.get "destination_workload_namespace", sample.metric.get "destination_workload")

def isKnown (name : String) : Bool := name ≠ "" && name ≠ "unknown"

/-- A flow is kept when both ends are known and it touches the namespace. -/
def PromSample.isKept («namespace» : String) (sample : PromSample R) : Bool :=
  isKnown sample.source.2 && isKnown sample.destination.2 &&
    («namespace» = "" || sample.source.1 = «namespace» || sample.destination.1 = «namespace»)

/-- The workload with a namespace and name. Of workloads of different kinds it
is the last. -/
def findByKey (workloads : List Workload) (place : String × String) : Option Workload :=
  workloads.reverse.find? fun workload =>
    join '/' [workload.namespace.text, workload.name.text] = join '/' [place.1, place.2]

def externalID («namespace» name : String) : String := join '/' [Kind.external.text, «namespace», name]

def resolve (workloads : List Workload) (place : String × String) : String :=
  match findByKey workloads place with
  | some workload => workload.id
  | none => externalID place.1 place.2

/-- The node for an end of a flow that is not a workload. -/
def extraNode (place : String × String) : NetNode where
  id := externalID place.1 place.2
  «namespace» := place.1
  name := place.2
  kind := .external
  exposure := .external
  «protected» := false
  database := false
  dbEngine := ""

def trafficEdge (workloads : List Workload) (sample : PromSample R) : TrafficEdge R :=
  let src := resolve workloads sample.source
  let dst := resolve workloads sample.destination
  { id := concat "" ["live:", src, "->", dst], source := src, target := dst, rps := sample.value }

/-- The ends of flows that are not workloads, in the order in which the flows
are read. -/
def unresolved (workloads : List Workload) (samples : List (PromSample R)) : List (String × String) :=
  (samples.flatMap fun sample => [sample.source, sample.destination]).filter fun place => (findByKey workloads place).isNone

/-- A node for each of these ends, the first for its id. -/
def extraNodes (workloads : List Workload) (samples : List (PromSample R)) : List NetNode :=
  Distinct.firsts NetNode.id [] ((unresolved workloads samples).map extraNode)

/-- A Prometheus that is found but then fails counts as a mesh without flows. -/
def meshTraffic («namespace» : String) (workloads : List Workload) : MeshInfo × List (TrafficEdge R) × List NetNode :=
  match findIstioPrometheus env with
  | none => (⟨false, ""⟩, [], [])
  | some ep =>
    let info : MeshInfo := ⟨true, concat "" ["Istio via ", ep.service, ".", ep.namespace]⟩
    match env.promQuery ep istioRateQuery with
    | .error _ => (info, [], [])
    | .ok vec =>
      let kept := vec.filter (PromSample.isKept «namespace»)
      (info, kept.map (trafficEdge workloads), extraNodes workloads kept)

def engineForServicePorts (ports : List ServicePort) : String :=
  (ports.findSome? fun port => (engineForPort port.port).orElse fun _ => engineForPort port.targetPort).getD ""

def databaseNode (svc : Service) (name : String) (database : Bool) : NetNode where
  id := externalID svc.namespace.text svc.name.text
  «namespace» := svc.namespace.text
  name := name
  kind := .external
  exposure := .external
  «protected» := false
  database := database
  dbEngine := engineForServicePorts svc.ports

/-- An alias of an external host, or a Service on a database port that selects no
pods. -/
def externalDBNode (svc : Service) : Option NetNode :=
  if svc.type = .externalName then some (databaseNode svc svc.externalName (engineForServicePorts svc.ports ≠ ""))
  else if svc.selector.isEmpty && engineForServicePorts svc.ports ≠ "" then some (databaseNode svc svc.name.text true)
  else none

def externalDBNodes (cluster : Cluster) (ns : String) : Except String (List NetNode) := do
  let svcs ← cluster.list .services Service.namespace cluster.services ns
  return svcs.filterMap externalDBNode

/-- A failure to find the external databases leaves them out. -/
def buildNetworkMap (cluster : Cluster) («namespace» : String) : Except String (NetMap R) := do
  let workloads ← listWorkloads env.toLower cluster «namespace»
  let policies ← cluster.list .networkPolicies NetworkPolicy.namespace cluster.networkPolicies «namespace»
  let (mesh, traffic, extra) := meshTraffic env «namespace» workloads
  let extDBs := (externalDBNodes cluster «namespace»).toOption.getD []
  let nodes := workloads.map (workloadNode env policies) ++ extra ++ extDBs
  return {
    nodes := nodes
    edges := workloads.flatMap fun workload =>
      ingressEdges env workload (selectingIngressPolicies env workload policies) workloads
    traffic := traffic
    inferred := inferredConnections env cluster workloads «namespace»
    mesh := mesh
    namespaces := (nodes.map NetNode.namespace).dedup.mergeSort (· ≤ ·) }

variable {env} {cluster : Cluster} {ns : String} {map : NetMap R} {workloads : List Workload}

theorem build_ok (built : buildNetworkMap env cluster ns = .ok map) (listed : listWorkloads env.toLower cluster ns = .ok workloads) :
    let policies := inNamespace NetworkPolicy.namespace ns cluster.networkPolicies
    map.nodes = workloads.map (workloadNode env policies) ++ (meshTraffic env ns workloads).2.2 ++
        (externalDBNodes cluster ns).toOption.getD [] ∧
      map.edges = workloads.flatMap (fun workload =>
        ingressEdges env workload (selectingIngressPolicies env workload policies) workloads) ∧
      map.traffic = (meshTraffic env ns workloads).2.1 ∧
      map.inferred = inferredConnections env cluster workloads ns := by
  unfold buildNetworkMap at built
  cases read : cluster.list .networkPolicies NetworkPolicy.namespace cluster.networkPolicies ns with
  | error err => rw [listed, read] at built; cases built
  | ok policies =>
    rw [listed, read] at built
    rw [← Except.ok.inj built, list_ok read]
    exact ⟨rfl, rfl, rfl, rfl⟩

theorem build_exists (listed : listWorkloads env.toLower cluster ns = .ok workloads)
    (readable : cluster.fails .networkPolicies = false) : ∃ map, buildNetworkMap env cluster ns = .ok map := by
  have read : cluster.list .networkPolicies NetworkPolicy.namespace cluster.networkPolicies ns =
      .ok (inNamespace NetworkPolicy.namespace ns cluster.networkPolicies) := by
    simp [Cluster.list, readable]
  rw [buildNetworkMap, listed, read]
  exact ⟨_, rfl⟩

theorem selecting_inNamespace {workload : Workload} (inside : ns = "" ∨ workload.namespace.text = ns)
    (policies : List NetworkPolicy) :
    selectingIngressPolicies env workload (inNamespace NetworkPolicy.namespace ns policies) =
      selectingIngressPolicies env workload policies := by
  rw [selectingIngressPolicies, inNamespace, List.filter_filter, selectingIngressPolicies]
  apply List.filter_congr
  intro policy _
  by_cases same : policy.namespace = workload.namespace
  · rw [same]
    simp [inside]
  · simp [same]

theorem build_listed (built : buildNetworkMap env cluster ns = .ok map) :
    ∃ workloads, listWorkloads env.toLower cluster ns = .ok workloads := by
  cases listed : listWorkloads env.toLower cluster ns with
  | error err => rw [buildNetworkMap, listed] at built; cases built
  | ok workloads => exact ⟨workloads, rfl⟩

/-- Surroundings without a mesh in which selectors only list labels and all text
is in lower case. -/
def plainEnv : Env Unit where
  labelSelectorAsSelector selector := .ok fun labels => selectorSubset selector.matchLabels labels
  toLower text := text
  promQuery _ _ := .error "no endpoints available"
  positive _ := false
  visited := ConfigMap.data
  visitedPerm _ := List.Perm.refl _

end K8Sense.Doctor.NetworkMap
