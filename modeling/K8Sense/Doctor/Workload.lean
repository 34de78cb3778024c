import K8Sense.Library.Keyed
import K8Sense.Library.Text

/-! The objects of a cluster that the network map is drawn from, and the
workloads among them. -/

namespace K8Sense.Doctor.NetworkMap
open Text

def isNameChar (char : Char) : Bool :=
  'a' ≤ char && char ≤ 'z' || '0' ≤ char && char ≤ '9' || char = '-' || char = '.'

/-- What the API server accepts as the name of an object or of a namespace. -/
def isName (text : String) : Bool := !text.toList.isEmpty && text.toList.all isNameChar

structure Name where
  text : String
  valid : isName text = true
  deriving DecidableEq

abbrev StringMap := List (String × String)

/-- `m[key]`, which is empty for a key that is not there. -/
def StringMap.get (map : StringMap) (key : String) : String := (Keyed.lookup key map).getD ""

structure Requirement where
  key : String
  operator : String
  values : List String
  deriving DecidableEq

structure LabelSelector where
  matchLabels : StringMap
  matchExpressions : List Requirement
  deriving DecidableEq

structure EnvVar where
  name : String
  value : String
  /-- The ConfigMap that the value is taken from. -/
  configMapKeyRef : Option String
  deriving DecidableEq

structure Container where
  image : String
  args : List String
  command : List String
  env : List EnvVar
  /-- The ConfigMaps among the sources of the environment. -/
  envFrom : List (Option String)
  ports : List Int
  deriving DecidableEq

structure PodSpec where
  initContainers : List Container
  containers : List Container
  /-- The ConfigMaps among the volumes. -/
  volumes : List (Option String)
  deriving DecidableEq

structure PodTemplateSpec where
  labels : StringMap
  spec : PodSpec
  deriving DecidableEq

/-- A Deployment, a StatefulSet or a DaemonSet. -/
structure Controller where
  «namespace» : Name
  name : Name
  template : PodTemplateSpec
  deriving DecidableEq

inductive Protocol where
  | tcp
  | udp
  | sctp
  deriving DecidableEq

/-- The API server accepts a port name only with a letter in it. -/
structure PortName where
  text : String
  valid : (text.toList.all fun char => 'a' ≤ char && char ≤ 'z' || '0' ≤ char && char ≤ '9' || char = '-') = true
  letter : (text.toList.any fun char => 'a' ≤ char && char ≤ 'z') = true
  deriving DecidableEq

inductive PortRef where
  | number (port : Nat)
  | name (port : PortName)
  deriving DecidableEq

structure NetworkPolicyPort where
  protocol : Option Protocol
  port : Option PortRef
  endPort : Option Nat
  deriving DecidableEq

structure NetworkPolicyPeer where
  podSelector : Option LabelSelector
  namespaceSelector : Option LabelSelector
  ipBlock : Option String
  deriving DecidableEq

structure NetworkPolicyIngressRule where
  ports : List NetworkPolicyPort
  «from» : List NetworkPolicyPeer
  deriving DecidableEq

inductive PolicyType where
  | ingress
  | egress
  deriving DecidableEq

structure NetworkPolicy where
  «namespace» : Name
  name : Name
  podSelector : LabelSelector
  policyTypes : List PolicyType
  ingress : List NetworkPolicyIngressRule
  deriving DecidableEq

inductive ServiceType where
  | clusterIP
  | nodePort
  | loadBalancer
  | externalName
  deriving DecidableEq

structure ServicePort where
  port : Int
  /-- `TargetPort.IntVal`, which is zero for a named port. -/
  targetPort : Int
  deriving DecidableEq

structure Service where
  «namespace» : Name
  name : Name
  type : ServiceType
  externalName : String
  selector : StringMap
  ports : List ServicePort
  deriving DecidableEq

structure ConfigMap where
  «namespace» : Name
  name : Name
  data : StringMap
  deriving DecidableEq

inductive Resource where
  | deployments
  | statefulSets
  | daemonSets
  | networkPolicies
  | services
  | configMaps
  deriving DecidableEq

/-- No two objects of a kind have the same namespace and name. -/
def UniqueNames {α : Type} (scope name : α → Name) (objects : List α) : Prop :=
  (objects.map fun object => (scope object, name object)).Nodup

instance {α : Type} (scope name : α → Name) (objects : List α) : Decidable (UniqueNames scope name objects) :=
  inferInstanceAs (Decidable (List.Nodup _))

/-- A cluster, and which of its resources cannot be listed. -/
structure Cluster where
  deployments : List Controller
  statefulSets : List Controller
  daemonSets : List Controller
  networkPolicies : List NetworkPolicy
  services : List Service
  configMaps : List ConfigMap
  fails : Resource → Bool
  deploymentsDistinct : UniqueNames Controller.namespace Controller.name deployments
  statefulSetsDistinct : UniqueNames Controller.namespace Controller.name statefulSets
  daemonSetsDistinct : UniqueNames Controller.namespace Controller.name daemonSets
  servicesDistinct : UniqueNames Service.namespace Service.name services
  configMapsDistinct : UniqueNames ConfigMap.namespace ConfigMap.name configMaps

/-- The objects in a namespace, and all of them for `metav1.NamespaceAll`. -/
def inNamespace {α : Type} (scope : α → Name) (ns : String) (objects : List α) : List α :=
  objects.filter fun object => ns = "" || (scope object).text = ns

/-- The call to `List` for a resource. -/
def Cluster.list {α : Type} (cluster : Cluster) (resource : Resource) (scope : α → Name) (objects : List α)
    (ns : String) : Except String (List α) :=
  if cluster.fails resource then .error "list failed" else .ok (inNamespace scope ns objects)

inductive Kind where
  | deployment
  | statefulSet
  | daemonSet
  | external
  deriving DecidableEq

def Kind.text : Kind → String
  | .deployment => "Deployment"
  | .statefulSet => "StatefulSet"
  | .daemonSet => "DaemonSet"
  | .external => "External"

structure Workload where
  «namespace» : Name
  name : Name
  kind : Kind
  labels : StringMap
  /-- Empty unless the workload looks like a database. -/
  dbEngine : String
  configText : String
  configMaps : List String
  deriving DecidableEq

def Workload.id (workload : Workload) : String := join '/' [workload.kind.text, workload.namespace.text, workload.name.text]

def dbImageSignatures : List (String × String) := [
  ("postgres", "postgres"), ("timescale", "postgres"),
  ("mysql", "mysql"), ("mariadb", "mysql"), ("percona", "mysql"),
  ("mongo", "mongodb"),
  ("redis", "redis"), ("valkey", "redis"),
  ("cassandra", "cassandra"), ("scylla", "cassandra"),
  ("cockroach", "cockroachdb"),
  ("elasticsearch", "elasticsearch"), ("opensearch", "elasticsearch"),
  ("clickhouse", "clickhouse"),
  ("memcached", "memcached"),
  ("rabbitmq", "rabbitmq"),
  ("neo4j", "neo4j")]

def dbPortEngines : List (Int × String) := [
  (5432, "postgres"), (3306, "mysql"), (27017, "mongodb"), (6379, "redis"),
  (9042, "cassandra"), (26257, "cockroachdb"), (9200, "elasticsearch"),
  (8123, "clickhouse"), (11211, "memcached"), (5672, "rabbitmq"), (7687, "neo4j")]

def engineForImage (image : String) : Option String :=
  if contains image.toList "exporter".toList then none
  else (dbImageSignatures.find? fun signature => contains image.toList signature.1.toList).map Prod.snd

def engineForPort (port : Int) : Option String := Keyed.lookup port dbPortEngines

section
variable (toLower : String → String)

/-- The image decides before the ports do. -/
def classifyDB (containers : List Container) : String :=
  match containers.findSome? fun container => engineForImage (toLower container.image) with
  | some engine => engine
  | none => ((containers.flatMap Container.ports).findSome? engineForPort).getD ""

def workloadConfigText (spec : PodSpec) : String :=
  toLower <| concat " " <| (spec.initContainers ++ spec.containers).flatMap fun container =>
    container.args ++ container.command ++ (container.env.map EnvVar.value).filter (· ≠ "")

def workloadConfigMapRefs (spec : PodSpec) : List String :=
  ((spec.initContainers ++ spec.containers).flatMap fun container =>
    container.envFrom.filterMap id ++ container.env.filterMap EnvVar.configMapKeyRef) ++ spec.volumes.filterMap id

def makeWorkload (kind : Kind) (controller : Controller) : Workload where
  «namespace» := controller.namespace
  name := controller.name
  kind := kind
  labels := controller.template.labels
  dbEngine := classifyDB toLower controller.template.spec.containers
  configText := workloadConfigText toLower controller.template.spec
  configMaps := workloadConfigMapRefs controller.template.spec

def listWorkloads (cluster : Cluster) (ns : String) : Except String (List Workload) := do
  let deploys ← cluster.list .deployments Controller.namespace cluster.deployments ns
  let stateful ← cluster.list .statefulSets Controller.namespace cluster.statefulSets ns
  let daemon ← cluster.list .daemonSets Controller.namespace cluster.daemonSets ns
  return deploys.map (makeWorkload toLower .deployment) ++ stateful.map (makeWorkload toLower .statefulSet) ++
    daemon.map (makeWorkload toLower .daemonSet)

end

theorem name_free (name : Name) {char : Char} (other : isNameChar char = false) : char ∉ name.text.toList := by
  have chars := List.all_eq_true.mp (Bool.and_eq_true_iff.mp name.valid).2
  intro member
  rw [chars char member] at other
  cases other

theorem kind_chars (kind : Kind) : '/' ∉ kind.text.toList ∧ '>' ∉ kind.text.toList := by
  cases kind <;> decide

theorem kind_text_injective : Function.Injective Kind.text := by
  intro first second same
  cases first <;> cases second <;> first | rfl | exact absurd same (by decide)

theorem name_text_injective : Function.Injective Name.text := by
  intro first second same
  cases first
  cases second
  simpa using same

theorem place_injective {«namespace» name : Name} {space word : String}
    (same : join '/' [«namespace».text, name.text] = join '/' [space, word]) :
    «namespace».text = space ∧ name.text = word := by
  have chars : «namespace».text.toList ++ '/' :: name.text.toList = space.toList ++ '/' :: word.toList := by
    have lists := congrArg String.toList same
    rwa [join_cons (List.cons_ne_nil _ _), join_cons (List.cons_ne_nil _ _), join_singleton, join_singleton] at lists
  have slash : isNameChar '/' = false := by decide
  have none : space.toList.count '/' = 0 := by
    have count := congrArg (List.count '/') chars
    simp only [List.count_append, List.count_cons_self, List.count_eq_zero_of_not_mem (name_free _ slash)] at count
    omega
  exact (join_cons_injective (List.cons_ne_nil _ _) (List.cons_ne_nil _ _) (name_free «namespace» slash)
    (List.count_eq_zero.mp none) same).imp id fun rest => by rwa [join_singleton, join_singleton] at rest

theorem id_injective {first second : Workload} (same : first.id = second.id) :
    first.kind = second.kind ∧ first.namespace = second.namespace ∧ first.name = second.name := by
  have slash : isNameChar '/' = false := by decide
  have free : ∀ workload : Workload,
      ∀ part ∈ [workload.kind.text, workload.namespace.text, workload.name.text], '/' ∉ part.toList := by
    intro workload
    simp [kind_chars, name_free _ slash]
  have parts := join_injective (by simp) (by simp) (free first) (free second) same
  simp only [List.cons.injEq, and_true] at parts
  exact ⟨kind_text_injective parts.1, name_text_injective parts.2.1, name_text_injective parts.2.2⟩

variable {toLower : String → String} {cluster : Cluster} {ns : String} {workloads : List Workload}

theorem list_ok {α : Type} {resource : Resource} {scope : α → Name} {objects listed : List α}
    (read : cluster.list resource scope objects ns = .ok listed) : listed = inNamespace scope ns objects := by
  rw [Cluster.list] at read
  split at read
  next => cases read
  next => exact (Except.ok.inj read).symm

theorem unique_inNamespace {α : Type} {scope name : α → Name} {objects : List α} (unique : UniqueNames scope name objects) :
    UniqueNames scope name (inNamespace scope ns objects) :=
  unique.sublist (List.filter_sublist.map _)

/-- The workloads of a kind in a namespace. -/
def controllersOf (cluster : Cluster) : Kind → List Controller
  | .deployment => cluster.deployments
  | .statefulSet => cluster.statefulSets
  | .daemonSet => cluster.daemonSets
  | .external => []

theorem bind_ok {α β : Type} {read : Except String α} {next : α → Except String β} {result : β}
    (done : read >>= next = .ok result) : ∃ value, read = .ok value ∧ next value = .ok result := by
  cases read with
  | error err => cases done
  | ok value => exact ⟨value, rfl, done⟩

theorem listWorkloads_ok (listed : listWorkloads toLower cluster ns = .ok workloads) :
    workloads = [Kind.deployment, .statefulSet, .daemonSet].flatMap fun kind =>
      (inNamespace Controller.namespace ns (controllersOf cluster kind)).map (makeWorkload toLower kind) := by
  obtain ⟨deploys, deployments, listed⟩ := bind_ok listed
  obtain ⟨stateful, statefulSets, listed⟩ := bind_ok listed
  obtain ⟨daemon, daemonSets, listed⟩ := bind_ok listed
  rw [← Except.ok.inj listed, list_ok deployments, list_ok statefulSets, list_ok daemonSets]
  simp [controllersOf]

theorem mem_workloads (listed : listWorkloads toLower cluster ns = .ok workloads) {workload : Workload} :
    workload ∈ workloads ↔ ∃ kind, ∃ controller ∈ controllersOf cluster kind,
      (ns = "" ∨ controller.namespace.text = ns) ∧ workload = makeWorkload toLower kind controller := by
  simp only [listWorkloads_ok listed, inNamespace, List.mem_flatMap, List.mem_map, List.mem_filter, Bool.or_eq_true, decide_eq_true_eq]
  constructor
  · intro ⟨kind, _, controller, ⟨member, inside⟩, same⟩
    exact ⟨kind, controller, member, inside, same.symm⟩
  · intro ⟨kind, controller, member, inside, same⟩
    refine ⟨kind, ?_, controller, ⟨member, inside⟩, same.symm⟩
    cases kind
    case external => cases member
    all_goals decide

theorem workload_inNamespace (listed : listWorkloads toLower cluster ns = .ok workloads) {workload : Workload}
    (member : workload ∈ workloads) : ns = "" ∨ workload.namespace.text = ns := by
  obtain ⟨kind, controller, _, inside, rfl⟩ := (mem_workloads listed).mp member
  exact inside

theorem workload_kind (listed : listWorkloads toLower cluster ns = .ok workloads) {workload : Workload}
    (member : workload ∈ workloads) : workload.kind ≠ .external := by
  obtain ⟨kind, controller, controls, _, rfl⟩ := (mem_workloads listed).mp member
  rintro rfl
  cases controls

theorem controllers_unique (cluster : Cluster) (kind : Kind) :
    UniqueNames Controller.namespace Controller.name (controllersOf cluster kind) := by
  cases kind
  case deployment => exact cluster.deploymentsDistinct
  case statefulSet => exact cluster.statefulSetsDistinct
  case daemonSet => exact cluster.daemonSetsDistinct
  case external => exact List.nodup_nil

theorem ids_nodup (listed : listWorkloads toLower cluster ns = .ok workloads) : (workloads.map Workload.id).Nodup := by
  rw [listWorkloads_ok listed, List.map_flatMap, List.nodup_flatMap]
  constructor
  · intro kind _
    have unique : UniqueNames Controller.namespace Controller.name (inNamespace Controller.namespace ns (controllersOf cluster kind)) :=
      unique_inNamespace (controllers_unique cluster kind)
    rw [List.map_map]
    apply List.Nodup.map_on _ (List.Nodup.of_map _ unique)
    intro first left second right same
    obtain ⟨-, space, name⟩ := id_injective same
    exact List.inj_on_of_nodup_map unique left right (Prod.ext space name)
  · have different : [Kind.deployment, .statefulSet, .daemonSet].Nodup := by decide
    apply different.imp
    intro first second other text left right
    simp only [List.map_map, List.mem_map] at left right
    obtain ⟨one, -, rfl⟩ := left
    obtain ⟨two, -, same⟩ := right
    exact other (id_injective same).1.symm

end K8Sense.Doctor.NetworkMap
