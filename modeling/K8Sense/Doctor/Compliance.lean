import Mathlib.Data.List.Sort
import Mathlib.Data.String.Basic
import K8Sense.Library.Distinct
import K8Sense.Doctor.Kube

/-! The CIS benchmark: the lists that are read once for all controls, the checks
on them and the report. -/

namespace K8Sense.Doctor.Compliance

structure Capabilities where
  add : List String
  drop : List String
deriving DecidableEq

structure SecurityContext where
  privileged : Option Bool := none
  allowPrivilegeEscalation : Option Bool := none
  runAsNonRoot : Option Bool := none
  runAsUser : Option Int := none
  capabilities : Option Capabilities := none
deriving DecidableEq

structure Container where
  name : String
  securityContext : Option SecurityContext := none
deriving DecidableEq

structure Pod where
  «namespace» : String
  name : String
  initContainers : List Container := []
  containers : List Container := []
  hostPID : Bool := false
  hostIPC : Bool := false
  hostNetwork : Bool := false
deriving DecidableEq

structure ClusterRoleBinding where
  name : String
  roleRef : String
deriving DecidableEq

structure ClusterRole where
  name : String
  rules : List Api.PolicyRule
deriving DecidableEq

structure Role where
  «namespace» : String
  name : String
  rules : List Api.PolicyRule
deriving DecidableEq

structure NetworkPolicy where
  «namespace» : String
  name : String
deriving DecidableEq

/-- What a cluster holds of what the benchmark looks at. -/
structure Cluster where
  pods : List Pod := []
  clusterRoleBindings : List ClusterRoleBinding := []
  clusterRoles : List ClusterRole := []
  roles : List Role := []
  networkPolicies : List NetworkPolicy := []

inductive ListCall where
  | pods
  | clusterRoleBindings
  | clusterRoles
  | roles
  | networkPolicies
deriving DecidableEq

/-- The error of each call that fails. -/
abbrev Errors := ListCall → Option String

structure ComplianceViolation where
  «namespace» : String := ""
  kind : String
  name : String
  detail : String
deriving DecidableEq

inductive Status where
  | pass
  | fail
deriving DecidableEq

structure ControlResult where
  id : String
  title : String
  «section» : String
  status : Status
  remediation : String
  violations : List ComplianceViolation
deriving DecidableEq

structure ComplianceReport where
  framework : String
  score : Nat := 0
  passed : Nat := 0
  failed : Nat := 0
  total : Nat := 0
  controls : List ControlResult := []
  note : String
deriving DecidableEq

structure ComplianceData where
  pods : List Pod
  crbs : List ClusterRoleBinding
  croles : List ClusterRole
  roles : List Role
  netpols : List NetworkPolicy

structure CisControl where
  id : String
  title : String
  «section» : String
  check : ComplianceData → List ComplianceViolation

def controlRemediations : List (String × String) :=
  [("CIS-5.1.1", "Remove the cluster-admin ClusterRoleBinding and grant a ClusterRole/Role scoped to only what the subject actually needs."),
   ("CIS-5.1.3", "Replace wildcard (*) verbs, resources or apiGroups with the explicit, minimal set the workload requires."),
   ("CIS-5.2.1", "Set securityContext.privileged: false; grant only the specific Linux capabilities the container needs."),
   ("CIS-5.2.2", "Remove hostPID: true from the pod spec — containers should not share the host process namespace."),
   ("CIS-5.2.3", "Remove hostIPC: true from the pod spec."),
   ("CIS-5.2.4", "Remove hostNetwork: true; expose the workload through a Service instead of host networking."),
   ("CIS-5.2.5", "Set securityContext.allowPrivilegeEscalation: false on each container."),
   ("CIS-5.2.6", "Set securityContext.runAsNonRoot: true (and a non-zero runAsUser) so the container can't run as root."),
   ("CIS-5.2.8", "Drop the added Linux capabilities; add back only those strictly required."),
   ("CIS-5.2.9", "Add securityContext.capabilities.drop: [\"ALL\"], then add back only the capabilities the container needs."),
   ("CIS-5.3.2", "Create a default-deny NetworkPolicy (ingress + egress) in the namespace, then allow only required flows. Runbooks → “Apply default-deny NetworkPolicy” does this in one click."),
   ("CIS-5.7.4", "Move workloads out of the default namespace into a dedicated, labelled namespace. Runbooks → “Onboard a namespace” sets one up with a quota and default-deny policy.")]

def complianceSystemNS : List String := ["kube-system", "kube-public", "kube-node-lease", "local-path-storage"]

def ComplianceData.workloadPods (data : ComplianceData) : List Pod :=
  data.pods.filter fun pod => !complianceSystemNS.contains pod.namespace

def podViolation (pod : Pod) (detail : String) : ComplianceViolation := ⟨pod.namespace, "Pod", pod.name, detail⟩

def podContainers (pod : Pod) : List Container := pod.initContainers ++ pod.containers

/-- A control that fails a workload pod at its first container that is `bad`. -/
def podControl (id title : String) (bad : Container → Bool) (detail : String) : CisControl :=
  ⟨id, title, "5.2 Pod Security Standards", fun data => data.workloadPods.filterMap fun pod =>
    ((podContainers pod).find? bad).map fun container => podViolation pod (container.name ++ ": " ++ detail)⟩

def podSpecControl (id title : String) (bad : Pod → Bool) (detail : String) : CisControl :=
  ⟨id, title, "5.2 Pod Security Standards", fun data =>
    (data.workloadPods.filter bad).map fun pod => podViolation pod detail⟩

def clusterAdmin : CisControl where
  id := "CIS-5.1.1"
  title := "Ensure cluster-admin role is only used where required"
  «section» := "5.1 RBAC and Service Accounts"
  check data :=
    (data.crbs.filter fun binding => binding.roleRef = "cluster-admin" && binding.name ≠ "cluster-admin").map
      fun binding => { kind := "ClusterRoleBinding", name := binding.name, detail := "binds cluster-admin — review whether this is required" }

/-- What the wildcard control says of one role. -/
def wildcardCheck (kind ns name : String) (rules : List Api.PolicyRule) : Option ComplianceViolation :=
  if "system:".toList.isPrefixOf name.toList || name = "cluster-admin" then none
  else if rules.any fun rule => rule.verbs.contains "*" || rule.resources.contains "*" || rule.apiGroups.contains "*" then
    some ⟨ns, kind, name, "uses a wildcard (*) verb/resource/apiGroup"⟩
  else none

def wildcards : CisControl where
  id := "CIS-5.1.3"
  title := "Minimize wildcard use in Roles and ClusterRoles"
  «section» := "5.1 RBAC and Service Accounts"
  check data :=
    (data.croles.filterMap fun role => wildcardCheck "ClusterRole" "" role.name role.rules) ++
      data.roles.filterMap fun role => wildcardCheck "Role" role.namespace role.name role.rules

def privileged (container : Container) : Bool :=
  match container.securityContext with
  | some context => context.privileged = some true
  | none => false

def escalates (container : Container) : Bool :=
  match container.securityContext with
  | some context => context.allowPrivilegeEscalation ≠ some false
  | none => true

def runsAsRoot (container : Container) : Bool :=
  match container.securityContext with
  | some context => context.runAsNonRoot ≠ some true || context.runAsUser = some 0
  | none => true

def addsCapabilities (container : Container) : Bool :=
  match container.securityContext.bind SecurityContext.capabilities with
  | some capabilities => !capabilities.add.isEmpty
  | none => false

def keepsCapabilities (container : Container) : Bool :=
  match container.securityContext.bind SecurityContext.capabilities with
  | some capabilities => !capabilities.drop.any fun dropped => dropped = "ALL" || dropped = "all"
  | none => true

/-- Namespaces with a policy and those reported already are skipped alike. -/
def networkPolicies : CisControl where
  id := "CIS-5.3.2"
  title := "Ensure that all namespaces have Network Policies defined"
  «section» := "5.3 Network Policies and CNI"
  check data :=
    (Distinct.firsts Pod.namespace (data.netpols.map NetworkPolicy.namespace) data.workloadPods).map fun pod =>
      ⟨pod.namespace, "Namespace", pod.namespace, "runs workloads but has no NetworkPolicy"⟩

def defaultNamespace : CisControl where
  id := "CIS-5.7.4"
  title := "The default namespace should not be used"
  «section» := "5.7 General Policies"
  check data :=
    (data.pods.filter fun pod => pod.namespace = "default").map fun pod =>
      podViolation pod "workload runs in the default namespace"

def cisControls : List CisControl :=
  [clusterAdmin, wildcards,
   podControl "CIS-5.2.1" "Minimize the admission of privileged containers" privileged "container runs privileged",
   podSpecControl "CIS-5.2.2" "Minimize the admission of containers wishing to share the host process ID namespace"
     Pod.hostPID "pod uses hostPID",
   podSpecControl "CIS-5.2.3" "Minimize the admission of containers wishing to share the host IPC namespace"
     Pod.hostIPC "pod uses hostIPC",
   podSpecControl "CIS-5.2.4" "Minimize the admission of containers wishing to share the host network namespace"
     Pod.hostNetwork "pod uses hostNetwork",
   podControl "CIS-5.2.5" "Minimize the admission of containers with allowPrivilegeEscalation" escalates
     "allowPrivilegeEscalation is not set to false",
   podControl "CIS-5.2.6" "Minimize the admission of root containers" runsAsRoot
     "does not enforce runAsNonRoot (may run as root)",
   podControl "CIS-5.2.8" "Minimize the admission of containers with added capabilities" addsCapabilities
     "adds Linux capabilities",
   podControl "CIS-5.2.9" "Minimize the admission of containers with capabilities assigned (drop ALL)" keepsCapabilities
     "does not drop ALL capabilities",
   networkPolicies, defaultNamespace]

section
variable {α : Type}

def list (errors : Errors) (call : ListCall) (items : List α) : Except String (List α) :=
  match errors call with
  | some err => .error err
  | none => .ok items

/-- A field that keeps its zero value when the call fails. -/
def orEmpty : Except String (List α) → List α
  | .ok items => items
  | .error _ => []

/-- The items of a namespace, and all items for the empty name. -/
def inNamespace (ns : String) (place : α → String) (items : List α) : List α :=
  if ns = "" then items else items.filter fun item => place item = ns

end

def gatherComplianceData (errors : Errors) (cluster : Cluster) (ns : String) : Except String ComplianceData := do
  let pods ← list errors .pods (inNamespace ns Pod.namespace cluster.pods)
  return {
    pods := pods
    crbs := orEmpty (list errors .clusterRoleBindings cluster.clusterRoleBindings)
    croles := orEmpty (list errors .clusterRoles cluster.clusterRoles)
    roles := orEmpty (list errors .roles (inNamespace ns Role.namespace cluster.roles))
    netpols := orEmpty (list errors .networkPolicies (inNamespace ns NetworkPolicy.namespace cluster.networkPolicies)) }

def controlResult (data : ComplianceData) (control : CisControl) : ControlResult where
  id := control.id
  title := control.title
  «section» := control.section
  status := if (control.check data).isEmpty then .pass else .fail
  remediation := (controlRemediations.lookup control.id).getD ""
  violations := control.check data

/-- The loop body over the controls. -/
def addControl (data : ComplianceData) (report : ComplianceReport) (control : CisControl) : ComplianceReport :=
  { report with
    passed := if (control.check data).isEmpty then report.passed + 1 else report.passed
    failed := if (control.check data).isEmpty then report.failed else report.failed + 1
    controls := report.controls ++ [controlResult data control] }

def emptyReport : ComplianceReport where
  framework := "CIS Kubernetes Benchmark (API-derivable subset)"
  note := "System namespaces (kube-system, etc.) are excluded from Pod Security controls, as they are platform-managed. Node/control-plane file checks require host access and are out of scope here."

def reportOf (data : ComplianceData) : ComplianceReport :=
  let report := cisControls.foldl (addControl data) emptyReport
  let total := report.passed + report.failed
  { report with
    total := total
    score := if total > 0 then report.passed * 100 / total else 0
    controls := report.controls.mergeSort fun first second => first.id ≤ second.id }

def buildComplianceReport (errors : Errors) (cluster : Cluster) (ns : String) : Except String ComplianceReport := do
  let data ← gatherComplianceData errors cluster ns
  return reportOf data

/-- The lists that the check of a control looks at. -/
def reads (id : String) : List ListCall :=
  if id = "CIS-5.1.1" then [.clusterRoleBindings]
  else if id = "CIS-5.1.3" then [.clusterRoles, .roles]
  else if id = "CIS-5.3.2" then [.pods, .networkPolicies]
  else [.pods]

/-- A verdict on lists that were read, which is the one of a report for which no
call fails. -/
structure Rests (errors : Errors) (cluster : Cluster) (ns : String) (result : ControlResult) : Prop where
  read : ∀ call ∈ reads result.id, errors call = none
  same : ∃ whole, buildComplianceReport (fun _ => none) cluster ns = .ok whole ∧
    ∃ other ∈ whole.controls, other.id = result.id ∧ other.status = result.status

def ComplianceData.Same (first second : ComplianceData) : ListCall → Prop
  | .pods => first.pods = second.pods
  | .clusterRoleBindings => first.crbs = second.crbs
  | .clusterRoles => first.croles = second.croles
  | .roles => first.roles = second.roles
  | .networkPolicies => first.netpols = second.netpols

theorem cisControls_sorted : cisControls.Pairwise fun first second => first.id < second.id := by
  have ids : (cisControls.map CisControl.id).Pairwise fun first second => first < second := by decide
  exact List.pairwise_map.mp ids

/-! What a check depends on. -/

section
variable {first second : ComplianceData}

theorem workloadPods_congr (pods : first.pods = second.pods) : first.workloadPods = second.workloadPods := by
  unfold ComplianceData.workloadPods
  rw [pods]

theorem podControl_congr (id title : String) (bad : Container → Bool) (detail : String) (pods : first.pods = second.pods) :
    (podControl id title bad detail).check first = (podControl id title bad detail).check second := by
  simp only [podControl, workloadPods_congr pods]

theorem podSpecControl_congr (id title : String) (bad : Pod → Bool) (detail : String) (pods : first.pods = second.pods) :
    (podSpecControl id title bad detail).check first = (podSpecControl id title bad detail).check second := by
  simp only [podSpecControl, workloadPods_congr pods]

theorem check_congr {control : CisControl} (listed : control ∈ cisControls)
    (agree : ∀ call ∈ reads control.id, first.Same second call) : control.check first = control.check second := by
  simp only [cisControls, List.mem_cons, List.not_mem_nil, or_false] at listed
  rcases listed with rfl | rfl | rfl | rfl | rfl | rfl | rfl | rfl | rfl | rfl | rfl | rfl
  · have crbs : first.crbs = second.crbs := agree .clusterRoleBindings (by decide)
    simp only [clusterAdmin, crbs]
  · have croles : first.croles = second.croles := agree .clusterRoles (by decide)
    have roles : first.roles = second.roles := agree .roles (by decide)
    simp only [wildcards, croles, roles]
  · exact podControl_congr _ _ _ _ (agree .pods (by decide))
  · exact podSpecControl_congr _ _ _ _ (agree .pods (by decide))
  · exact podSpecControl_congr _ _ _ _ (agree .pods (by decide))
  · exact podSpecControl_congr _ _ _ _ (agree .pods (by decide))
  · exact podControl_congr _ _ _ _ (agree .pods (by decide))
  · exact podControl_congr _ _ _ _ (agree .pods (by decide))
  · exact podControl_congr _ _ _ _ (agree .pods (by decide))
  · exact podControl_congr _ _ _ _ (agree .pods (by decide))
  · have netpols : first.netpols = second.netpols := agree .networkPolicies (by decide)
    simp only [networkPolicies, netpols, workloadPods_congr (agree .pods (by decide))]
  · have pods : first.pods = second.pods := agree .pods (by decide)
    simp only [defaultNamespace, pods]

end

/-! The report. -/

theorem foldl_controls (data : ComplianceData) (controls : List CisControl) (report : ComplianceReport) :
    (controls.foldl (addControl data) report).controls = report.controls ++ controls.map (controlResult data) := by
  induction controls generalizing report with
  | nil => simp
  | cons control rest ih =>
    rw [List.foldl_cons, ih]
    simp [addControl]

theorem reportOf_controls (data : ComplianceData) : (reportOf data).controls = cisControls.map (controlResult data) := by
  have collected : (cisControls.foldl (addControl data) emptyReport).controls = cisControls.map (controlResult data) :=
    foldl_controls data cisControls emptyReport
  have sorted : (cisControls.map (controlResult data)).Pairwise
      fun first second => decide (first.id ≤ second.id) = true := by
    rw [List.pairwise_map]
    apply cisControls_sorted.imp
    intro first second before
    exact decide_eq_true (le_of_lt before)
  unfold reportOf
  simp only [collected]
  exact List.mergeSort_of_pairwise sorted

section
variable {errors : Errors} {cluster : Cluster} {ns : String}

theorem list_read {α : Type} {call : ListCall} (read : errors call = none) (items : List α) :
    list errors call items = .ok items := by
  simp only [list, read]

theorem gather_error {err : String} (failed : errors .pods = some err) :
    gatherComplianceData errors cluster ns = .error err := by
  simp only [gatherComplianceData, list, failed]
  rfl

theorem gather_same {data whole : ComplianceData} (gathered : gatherComplianceData errors cluster ns = .ok data)
    (all : gatherComplianceData (fun _ => none) cluster ns = .ok whole) {call : ListCall} (read : errors call = none) :
    data.Same whole call := by
  cases pods : errors .pods with
  | some err => simp [gather_error pods] at gathered
  | none =>
    simp only [gatherComplianceData, list_read pods] at gathered
    cases gathered
    cases all
    cases call with
    | pods => rfl
    | clusterRoleBindings => exact congrArg orEmpty (list_read read _)
    | clusterRoles => exact congrArg orEmpty (list_read read _)
    | roles => exact congrArg orEmpty (list_read read _)
    | networkPolicies => exact congrArg orEmpty (list_read read _)

theorem built_of {report : ComplianceReport} (built : buildComplianceReport errors cluster ns = .ok report) :
    ∃ data, gatherComplianceData errors cluster ns = .ok data ∧ report = reportOf data := by
  unfold buildComplianceReport at built
  cases gathered : gatherComplianceData errors cluster ns with
  | error err => simp [gathered, bind, Except.bind] at built
  | ok data =>
    rw [gathered] at built
    cases built
    exact ⟨data, rfl, rfl⟩

theorem build_ok (pods : errors .pods = none) : ∃ data, gatherComplianceData errors cluster ns = .ok data ∧
    buildComplianceReport errors cluster ns = .ok (reportOf data) := by
  cases gathered : gatherComplianceData errors cluster ns with
  | error err =>
    simp only [gatherComplianceData, list_read pods] at gathered
    cases gathered
  | ok data =>
    refine ⟨data, rfl, ?_⟩
    simp only [buildComplianceReport, gathered]
    rfl

theorem rests_iff {report : ComplianceReport} (built : buildComplianceReport errors cluster ns = .ok report)
    {result : ControlResult} (reported : result ∈ report.controls) :
    Rests errors cluster ns result ↔ ∀ call ∈ reads result.id, errors call = none := by
  constructor
  · intro rests
    exact rests.read
  · intro read
    obtain ⟨data, gathered, rfl⟩ := built_of built
    obtain ⟨whole, all, complete⟩ : ∃ whole, gatherComplianceData (fun _ => none) cluster ns = .ok whole ∧
      buildComplianceReport (fun _ => none) cluster ns = .ok (reportOf whole) := build_ok rfl
    rw [reportOf_controls, List.mem_map] at reported
    obtain ⟨control, listed, rfl⟩ := reported
    refine ⟨read, reportOf whole, complete, controlResult whole control, ?_, rfl, ?_⟩
    · rw [reportOf_controls]
      exact List.mem_map_of_mem listed
    · have checked : control.check data = control.check whole :=
        check_congr listed fun call member => gather_same gathered all (read call member)
      simp only [controlResult, checked]

theorem read_by_some (call : ListCall) : ∃ control ∈ cisControls, call ∈ reads control.id := by
  cases call with
  | pods => exact ⟨defaultNamespace, by simp [cisControls], by decide⟩
  | clusterRoleBindings => exact ⟨clusterAdmin, by simp [cisControls], by decide⟩
  | clusterRoles => exact ⟨wildcards, by simp [cisControls], by decide⟩
  | roles => exact ⟨wildcards, by simp [cisControls], by decide⟩
  | networkPolicies => exact ⟨networkPolicies, by simp [cisControls], by decide⟩

end

/-- Exactly when no call fails that is made after the pods were listed do all
verdicts rest on what was read. -/
theorem verdicts_rest_iff (errors : Errors) (cluster : Cluster) (ns : String) :
    (∀ report, buildComplianceReport errors cluster ns = .ok report →
      ∀ result ∈ report.controls, Rests errors cluster ns result) ↔
      errors .pods ≠ none ∨ ∀ call, errors call = none := by
  constructor
  · intro rest
    by_cases pods : errors .pods = none
    · right
      intro call
      obtain ⟨data, gathered, built⟩ : ∃ data, gatherComplianceData errors cluster ns = .ok data ∧
        buildComplianceReport errors cluster ns = .ok (reportOf data) := build_ok pods
      obtain ⟨control, listed, looked⟩ := read_by_some call
      have reported : controlResult data control ∈ (reportOf data).controls := by
        rw [reportOf_controls]
        exact List.mem_map_of_mem listed
      exact (rest (reportOf data) built (controlResult data control) reported).read call looked
    · exact Or.inl pods
  · intro fine report built result reported
    apply (rests_iff built reported).mpr
    intro call _
    rcases fine with failed | none
    · obtain ⟨err, failed⟩ := Option.ne_none_iff_exists'.mp failed
      simp [buildComplianceReport, gather_error failed, bind, Except.bind] at built
    · exact none call

/-- A cluster with a binding of cluster-admin, whose list the server may not read. -/
def risky : Cluster where
  clusterRoleBindings := [⟨"risky", "cluster-admin"⟩]

def bindingsForbidden : Errors
  | .clusterRoleBindings => some "clusterrolebindings.rbac.authorization.k8s.io is forbidden"
  | _ => none

/-- The control on cluster-admin passes unread where a complete report fails it. -/
theorem unread_passes : ∃ report whole, buildComplianceReport bindingsForbidden risky "" = .ok report ∧
    buildComplianceReport (fun _ => none) risky "" = .ok whole ∧
    (∃ result ∈ report.controls, result.id = "CIS-5.1.1" ∧ result.status = .pass ∧
      ¬Rests bindingsForbidden risky "" result) ∧
    ∃ other ∈ whole.controls, other.id = "CIS-5.1.1" ∧ other.status = .fail := by
  have listed : clusterAdmin ∈ cisControls := by simp [cisControls]
  let unread : ComplianceData := ⟨[], [], [], [], []⟩
  let complete : ComplianceData := ⟨[], risky.clusterRoleBindings, [], [], []⟩
  refine ⟨reportOf unread, reportOf complete, rfl, rfl, ?_, ?_⟩
  · refine ⟨controlResult unread clusterAdmin, ?_, rfl, rfl, ?_⟩
    · rw [reportOf_controls]
      exact List.mem_map_of_mem listed
    · intro rests
      have read : bindingsForbidden .clusterRoleBindings = none := rests.read .clusterRoleBindings (by decide)
      cases read
  · refine ⟨controlResult complete clusterAdmin, ?_, rfl, by decide⟩
    rw [reportOf_controls]
    exact List.mem_map_of_mem listed

end K8Sense.Doctor.Compliance
