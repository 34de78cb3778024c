import K8Sense.Doctor.Finding
import K8Sense.Doctor.NetworkGraph

/-! The check for workloads that no ingress policy covers, beside the map that
marks them as not protected. -/

namespace K8Sense.Doctor.NetworkMap

def systemNamespaces («namespace» : String) : Bool :=
  ["kube-system", "kube-public", "kube-node-lease", "local-path-storage"].contains «namespace»

def ingressApplies (policy : NetworkPolicy) : Bool :=
  if policy.policyTypes.length = 0 then true else policy.policyTypes.any fun type => type = .ingress

variable {R : Type} (env : Env R)

def labelSelectorMatches (selector : LabelSelector) (labels : StringMap) : Bool :=
  match env.labelSelectorAsSelector selector with
  | .error _ => false
  | .ok selects => selects labels

/-- Some ingress policy of the namespace selects pods with these labels. -/
def coveredByIngressPolicy (ns : Name) (podLabels : StringMap) (policies : List NetworkPolicy) : Bool :=
  policies.any fun policy =>
    policy.namespace = ns && ingressApplies policy && labelSelectorMatches env policy.podSelector podLabels

def defaultAllow (kind : Kind) (controller : Controller) : RawFinding :=
  ⟨controller.namespace.text, kind.text, controller.name.text, "\x7b\"exposure\": \"default-allow\"\x7d"⟩

def uncovered (policies : List NetworkPolicy) (kind : Kind) (controller : Controller) : Option RawFinding :=
  if systemNamespaces controller.namespace.text then none
  else if coveredByIngressPolicy env controller.namespace controller.template.labels policies then none
  else some (defaultAllow kind controller)

def checkWorkloadNoNetworkPolicy (cluster : Cluster) : Except String (List RawFinding) := do
  let policies ← cluster.list .networkPolicies NetworkPolicy.namespace cluster.networkPolicies ""
  let deploys ← cluster.list .deployments Controller.namespace cluster.deployments ""
  let stateful ← cluster.list .statefulSets Controller.namespace cluster.statefulSets ""
  let daemon ← cluster.list .daemonSets Controller.namespace cluster.daemonSets ""
  return deploys.filterMap (uncovered env policies .deployment) ++ stateful.filterMap (uncovered env policies .statefulSet) ++
    daemon.filterMap (uncovered env policies .daemonSet)

variable {env} {cluster : Cluster} {ns : String} {map : NetMap R} {findings : List RawFinding}

theorem check_ok (checked : checkWorkloadNoNetworkPolicy env cluster = .ok findings) :
    findings = [Kind.deployment, .statefulSet, .daemonSet].flatMap fun kind =>
      (controllersOf cluster kind).filterMap (uncovered env cluster.networkPolicies kind) := by
  obtain ⟨policies, read, checked⟩ := bind_ok checked
  obtain ⟨deploys, deployments, checked⟩ := bind_ok checked
  obtain ⟨stateful, statefulSets, checked⟩ := bind_ok checked
  obtain ⟨daemon, daemonSets, checked⟩ := bind_ok checked
  rw [← Except.ok.inj checked, list_ok read, list_ok deployments, list_ok statefulSets, list_ok daemonSets]
  simp [controllersOf, inNamespace]

theorem ingressApplies_eq (policy : NetworkPolicy) : ingressApplies policy = policyAppliesToIngress policy := by
  have among : policy.policyTypes.contains .ingress = policy.policyTypes.any fun type => type = .ingress := by
    rw [Bool.eq_iff_iff]
    simp
  unfold ingressApplies policyAppliesToIngress
  rw [among]
  cases policy.policyTypes <;> rfl

theorem covered_eq (workload : Workload) (policies : List NetworkPolicy) :
    coveredByIngressPolicy env workload.namespace workload.labels policies =
      !(selectingIngressPolicies env workload policies).isEmpty := by
  rw [coveredByIngressPolicy, selectingIngressPolicies, Bool.eq_iff_iff]
  simp only [ingressApplies_eq, labelSelectorMatches, selectorMatches, List.any_eq_true, Bool.not_eq_true', List.isEmpty_eq_false_iff,
    ne_eq, List.filter_eq_nil_iff, not_forall, not_not]
  constructor
  · intro ⟨policy, member, covers⟩
    exact ⟨policy, member, covers⟩
  · intro ⟨policy, member, covers⟩
    exact ⟨policy, member, covers⟩

/-- What the check reports are the controllers outside the system namespaces that
no ingress policy covers. -/
theorem mem_findings (checked : checkWorkloadNoNetworkPolicy env cluster = .ok findings) {finding : RawFinding} :
    finding ∈ findings ↔ ∃ kind, ∃ controller ∈ controllersOf cluster kind,
      uncovered env cluster.networkPolicies kind controller = some finding := by
  rw [check_ok checked, List.mem_flatMap]
  constructor
  · intro ⟨kind, _, member⟩
    exact ⟨kind, List.mem_filterMap.mp member⟩
  · intro ⟨kind, controller, member, found⟩
    refine ⟨kind, ?_, List.mem_filterMap.mpr ⟨controller, member, found⟩⟩
    cases kind
    case external => cases member
    all_goals simp

theorem uncovered_some {policies : List NetworkPolicy} {kind : Kind} {controller : Controller} {finding : RawFinding} :
    uncovered env policies kind controller = some finding ↔ systemNamespaces controller.namespace.text = false ∧
      coveredByIngressPolicy env controller.namespace controller.template.labels policies = false ∧
      finding = defaultAllow kind controller := by
  unfold uncovered
  split
  next system => simp [system]
  next user =>
    split
    next covered => simp [covered]
    next apart => simp [user, apart, eq_comm]

/-- The finding is about the workload that the node stands for. -/
def About (finding : RawFinding) (node : NetNode) : Prop :=
  finding.namespace = node.namespace ∧ finding.resourceKind = node.kind.text ∧ finding.resourceName = node.name

/-- Outside the system namespaces, the check reports a workload exactly when the
map marks it as not protected. -/
theorem check_agrees_with_map (checked : checkWorkloadNoNetworkPolicy env cluster = .ok findings)
    (built : buildNetworkMap env cluster ns = .ok map) :
    (∀ node ∈ map.nodes, node.kind ≠ .external → systemNamespaces node.namespace = false →
      ((∃ finding ∈ findings, About finding node) ↔ node.protected = false)) ∧
    ∀ finding ∈ findings, ns = "" ∨ finding.namespace = ns →
      ∃ node ∈ map.nodes, node.kind ≠ .external ∧ About finding node ∧ node.protected = false := by
  obtain ⟨workloads, listed⟩ := build_listed built
  have covered : ∀ workload ∈ workloads,
      coveredByIngressPolicy env workload.namespace workload.labels cluster.networkPolicies =
        (workloadNode env (inNamespace NetworkPolicy.namespace ns cluster.networkPolicies) workload).protected := by
    intro workload member
    rw [covered_eq, workloadNode, selecting_inNamespace (workload_inNamespace listed member)]
  constructor
  · intro node among inside user
    rcases node_cases built listed among with ⟨workload, member, rfl⟩ | ⟨place, _, rfl⟩ | ⟨svc, _, made⟩
    · obtain ⟨kind, controller, controls, _, rfl⟩ := (mem_workloads listed).mp member
      rw [← covered _ member]
      constructor
      · intro ⟨finding, reported, about⟩
        obtain ⟨other, found, also, is⟩ := (mem_findings checked).mp reported
        obtain ⟨_, bare, rfl⟩ := uncovered_some.mp is
        obtain ⟨spaces, kinds, names⟩ := about
        obtain rfl : other = kind := kind_text_injective kinds
        have same : found = controller := List.inj_on_of_nodup_map (controllers_unique cluster other) also controls
          (Prod.ext (name_text_injective spaces) (name_text_injective names))
        rw [same] at bare
        exact bare
      · intro bare
        exact ⟨_, (mem_findings checked).mpr ⟨kind, controller, controls, uncovered_some.mpr ⟨user, bare, rfl⟩⟩, rfl, rfl, rfl⟩
    · exact absurd rfl inside
    · exact absurd (externalDBNode_some made).2.2 inside
  · intro finding reported scope
    obtain ⟨kind, controller, controls, is⟩ := (mem_findings checked).mp reported
    obtain ⟨_, bare, rfl⟩ := uncovered_some.mp is
    have member : makeWorkload env.toLower kind controller ∈ workloads :=
      (mem_workloads listed).mpr ⟨kind, controller, controls, scope, rfl⟩
    refine ⟨workloadNode env (inNamespace NetworkPolicy.namespace ns cluster.networkPolicies)
      (makeWorkload env.toLower kind controller), ?_, workload_kind listed member, ⟨rfl, rfl, rfl⟩, ?_⟩
    · rw [(build_ok built listed).1]
      exact List.mem_append_left _ (List.mem_append_left _ (List.mem_map_of_mem member))
    · rw [← covered _ member]
      exact bare

theorem twoRules_checked : checkWorkloadNoNetworkPolicy plainEnv twoRules = .ok [defaultAllow .deployment web] := rfl

theorem check_agrees_twoRules : ∃ map, buildNetworkMap plainEnv twoRules "" = .ok map ∧
    ∀ node ∈ map.nodes, node.kind ≠ .external → systemNamespaces node.namespace = false →
      ((∃ finding ∈ [defaultAllow .deployment web], About finding node) ↔ node.protected = false) := by
  obtain ⟨map, built⟩ := build_exists twoRules_listed rfl
  exact ⟨map, built, (check_agrees_with_map twoRules_checked built).1⟩

end K8Sense.Doctor.NetworkMap
