import K8Sense.Doctor.NetworkEdges

/-! The map as a graph: the ids of its nodes, the ends of its edges, and the
part of it that lies in a namespace. -/

namespace K8Sense.Doctor.NetworkMap
open Text

variable {R : Type} (env : Env R)

/-- The observed flows that the map shows. -/
def keptFlows (ns : String) : List (PromSample R) :=
  match findIstioPrometheus env with
  | none => []
  | some ep => ((env.promQuery ep istioRateQuery).toOption.getD []).filter (PromSample.isKept ns)

variable {env} {cluster : Cluster} {ns : String} {map : NetMap R} {workloads : List Workload}

theorem meshTraffic_flows : (meshTraffic env ns workloads).2 = ((keptFlows env ns).map (trafficEdge workloads),
    extraNodes workloads (keptFlows env ns)) := by
  unfold meshTraffic keptFlows
  cases findIstioPrometheus env with
  | none => rfl
  | some ep =>
    cases answer : env.promQuery ep istioRateQuery with
    | error err => simp [answer, Except.toOption]; rfl
    | ok vec => simp [answer, Except.toOption]

theorem mem_extra {place : String × String} {samples : List (PromSample R)} (absent : place ∈ unresolved workloads samples) :
    externalID place.1 place.2 ∈ (extraNodes workloads samples).map NetNode.id := by
  have made : ∃ node ∈ (unresolved workloads samples).map extraNode, node.id = externalID place.1 place.2 :=
    ⟨extraNode place, List.mem_map_of_mem absent, rfl⟩
  obtain ⟨node, kept, same⟩ := Distinct.exists_firsts.mpr made
  exact List.mem_map.mpr ⟨node, kept, same⟩

theorem findByKey_some {place : String × String} {workload : Workload} (found : findByKey workloads place = some workload) :
    workload ∈ workloads ∧ workload.namespace.text = place.1 ∧ workload.name.text = place.2 := by
  have member := List.mem_of_find?_eq_some found
  have same := List.find?_some found
  exact ⟨List.mem_reverse.mp member, place_injective (of_decide_eq_true same)⟩

theorem resolve_mem {place : String × String} {sample : PromSample R} {samples : List (PromSample R)} (shown : sample ∈ samples)
    (ends : place = sample.source ∨ place = sample.destination) :
    resolve workloads place ∈ workloads.map Workload.id ++ (extraNodes workloads samples).map NetNode.id := by
  unfold resolve
  cases found : findByKey workloads place with
  | some workload => exact List.mem_append_left _ (List.mem_map_of_mem (findByKey_some found).1)
  | none =>
    apply List.mem_append_right
    apply mem_extra
    refine List.mem_filter.mpr ⟨List.mem_flatMap.mpr ⟨sample, shown, ?_⟩, by simp [found]⟩
    simpa using ends

theorem id_ne_external {workload : Workload} (inside : workload.kind ≠ .external) («namespace» name : String) :
    workload.id ≠ externalID «namespace» name := by
  intro same
  exact inside (kind_text_injective (join_cons_injective (List.cons_ne_nil _ _) (List.cons_ne_nil _ _)
    (kind_chars _).1 (kind_chars _).1 same).1)

theorem externalID_injective {space name : Name} {place : String × String}
    (same : externalID space.text name.text = externalID place.1 place.2) : place = (space.text, name.text) := by
  obtain ⟨spaces, names⟩ := place_injective (join_cons_injective (List.cons_ne_nil _ _) (List.cons_ne_nil _ _)
    (kind_chars _).1 (kind_chars _).1 same).2
  exact Prod.ext spaces.symm names.symm

theorem mem_extraNodes {samples : List (PromSample R)} {node : NetNode} (made : node ∈ extraNodes workloads samples) :
    ∃ place ∈ unresolved workloads samples, node = extraNode place := by
  obtain ⟨place, absent, rfl⟩ := List.mem_map.mp ((Distinct.firsts_sublist [] _).subset made)
  exact ⟨place, absent, rfl⟩

theorem externalDBNode_some {svc : Service} {node : NetNode} (made : externalDBNode svc = some node) :
    node.id = externalID svc.namespace.text svc.name.text ∧ node.namespace = svc.namespace.text ∧ node.kind = .external := by
  unfold externalDBNode at made
  split at made
  next => cases made; exact ⟨rfl, rfl, rfl⟩
  next =>
    split at made
    next => cases made; exact ⟨rfl, rfl, rfl⟩
    next => cases made

theorem externalDBNodes_read : (externalDBNodes cluster ns).toOption.getD [] =
    if cluster.fails .services then [] else (inNamespace Service.namespace ns cluster.services).filterMap externalDBNode := by
  unfold externalDBNodes Cluster.list
  split <;> rfl

theorem extraNodes_nodup (samples : List (PromSample R)) : ((extraNodes workloads samples).map NetNode.id).Nodup :=
  Distinct.firsts_nodup [] _

theorem databases_nodup (cluster : Cluster) (ns : String) :
    (((inNamespace Service.namespace ns cluster.services).filterMap externalDBNode).map NetNode.id).Nodup := by
  have unique := List.pairwise_map.mp (@unique_inNamespace ns _ _ _ _ cluster.servicesDistinct)
  rw [List.Nodup, List.pairwise_map, List.pairwise_filterMap]
  apply unique.imp
  intro first second different one left two right same
  rw [(externalDBNode_some left).1, (externalDBNode_some right).1] at same
  have place : (second.namespace.text, second.name.text) = (first.namespace.text, first.name.text) :=
    @externalID_injective first.namespace first.name (second.namespace.text, second.name.text) same
  obtain ⟨spaces, names⟩ := Prod.mk.inj place
  exact different (Prod.ext (name_text_injective spaces.symm) (name_text_injective names.symm))

/-- A map is a graph: its nodes have ids of their own, and its edges connect
them. -/
structure WellFormed (map : NetMap R) : Prop where
  distinct : (map.nodes.map NetNode.id).Nodup
  policy : ∀ edge ∈ map.edges, edge.source ∈ map.nodes.map NetNode.id ∧ edge.target ∈ map.nodes.map NetNode.id
  inferred : ∀ edge ∈ map.inferred, edge.source ∈ map.nodes.map NetNode.id ∧ edge.target ∈ map.nodes.map NetNode.id
  traffic : ∀ edge ∈ map.traffic, edge.source ∈ map.nodes.map NetNode.id ∧ edge.target ∈ map.nodes.map NetNode.id

/-- No end of a shown flow that is not a workload has the namespace and name of a
Service that is shown as an external database. -/
def NamesApart (env : Env R) (cluster : Cluster) (ns : String) (workloads : List Workload) : Prop :=
  cluster.fails .services = false → ∀ place ∈ unresolved workloads (keptFlows env ns),
    ∀ svc ∈ inNamespace Service.namespace ns cluster.services, (externalDBNode svc).isSome = true →
      place ≠ (svc.namespace.text, svc.name.text)

theorem nodes_ids (built : buildNetworkMap env cluster ns = .ok map) (listed : listWorkloads env.toLower cluster ns = .ok workloads) :
    map.nodes.map NetNode.id = workloads.map Workload.id ++ (extraNodes workloads (keptFlows env ns)).map NetNode.id ++
      ((externalDBNodes cluster ns).toOption.getD []).map NetNode.id := by
  rw [(build_ok built listed).1, List.map_append, List.map_append, List.map_map, meshTraffic_flows]
  rfl

theorem node_cases (built : buildNetworkMap env cluster ns = .ok map) (listed : listWorkloads env.toLower cluster ns = .ok workloads)
    {node : NetNode} (among : node ∈ map.nodes) :
    (∃ workload ∈ workloads,
      node = workloadNode env (inNamespace NetworkPolicy.namespace ns cluster.networkPolicies) workload) ∨
    (∃ place ∈ unresolved workloads (keptFlows env ns), node = extraNode place) ∨
    ∃ svc ∈ inNamespace Service.namespace ns cluster.services, externalDBNode svc = some node := by
  rw [(build_ok built listed).1, meshTraffic_flows, externalDBNodes_read, List.mem_append, List.mem_append] at among
  rcases among with (inside | extra) | database
  · obtain ⟨workload, member, rfl⟩ := List.mem_map.mp inside
    exact Or.inl ⟨workload, member, rfl⟩
  · exact Or.inr (Or.inl (mem_extraNodes extra))
  · split at database
    next => cases database
    next =>
      obtain ⟨svc, selected, made⟩ := List.mem_filterMap.mp database
      exact Or.inr (Or.inr ⟨svc, selected, made⟩)

theorem mem_appEdges {cmData : StringMap} {svcs : List ResolvedSvc} {app : Workload} {edge : InferredEdge} :
    edge ∈ appEdges env cmData svcs app ↔ trimSpace (searchedText cmData app) ≠ "" ∧
      ∃ svc ∈ svcs, referencesService env (searchedText cmData app) svc.name svc.tokens = true ∧
        ∃ backend ∈ svc.backends, backend ≠ app.id ∧ edge = inferredEdge app svc backend := by
  unfold appEdges
  split
  next empty => simp [empty]
  next some =>
    simp only [List.mem_flatMap, List.mem_filter, List.mem_map, decide_eq_true_eq, ne_eq, some, not_false_eq_true, true_and]
    constructor
    · intro ⟨svc, ⟨listed, refers⟩, backend, ⟨selected, other⟩, same⟩
      exact ⟨svc, listed, refers, backend, selected, other, same.symm⟩
    · intro ⟨svc, listed, refers, backend, selected, other, same⟩
      exact ⟨svc, ⟨listed, refers⟩, backend, ⟨selected, other⟩, same.symm⟩

theorem mem_backends {svc : Service} {resolved : ResolvedSvc} (is : resolveService env workloads svc = some resolved)
    {backend : String} (behind : backend ∈ resolved.backends) :
    ∃ workload ∈ workloads, workload.namespace = svc.namespace ∧ backend = workload.id := by
  unfold resolveService at is
  dsimp only at is
  split at is
  next => cases is
  next =>
    cases is
    obtain ⟨workload, selected, rfl⟩ := List.mem_map.mp behind
    have conditions := List.mem_filter.mp selected
    simp only [Bool.and_eq_true, decide_eq_true_eq] at conditions
    exact ⟨workload, conditions.1, conditions.2.1, rfl⟩

theorem inferred_ends {edge : InferredEdge} (drawn : edge ∈ inferredConnections env cluster workloads ns) :
    edge.source ∈ workloads.map Workload.id ∧ edge.target ∈ workloads.map Workload.id := by
  unfold inferredConnections at drawn
  split at drawn
  next => cases drawn
  next services _ =>
    obtain ⟨app, listed, of⟩ := List.mem_flatMap.mp ((Distinct.firsts_sublist [] _).subset drawn)
    obtain ⟨_, svc, resolved, _, backend, behind, _, rfl⟩ := mem_appEdges.mp of
    obtain ⟨service, _, is⟩ := List.mem_filterMap.mp resolved
    obtain ⟨workload, target, _, same⟩ := mem_backends is behind
    exact ⟨List.mem_map_of_mem listed, same ▸ List.mem_map_of_mem target⟩

theorem nodes_distinct_iff (built : buildNetworkMap env cluster ns = .ok map)
    (listed : listWorkloads env.toLower cluster ns = .ok workloads) :
    (map.nodes.map NetNode.id).Nodup ↔ NamesApart env cluster ns workloads := by
  rw [nodes_ids built listed, externalDBNodes_read]
  constructor
  · intro nodup readable place absent svc inside shown same
    rw [readable] at nodup
    obtain ⟨node, made⟩ := Option.isSome_iff_exists.mp shown
    apply List.disjoint_of_nodup_append nodup (List.mem_append_right _ (mem_extra absent))
    refine List.mem_map.mpr ⟨node, List.mem_filterMap.mpr ⟨svc, inside, made⟩, ?_⟩
    rw [(externalDBNode_some made).1, same]
  · intro apart
    have inside : ((workloads.map Workload.id) ++ (extraNodes workloads (keptFlows env ns)).map NetNode.id).Nodup := by
      rw [List.nodup_append]
      refine ⟨ids_nodup listed, extraNodes_nodup _, ?_⟩
      intro id left other right same
      obtain ⟨workload, member, rfl⟩ := List.mem_map.mp left
      obtain ⟨node, extra, rfl⟩ := List.mem_map.mp right
      obtain ⟨place, _, rfl⟩ := mem_extraNodes extra
      exact id_ne_external (workload_kind listed member) _ _ same
    cases readable : cluster.fails .services with
    | true => simpa using inside
    | false =>
      rw [List.nodup_append]
      refine ⟨inside, databases_nodup cluster ns, ?_⟩
      intro id left other right same
      obtain ⟨database, made, rfl⟩ := List.mem_map.mp right
      obtain ⟨svc, selected, shown⟩ := List.mem_filterMap.mp made
      rw [(externalDBNode_some shown).1] at same
      rcases List.mem_append.mp left with left | left
      · obtain ⟨workload, member, rfl⟩ := List.mem_map.mp left
        exact id_ne_external (workload_kind listed member) _ _ same
      · obtain ⟨node, extra, rfl⟩ := List.mem_map.mp left
        obtain ⟨place, absent, rfl⟩ := mem_extraNodes extra
        exact apart readable place absent svc selected (by rw [shown]; rfl) (externalID_injective same.symm)

/-- The map is a graph exactly when no end of a flow has the name of a Service
that is shown as an external database. -/
theorem wellFormed_iff (built : buildNetworkMap env cluster ns = .ok map)
    (listed : listWorkloads env.toLower cluster ns = .ok workloads) :
    WellFormed map ↔ NamesApart env cluster ns workloads := by
  constructor
  · intro wellFormed
    exact (nodes_distinct_iff built listed).mp wellFormed.distinct
  · intro apart
    have ids := nodes_ids built listed
    have workloadIds : ∀ id ∈ workloads.map Workload.id, id ∈ map.nodes.map NetNode.id := by
      intro id member
      rw [ids]
      exact List.mem_append_left _ (List.mem_append_left _ member)
    constructor
    case distinct => exact (nodes_distinct_iff built listed).mpr apart
    case policy =>
      intro edge drawn
      rw [(build_ok built listed).2.1] at drawn
      obtain ⟨workload, member, of⟩ := List.mem_flatMap.mp drawn
      obtain ⟨_, target, source, found, origin⟩ := ingressEdges_ends of
      rw [target, origin]
      exact ⟨workloadIds _ (List.mem_map_of_mem found), workloadIds _ (List.mem_map_of_mem member)⟩
    case inferred =>
      intro edge drawn
      rw [(build_ok built listed).2.2.2] at drawn
      exact (inferred_ends drawn).imp (workloadIds _) (workloadIds _)
    case traffic =>
      intro edge drawn
      rw [(build_ok built listed).2.2.1, meshTraffic_flows] at drawn
      obtain ⟨sample, shown, rfl⟩ := List.mem_map.mp drawn
      rw [ids]
      exact ⟨List.mem_append_left _ (resolve_mem shown (Or.inl rfl)), List.mem_append_left _ (resolve_mem shown (Or.inr rfl))⟩

/-- Surroundings with a mesh that reports these flows. -/
def meshEnv (samples : List (PromSample Nat)) : Env Nat where
  labelSelectorAsSelector := plainEnv.labelSelectorAsSelector
  toLower text := text
  promQuery _ query := .ok (if query = istioRateQuery then samples else [⟨[], 1⟩])
  positive value := 0 < value
  visited := plainEnv.visited
  visitedPerm := plainEnv.visitedPerm

def flow (source destination : String × String) : PromSample Nat where
  metric := [("source_workload_namespace", source.1), ("source_workload", source.2),
    ("destination_workload_namespace", destination.1), ("destination_workload", destination.2)]
  value := 1

def ordersAlias : Service := ⟨shop, ⟨"orders-db", rfl⟩, .externalName, "orders.example.com", [], []⟩

theorem ordersAlias_unique : UniqueNames Service.namespace Service.name [ordersAlias] := List.nodup_singleton _

/-- A cluster with an alias for a database outside. -/
def aliased : Cluster := { twoRules with services := [ordersAlias], servicesDistinct := ordersAlias_unique }

/-- Of two flows from one workload, one goes to a far end with a node of its own. -/
theorem wellFormed_aliased : ∃ map,
    buildNetworkMap (meshEnv [flow ("shop", "web") ("shop", "api"), flow ("shop", "web") ("data", "orders")]) aliased "" = .ok map ∧
      WellFormed map ∧ map.traffic.map TrafficEdge.target = ["Deployment/shop/api", "External/data/orders"] := by
  have listed : listWorkloads (meshEnv [flow ("shop", "web") ("shop", "api"), flow ("shop", "web") ("data", "orders")]).toLower aliased "" =
    .ok [webWorkload, apiWorkload] := rfl
  obtain ⟨map, built⟩ := build_exists listed rfl
  refine ⟨map, built, (wellFormed_iff built listed).mpr fun _ => by decide +kernel, ?_⟩
  rw [(build_ok built listed).2.2.1]
  decide +kernel

/-- A flow to pods that no workload owns has the same id as the alias of the same
name. -/
theorem external_id_shared : ∃ map,
    buildNetworkMap (meshEnv [flow ("shop", "web") ("shop", "orders-db")]) aliased "" = .ok map ∧ ¬WellFormed map := by
  have listed : listWorkloads (meshEnv [flow ("shop", "web") ("shop", "orders-db")]).toLower aliased "" =
    .ok [webWorkload, apiWorkload] := rfl
  obtain ⟨map, built⟩ := build_exists listed rfl
  refine ⟨map, built, ?_⟩
  intro wellFormed
  have apart := (nodes_distinct_iff built listed).mp wellFormed.distinct
  exact apart rfl ("shop", "orders-db") (by decide +kernel) ordersAlias (by decide +kernel) (by decide +kernel) rfl

end K8Sense.Doctor.NetworkMap
