import K8Sense.Doctor.NetworkGraph

/-! The map of a namespace beside the map of the whole cluster. -/

namespace K8Sense.Doctor.NetworkMap
open Text

variable {R : Type} {env : Env R} {cluster : Cluster} {ns : String} {whole part : NetMap R} {all inside : List Workload}

theorem listWorkloads_inside (wholeListed : listWorkloads env.toLower cluster "" = .ok all)
    (partListed : listWorkloads env.toLower cluster ns = .ok inside) : inside = inNamespace Workload.namespace ns all := by
  rw [listWorkloads_ok wholeListed, listWorkloads_ok partListed, inNamespace, List.filter_flatMap]
  congr 1
  funext kind
  simp only [inNamespace, List.filter_map, decide_true, Bool.true_or, List.filter_true]
  rfl

theorem inNamespace_all {α : Type} {scope : α → Name} {objects : List α} : inNamespace scope "" objects = objects := by
  simp [inNamespace]

theorem flatMap_filter {α β : Type} {kept : α → Bool} {items : List α} {f : α → List β}
    (outside : ∀ item ∈ items, kept item = false → f item = []) : (items.filter kept).flatMap f = items.flatMap f := by
  induction items with
  | nil => rfl
  | cons item rest ih =>
    have tail := ih fun other member => outside other (List.mem_cons_of_mem _ member)
    cases keep : kept item with
    | true => simp [keep, tail]
    | false => simp [keep, tail, outside item List.mem_cons_self keep]

theorem flatMap_inNamespace {α β : Type} {scope : α → Name} {objects : List α} {f : α → List β}
    (outside : ∀ object ∈ objects, (ns = "" || (scope object).text = ns) = false → f object = []) :
    (inNamespace scope ns objects).flatMap f = objects.flatMap f :=
  flatMap_filter outside

theorem matchingSources_inside {peer : NetworkPolicyPeer} {targetNS : Name} :
    matchingSources env peer targetNS (inNamespace Workload.namespace ns all) =
      inNamespace Workload.namespace ns (matchingSources env peer targetNS all) := by
  unfold matchingSources inNamespace
  split
  next => rfl
  next =>
    rw [List.filter_filter, List.filter_filter]
    apply List.filter_congr
    intro workload _
    rw [Bool.and_comm]

/-- The predicate tells from the id of a workload whether it lies in the
namespace. -/
def Tells (ns : String) (all : List Workload) (lies : String → Bool) : Prop :=
  ∀ workload ∈ all, lies workload.id = (ns = "" || workload.namespace.text = ns)

theorem ruleEdges_inside {lies : String → Bool} (tells : Tells ns all lies) (target : Workload) (rule : NetworkPolicyIngressRule) :
    ruleEdges env target (inNamespace Workload.namespace ns all) rule =
      (ruleEdges env target all rule).filter fun edge => lies edge.source := by
  unfold ruleEdges
  rw [List.filter_flatMap]
  congr 1
  funext peer
  rw [matchingSources_inside, inNamespace, List.filter_map, List.filter_filter, List.filter_filter]
  congr 1
  apply List.filter_congr
  intro source member
  have told := tells source (mem_matchingSources.mp member).1
  simp only [Function.comp_def, ingressEdge, told]
  rw [Bool.and_comm]

theorem ingressEdges_inside {lies : String → Bool} (tells : Tells ns all lies) (target : Workload) (selecting : List NetworkPolicy) :
    ingressEdges env target selecting (inNamespace Workload.namespace ns all) =
      (ingressEdges env target selecting all).filter fun edge => lies edge.source := by
  rw [ingressEdges_source, ingressEdges_source, Distinct.filter_firsts, List.filter_flatMap]
  · congr 2
    funext rule
    exact ruleEdges_inside tells target rule
  · intro first _ second _ same
    rw [same]

theorem edges_inside (wholeBuilt : buildNetworkMap env cluster "" = .ok whole) (partBuilt : buildNetworkMap env cluster ns = .ok part)
    (wholeListed : listWorkloads env.toLower cluster "" = .ok all) {lies : String → Bool} (tells : Tells ns all lies) :
    part.edges = whole.edges.filter fun edge => lies edge.source && lies edge.target := by
  obtain ⟨inside, partListed⟩ := build_listed partBuilt
  have scope := listWorkloads_inside wholeListed partListed
  have outside : ∀ workload ∈ all, (ns = "" || workload.namespace.text = ns) = false →
      ((ingressEdges env workload (selectingIngressPolicies env workload
        (inNamespace NetworkPolicy.namespace "" cluster.networkPolicies)) all).filter fun edge =>
          lies edge.source && lies edge.target) = [] := by
    intro workload listed outside
    rw [List.filter_eq_nil_iff]
    intro edge drawn
    rw [(ingressEdges_ends drawn).2.1, tells workload listed, outside, Bool.and_false]
    decide
  rw [(build_ok wholeBuilt wholeListed).2.1, (build_ok partBuilt partListed).2.1, List.filter_flatMap, scope,
    ← flatMap_inNamespace outside]
  apply List.flatMap_congr
  intro workload member
  obtain ⟨listed, within⟩ := List.mem_filter.mp member
  rw [ingressEdges_inside tells, selecting_inNamespace (by simpa using within), selecting_inNamespace (Or.inl rfl)]
  apply List.filter_congr
  intro edge drawn
  rw [(ingressEdges_ends drawn).2.1, tells workload listed, within, Bool.and_true]

theorem id_free (workload : Workload) : '>' ∉ workload.id.toList := by
  have other : isNameChar '>' = false := by decide
  rw [Workload.id, join_cons (List.cons_ne_nil _ _), join_cons (List.cons_ne_nil _ _), join_singleton]
  simp [kind_chars, name_free _ other]

theorem inferredEdge_id_iff {app other : Workload} {svc next : ResolvedSvc} {backend target : String} :
    (inferredEdge app svc backend).id = (inferredEdge other next target).id ↔ app.id = other.id ∧ backend = target := by
  have shape : ∀ source goal : String,
      concat "" ["infer:", source, "->", goal] = join '>' [concat "" ["infer:", source, "-"], goal] := by
    intro source goal
    apply String.toList_injective
    simp [concat, join, List.intercalate]
  have free : ∀ workload : Workload, '>' ∉ (concat "" ["infer:", workload.id, "-"]).toList := by
    intro workload
    simp [concat, List.intercalate, id_free]
  rw [inferredEdge, inferredEdge, shape, shape]
  constructor
  · intro same
    obtain ⟨sources, targets⟩ := join_cons_injective (List.cons_ne_nil _ _) (List.cons_ne_nil _ _) (free app) (free other) same
    rw [join_singleton, join_singleton] at targets
    refine ⟨?_, targets⟩
    have chars := congrArg String.toList sources
    apply String.toList_injective
    simpa [concat, List.intercalate] using chars
  · rintro ⟨same, rfl⟩
    rw [same]

theorem resolveService_inside {svc : Service} (within : ns = "" ∨ svc.namespace.text = ns) :
    resolveService env (inNamespace Workload.namespace ns all) svc = resolveService env all svc := by
  have backends : (inNamespace Workload.namespace ns all).filter (fun workload =>
        workload.namespace = svc.namespace && selectorSubset svc.selector workload.labels) =
      all.filter fun workload => workload.namespace = svc.namespace && selectorSubset svc.selector workload.labels := by
    rw [inNamespace, List.filter_filter]
    apply List.filter_congr
    intro workload _
    by_cases same : workload.namespace = svc.namespace
    · rw [same]
      simp [within]
    · simp [same]
  rw [resolveService, resolveService, backends]

theorem configMapText_read : configMapText env cluster ns =
    if cluster.fails .configMaps then [] else (inNamespace ConfigMap.namespace ns cluster.configMaps).map (configMapEntry env) := by
  unfold configMapText Cluster.list
  cases cluster.fails .configMaps <;> rfl

theorem configMapText_inside {app : Workload} (within : ns = "" ∨ app.namespace.text = ns) (cm : String) :
    (configMapText env cluster ns).get (join '/' [app.namespace.text, cm]) =
      (configMapText env cluster "").get (join '/' [app.namespace.text, cm]) := by
  have found : Keyed.lookup (join '/' [app.namespace.text, cm])
        ((inNamespace ConfigMap.namespace ns cluster.configMaps).map (configMapEntry env)) =
      Keyed.lookup (join '/' [app.namespace.text, cm])
        ((inNamespace ConfigMap.namespace "" cluster.configMaps).map (configMapEntry env)) := by
    rw [Keyed.lookup, Keyed.lookup, List.find?_map, List.find?_map, inNamespace, inNamespace, List.find?_filter, List.find?_filter]
    congr 3
    funext configMap
    by_cases named : (configMapEntry env configMap).1 = join '/' [app.namespace.text, cm]
    · have space := (place_injective named).1
      simp [space, within]
    · simp [named]
  rw [configMapText_read, configMapText_read]
  split
  next => rfl
  next => rw [StringMap.get, StringMap.get, found]

theorem searchedText_inside {app : Workload} (within : ns = "" ∨ app.namespace.text = ns) :
    searchedText (configMapText env cluster ns) app = searchedText (configMapText env cluster "") app := by
  simp only [searchedText, configMapText_inside within]

theorem appEdges_services {cmData : StringMap} {services : List Service} {app : Workload} :
    appEdges env cmData (services.filterMap (resolveService env all)) app =
      services.flatMap fun svc => appEdges env cmData (resolveService env all svc).toList app := by
  induction services with
  | nil => simp [appEdges]
  | cons svc rest ih =>
    rw [List.flatMap_cons, ← ih]
    cases resolved : resolveService env all svc with
    | none => simp [resolved, appEdges]
    | some backends =>
      unfold appEdges
      split
      next => rfl
      next => cases refers : referencesService env (searchedText cmData app) backends.name backends.tokens <;> simp [resolved, refers]

theorem appEdges_inside {lies : String → Bool} (tells : Tells ns all lies) {app : Workload}
    (within : ns = "" ∨ app.namespace.text = ns) (services : List Service) :
    appEdges env (configMapText env cluster ns) ((inNamespace Service.namespace ns services).filterMap
        (resolveService env (inNamespace Workload.namespace ns all))) app =
      (appEdges env (configMapText env cluster "") (services.filterMap (resolveService env all)) app).filter
        fun edge => lies edge.target := by
  have target : ∀ svc, ∀ edge ∈ appEdges env (configMapText env cluster "") (resolveService env all svc).toList app,
      lies edge.target = (ns = "" || svc.namespace.text = ns) := by
    intro svc edge drawn
    obtain ⟨_, resolved, is, _, backend, behind, _, rfl⟩ := mem_appEdges.mp drawn
    obtain ⟨workload, listed, space, rfl⟩ := mem_backends (Option.mem_toList.mp is) behind
    rw [← space]
    exact tells workload listed
  have outside : ∀ svc ∈ services, (ns = "" || svc.namespace.text = ns) = false →
      ((appEdges env (configMapText env cluster "") (resolveService env all svc).toList app).filter
        fun edge => lies edge.target) = [] := by
    intro svc _ outside
    rw [List.filter_eq_nil_iff]
    intro edge drawn
    rw [target svc edge drawn, outside]
    decide
  rw [appEdges_services, appEdges_services, List.filter_flatMap, ← flatMap_inNamespace outside]
  apply List.flatMap_congr
  intro svc member
  have scope := (List.mem_filter.mp member).2
  have same : appEdges env (configMapText env cluster ns) (resolveService env all svc).toList app =
      appEdges env (configMapText env cluster "") (resolveService env all svc).toList app := by
    simp only [appEdges, searchedText_inside within]
  rw [resolveService_inside (by simpa using scope), same, List.filter_eq_self.mpr]
  intro edge drawn
  rw [target svc edge drawn, scope]

theorem inferredConnections_read : inferredConnections env cluster all ns =
    if cluster.fails .services then [] else Distinct.firsts InferredEdge.id [] (all.flatMap (appEdges env (configMapText env cluster ns)
      ((inNamespace Service.namespace ns cluster.services).filterMap (resolveService env all)))) := by
  unfold inferredConnections Cluster.list
  cases cluster.fails .services <;> rfl

theorem inferred_inside {lies : String → Bool} (tells : Tells ns all lies) :
    inferredConnections env cluster (inNamespace Workload.namespace ns all) ns =
      (inferredConnections env cluster all "").filter fun edge => lies edge.source && lies edge.target := by
  have outside : ∀ app ∈ all, (ns = "" || app.namespace.text = ns) = false →
      ((appEdges env (configMapText env cluster "") ((inNamespace Service.namespace "" cluster.services).filterMap
        (resolveService env all)) app).filter fun edge => lies edge.source && lies edge.target) = [] := by
    intro app listed outside
    rw [List.filter_eq_nil_iff]
    intro edge drawn
    obtain ⟨_, _, _, _, _, _, _, rfl⟩ := mem_appEdges.mp drawn
    rw [inferredEdge_source, tells app listed, outside]
    simp
  rw [inferredConnections_read, inferredConnections_read]
  split
  next => rfl
  next =>
    rw [Distinct.filter_firsts, List.filter_flatMap, ← flatMap_inNamespace outside]
    · apply congrArg (Distinct.firsts InferredEdge.id [])
      apply List.flatMap_congr
      intro app member
      obtain ⟨listed, scope⟩ := List.mem_filter.mp member
      rw [inNamespace_all, appEdges_inside tells (by simpa using scope)]
      apply List.filter_congr
      intro edge drawn
      obtain ⟨_, _, _, _, _, _, _, rfl⟩ := mem_appEdges.mp drawn
      rw [inferredEdge_source, tells app listed, scope, Bool.true_and]
    · intro first left second right same
      obtain ⟨app, _, drawn⟩ := List.mem_flatMap.mp left
      obtain ⟨other, _, also⟩ := List.mem_flatMap.mp right
      obtain ⟨_, svc, _, _, backend, _, _, rfl⟩ := mem_appEdges.mp drawn
      obtain ⟨_, next, _, _, target, _, _, rfl⟩ := mem_appEdges.mp also
      obtain ⟨sources, targets⟩ := inferredEdge_id_iff.mp same
      simp only [inferredEdge_source, inferredEdge_target, sources, targets]

/-- A flow has an end in the namespace. -/
def PromSample.touches (ns : String) (sample : PromSample R) : Bool :=
  sample.source.1 = ns || sample.destination.1 = ns

theorem keptFlows_inside (named : ns ≠ "") : keptFlows env ns = (keptFlows env "").filter (PromSample.touches ns) := by
  unfold keptFlows
  cases findIstioPrometheus env with
  | none => rfl
  | some ep =>
    rw [List.filter_filter]
    apply List.filter_congr
    intro sample _
    simp only [PromSample.isKept, PromSample.touches, named, decide_false, Bool.false_or, decide_true, Bool.true_or, Bool.and_true]
    rw [Bool.and_comm]

theorem findByKey_inside {place : String × String} (here : place.1 = ns) :
    findByKey (inNamespace Workload.namespace ns all) place = findByKey all place := by
  rw [findByKey, findByKey, inNamespace, ← List.filter_reverse, List.find?_filter]
  congr 1
  funext workload
  by_cases named : join '/' [workload.namespace.text, workload.name.text] = join '/' [place.1, place.2]
  · rw [(place_injective named).1, here]
    simp
  · simp [named]

theorem unresolved_inside (samples : List (PromSample R)) :
    (unresolved (inNamespace Workload.namespace ns all) (samples.filter (PromSample.touches ns))).filter (fun place => place.1 = ns) =
      (unresolved all samples).filter fun place => place.1 = ns := by
  have outside : ∀ sample ∈ samples, sample.touches ns = false →
      [sample.source, sample.destination].filter (fun place => place.1 = ns && (findByKey all place).isNone) = [] := by
    intro sample _ apart
    rw [PromSample.touches, Bool.or_eq_false_iff] at apart
    simp [apart]
  have resolved : ∀ place : String × String,
      (place.1 = ns && (findByKey (inNamespace Workload.namespace ns all) place).isNone) =
        (place.1 = ns && (findByKey all place).isNone : Bool) := by
    intro place
    by_cases here : place.1 = ns
    · rw [findByKey_inside here]
    · simp [here]
  rw [unresolved, unresolved, List.filter_filter, List.filter_filter]
  simp only [resolved]
  rw [List.filter_flatMap, List.filter_flatMap, flatMap_filter outside]

theorem extraNodes_inside (named : ns ≠ "") (telemetry : ∀ sample ∈ keptFlows env "",
    '/' ∉ sample.source.1.toList ∧ '/' ∉ sample.destination.1.toList) :
    (extraNodes (inNamespace Workload.namespace ns all) (keptFlows env ns)).filter (fun node => node.namespace = ns) =
      (extraNodes all (keptFlows env "")).filter fun node => node.namespace = ns := by
  have decided : ∀ workloads : List Workload, ∀ samples : List (PromSample R), samples ⊆ keptFlows env "" →
      ∀ first ∈ (unresolved workloads samples).map extraNode, ∀ second ∈ (unresolved workloads samples).map extraNode,
        first.id = second.id → decide (first.namespace = ns) = decide (second.namespace = ns) := by
    intro workloads samples among first left second right same
    have free : ∀ place ∈ unresolved workloads samples, '/' ∉ place.1.toList := by
      intro place absent
      obtain ⟨sample, shown, ends⟩ := List.mem_flatMap.mp (List.mem_filter.mp absent).1
      obtain ⟨source, destination⟩ := telemetry sample (among shown)
      rcases List.mem_pair.mp ends with rfl | rfl
      · exact source
      · exact destination
    obtain ⟨place, absent, rfl⟩ := List.mem_map.mp left
    obtain ⟨other, also, rfl⟩ := List.mem_map.mp right
    have places := (join_cons_injective (List.cons_ne_nil _ _) (List.cons_ne_nil _ _) (kind_chars _).1 (kind_chars _).1 same).2
    have spaces := (join_cons_injective (List.cons_ne_nil _ _) (List.cons_ne_nil _ _) (free place absent) (free other also) places).1
    show decide (place.1 = ns) = decide (other.1 = ns)
    rw [spaces]
  have again : ∀ places : List (String × String), (places.map extraNode).filter (fun node => node.namespace = ns) =
      (places.filter fun place => place.1 = ns).map extraNode := by
    intro places
    rw [List.filter_map]
    rfl
  rw [extraNodes, extraNodes, Distinct.filter_firsts, Distinct.filter_firsts, again, again, keptFlows_inside named, unresolved_inside]
  · exact decided _ _ (List.Subset.refl _)
  · apply decided
    rw [keptFlows_inside named]
    exact List.filter_sublist.subset

theorem workloadNodes_inside (policies : List NetworkPolicy) :
    ((inNamespace Workload.namespace ns all).map (workloadNode env (inNamespace NetworkPolicy.namespace ns policies))).filter
        (fun node => node.namespace = ns) =
      (all.map (workloadNode env (inNamespace NetworkPolicy.namespace "" policies))).filter fun node => node.namespace = ns := by
  have lists : (inNamespace Workload.namespace ns all).filter (fun workload => workload.namespace.text = ns) =
      all.filter fun workload => workload.namespace.text = ns := by
    rw [inNamespace, List.filter_filter]
    apply List.filter_congr
    intro workload _
    by_cases same : workload.namespace.text = ns <;> simp [same]
  rw [List.filter_map, List.filter_map]
  show ((inNamespace Workload.namespace ns all).filter fun workload => workload.namespace.text = ns).map _ =
    (all.filter fun workload => workload.namespace.text = ns).map _
  rw [lists]
  apply List.map_congr_left
  intro workload member
  have here : workload.namespace.text = ns := by simpa using (List.mem_filter.mp member).2
  rw [workloadNode, workloadNode, selecting_inNamespace (Or.inr here), inNamespace_all]

theorem externalDBNodes_inside : ((externalDBNodes cluster ns).toOption.getD []).filter (fun node => node.namespace = ns) =
    ((externalDBNodes cluster "").toOption.getD []).filter fun node => node.namespace = ns := by
  rw [externalDBNodes_read, externalDBNodes_read, inNamespace_all]
  split
  next => rfl
  next =>
    rw [inNamespace, List.filterMap_filter, List.filter_filterMap, List.filter_filterMap]
    apply List.filterMap_congr
    intro svc _
    by_cases here : svc.namespace.text = ns
    · simp [here]
    · cases made : externalDBNode svc with
      | none => simp
      | some node =>
        have apart : node.namespace ≠ ns := by
          rw [(externalDBNode_some made).2.1]
          exact here
        cases scope : (ns = "" || svc.namespace.text = ns : Bool) with
        | true => simp [Option.filter, apart]
        | false => simp [Option.filter, apart]

theorem nodes_inside (named : ns ≠ "") (wholeBuilt : buildNetworkMap env cluster "" = .ok whole)
    (partBuilt : buildNetworkMap env cluster ns = .ok part)
    (telemetry : ∀ sample ∈ keptFlows env "", '/' ∉ sample.source.1.toList ∧ '/' ∉ sample.destination.1.toList) :
    part.nodes.filter (fun node => node.namespace = ns) = whole.nodes.filter fun node => node.namespace = ns := by
  obtain ⟨all, wholeListed⟩ := build_listed wholeBuilt
  obtain ⟨inside, partListed⟩ := build_listed partBuilt
  obtain rfl := listWorkloads_inside wholeListed partListed
  rw [(build_ok partBuilt partListed).1, (build_ok wholeBuilt wholeListed).1, meshTraffic_flows, meshTraffic_flows]
  simp only [List.filter_append, workloadNodes_inside, externalDBNodes_inside, extraNodes_inside named telemetry]

/-- A node of the map with this id lies in the namespace. -/
def NetMap.liesIn (map : NetMap R) (ns id : String) : Bool :=
  map.nodes.any fun node => node.id = id && node.namespace = ns

theorem liesIn_tells (named : ns ≠ "") (built : buildNetworkMap env cluster "" = .ok whole)
    (listed : listWorkloads env.toLower cluster "" = .ok all) : Tells ns all (whole.liesIn ns) := by
  intro workload member
  have there : workloadNode env (inNamespace NetworkPolicy.namespace "" cluster.networkPolicies) workload ∈ whole.nodes := by
    rw [(build_ok built listed).1]
    exact List.mem_append_left _ (List.mem_append_left _ (List.mem_map_of_mem member))
  have only : ∀ node ∈ whole.nodes, node.id = workload.id → node.namespace = workload.namespace.text := by
    intro node among same
    rcases node_cases built listed among with ⟨other, found, rfl⟩ | ⟨place, _, rfl⟩ | ⟨svc, _, made⟩
    · rw [List.inj_on_of_nodup_map (ids_nodup listed) found member same]
      rfl
    · exact absurd same.symm (id_ne_external (workload_kind listed member) _ _)
    · rw [(externalDBNode_some made).1] at same
      exact absurd same.symm (id_ne_external (workload_kind listed member) _ _)
  rw [Bool.eq_iff_iff, NetMap.liesIn, List.any_eq_true]
  simp only [named, decide_false, Bool.false_or, Bool.and_eq_true, decide_eq_true_eq]
  constructor
  · intro ⟨node, among, same, here⟩
    rw [← only node among same, here]
  · intro here
    exact ⟨_, there, rfl, here⟩

theorem far_nodes (named : ns ≠ "") (built : buildNetworkMap env cluster ns = .ok part) {node : NetNode} (among : node ∈ part.nodes)
    (away : node.namespace ≠ ns) : ∃ sample ∈ keptFlows env ns,
      node = extraNode sample.source ∧ sample.destination.1 = ns ∨ node = extraNode sample.destination ∧ sample.source.1 = ns := by
  obtain ⟨inside, listed⟩ := build_listed built
  rcases node_cases built listed among with ⟨workload, member, rfl⟩ | ⟨place, absent, rfl⟩ | ⟨svc, selected, made⟩
  · exact absurd ((workload_inNamespace listed member).resolve_left named) away
  · obtain ⟨sample, shown, ends⟩ := List.mem_flatMap.mp (List.mem_filter.mp absent).1
    refine ⟨sample, shown, ?_⟩
    rw [keptFlows_inside named] at shown
    have touches := (List.mem_filter.mp shown).2
    rw [PromSample.touches, Bool.or_eq_true, decide_eq_true_eq, decide_eq_true_eq] at touches
    rcases List.mem_pair.mp ends with rfl | rfl
    · exact Or.inl ⟨rfl, touches.resolve_left away⟩
    · exact Or.inr ⟨rfl, touches.resolve_right away⟩
  · have scope := (List.mem_filter.mp selected).2
    rw [Bool.or_eq_true, decide_eq_true_eq, decide_eq_true_eq] at scope
    rw [(externalDBNode_some made).2.1] at away
    exact absurd (scope.resolve_left named) away

/-- The map of a namespace is the part of the map of the cluster that lies in it,
together with the far ends of the flows that touch it. -/
theorem namespace_filter_restricts (named : ns ≠ "") (wholeBuilt : buildNetworkMap env cluster "" = .ok whole)
    (partBuilt : buildNetworkMap env cluster ns = .ok part)
    (telemetry : ∀ sample ∈ keptFlows env "", '/' ∉ sample.source.1.toList ∧ '/' ∉ sample.destination.1.toList) :
    part.nodes.filter (fun node => node.namespace = ns) = whole.nodes.filter (fun node => node.namespace = ns) ∧
      (∀ node ∈ part.nodes, node.namespace ≠ ns → ∃ sample ∈ keptFlows env ns,
        node = extraNode sample.source ∧ sample.destination.1 = ns ∨ node = extraNode sample.destination ∧ sample.source.1 = ns) ∧
      part.edges = whole.edges.filter (fun edge => whole.liesIn ns edge.source && whole.liesIn ns edge.target) ∧
      part.inferred = whole.inferred.filter fun edge => whole.liesIn ns edge.source && whole.liesIn ns edge.target := by
  obtain ⟨all, wholeListed⟩ := build_listed wholeBuilt
  obtain ⟨inside, partListed⟩ := build_listed partBuilt
  have tells := liesIn_tells named wholeBuilt wholeListed
  refine ⟨nodes_inside named wholeBuilt partBuilt telemetry, fun node among away => far_nodes named partBuilt among away,
    edges_inside wholeBuilt partBuilt wholeListed tells, ?_⟩
  rw [(build_ok partBuilt partListed).2.2.2, (build_ok wholeBuilt wholeListed).2.2.2,
    listWorkloads_inside wholeListed partListed]
  exact inferred_inside tells

def configuredWeb : Controller := ⟨shop, web.name, ⟨[("app", "web")], ⟨[], [⟨"", [], [], [], [some "settings"], []⟩], []⟩⟩⟩

def settings : ConfigMap := ⟨shop, ⟨"settings", rfl⟩, [("title", "host:"), ("target", "api")]⟩

def apiService : Service := ⟨shop, api.name, .clusterIP, "", [("app", "api")], []⟩

theorem configuredWeb_unique : UniqueNames Controller.namespace Controller.name [configuredWeb, api] := by
  decide

/-- A cluster in which a workload takes its environment from a ConfigMap. -/
def configured : Cluster := { twoRules with
  deployments := [configuredWeb, api]
  services := [apiService]
  configMaps := [settings]
  deploymentsDistinct := configuredWeb_unique
  servicesDistinct := List.nodup_singleton _
  configMapsDistinct := List.nodup_singleton _ }

/-- The same surroundings, but the entries of a map are visited from the last. -/
def backwardEnv : Env Unit := { plainEnv with
  visited := fun configMap => configMap.data.reverse
  visitedPerm := fun configMap => List.reverse_perm configMap.data }

def configuredWorkloads : List Workload := [configuredWeb, api].map (makeWorkload plainEnv.toLower .deployment)

theorem configured_listed (ns : String) (scope : ns = "" ∨ ns = "shop") :
    listWorkloads plainEnv.toLower configured ns = .ok configuredWorkloads := by
  rcases scope with rfl | rfl <;> rfl

theorem namespace_filter_configured : ∃ whole part, buildNetworkMap plainEnv configured "" = .ok whole ∧
    buildNetworkMap plainEnv configured "shop" = .ok part ∧
      part.nodes.filter (fun node => node.namespace = "shop") = whole.nodes.filter (fun node => node.namespace = "shop") := by
  obtain ⟨whole, wholeBuilt⟩ := build_exists (configured_listed "" (Or.inl rfl)) rfl
  obtain ⟨part, partBuilt⟩ := build_exists (configured_listed "shop" (Or.inr rfl)) rfl
  exact ⟨whole, part, wholeBuilt, partBuilt,
    (namespace_filter_restricts (by decide) wholeBuilt partBuilt (by decide)).1⟩

theorem far_node_added : ∃ whole part,
    buildNetworkMap (meshEnv [flow ("shop", "web") ("data", "orders")]) twoRules "" = .ok whole ∧
      buildNetworkMap (meshEnv [flow ("shop", "web") ("data", "orders")]) twoRules "shop" = .ok part ∧
      ∃ node ∈ part.nodes, node ∉ whole.nodes.filter fun node => node.namespace = "shop" := by
  have wholeListed : listWorkloads (meshEnv [flow ("shop", "web") ("data", "orders")]).toLower twoRules "" =
    .ok [webWorkload, apiWorkload] := rfl
  have partListed : listWorkloads (meshEnv [flow ("shop", "web") ("data", "orders")]).toLower twoRules "shop" =
    .ok [webWorkload, apiWorkload] := rfl
  obtain ⟨whole, wholeBuilt⟩ := build_exists wholeListed rfl
  obtain ⟨part, partBuilt⟩ := build_exists partListed rfl
  refine ⟨whole, part, wholeBuilt, partBuilt, extraNode ("data", "orders"), ?_, ?_⟩
  · rw [(build_ok partBuilt partListed).1]
    decide +kernel
  · intro inside
    exact absurd (List.mem_filter.mp inside).2 (by decide)

theorem edge_lost : ∃ whole part,
    buildNetworkMap plainEnv configured "" = .ok whole ∧ buildNetworkMap backwardEnv configured "shop" = .ok part ∧
      ∃ edge ∈ whole.inferred, whole.liesIn "shop" edge.source = true ∧ whole.liesIn "shop" edge.target = true ∧
        edge ∉ part.inferred := by
  have wholeListed := configured_listed "" (Or.inl rfl)
  have partListed : listWorkloads backwardEnv.toLower configured "shop" = .ok configuredWorkloads := rfl
  obtain ⟨whole, wholeBuilt⟩ := build_exists wholeListed rfl
  obtain ⟨part, partBuilt⟩ := build_exists partListed rfl
  refine ⟨whole, part, wholeBuilt, partBuilt,
    ⟨"infer:Deployment/shop/web->Deployment/shop/api", "Deployment/shop/web", "Deployment/shop/api", "api"⟩, ?_⟩
  rw [NetMap.liesIn, NetMap.liesIn, (build_ok wholeBuilt wholeListed).1, (build_ok wholeBuilt wholeListed).2.2.2,
    (build_ok partBuilt partListed).2.2.2]
  decide

/-- With telemetry that reports a slash in a namespace the whole map lacks a node
of the map of a namespace. -/
theorem node_taken : ∃ whole part,
    buildNetworkMap (meshEnv [flow ("shop/x", "y") ("data", "orders"), flow ("shop", "x/y") ("shop", "web")]) twoRules "" =
      .ok whole ∧
    buildNetworkMap (meshEnv [flow ("shop/x", "y") ("data", "orders"), flow ("shop", "x/y") ("shop", "web")]) twoRules "shop" =
      .ok part ∧
    ∃ node ∈ part.nodes, node.namespace = "shop" ∧ node ∉ whole.nodes := by
  have wholeListed : listWorkloads (meshEnv [flow ("shop/x", "y") ("data", "orders"), flow ("shop", "x/y") ("shop", "web")]).toLower
    twoRules "" = .ok [webWorkload, apiWorkload] := rfl
  have partListed : listWorkloads (meshEnv [flow ("shop/x", "y") ("data", "orders"), flow ("shop", "x/y") ("shop", "web")]).toLower
    twoRules "shop" = .ok [webWorkload, apiWorkload] := rfl
  obtain ⟨whole, wholeBuilt⟩ := build_exists wholeListed rfl
  obtain ⟨part, partBuilt⟩ := build_exists partListed rfl
  refine ⟨whole, part, wholeBuilt, partBuilt, extraNode ("shop", "x/y"), ?_⟩
  rw [(build_ok wholeBuilt wholeListed).1, (build_ok partBuilt partListed).1]
  decide +kernel

/-- Far ends are added, and the order in which entries are visited and a slash in
a reported namespace make a difference. -/
theorem namespace_filter_differs :
    (∃ whole part, buildNetworkMap (meshEnv [flow ("shop", "web") ("data", "orders")]) twoRules "" = .ok whole ∧
      buildNetworkMap (meshEnv [flow ("shop", "web") ("data", "orders")]) twoRules "shop" = .ok part ∧
      ∃ node ∈ part.nodes, node ∉ whole.nodes.filter fun node => node.namespace = "shop") ∧
    (∃ whole part, buildNetworkMap plainEnv configured "" = .ok whole ∧ buildNetworkMap backwardEnv configured "shop" = .ok part ∧
      ∃ edge ∈ whole.inferred, whole.liesIn "shop" edge.source = true ∧ whole.liesIn "shop" edge.target = true ∧
        edge ∉ part.inferred) ∧
    ∃ whole part,
      buildNetworkMap (meshEnv [flow ("shop/x", "y") ("data", "orders"), flow ("shop", "x/y") ("shop", "web")]) twoRules "" =
        .ok whole ∧
      buildNetworkMap (meshEnv [flow ("shop/x", "y") ("data", "orders"), flow ("shop", "x/y") ("shop", "web")]) twoRules "shop" =
        .ok part ∧
      ∃ node ∈ part.nodes, node.namespace = "shop" ∧ node ∉ whole.nodes :=
  ⟨far_node_added, edge_lost, node_taken⟩

end K8Sense.Doctor.NetworkMap
