import K8Sense.Library.Traversal
import K8Sense.ResourceMap.Graph

/-! The filters of the resource map. What matches is shown with all that it is connected to. -/

namespace K8Sense.ResourceMap.Filtering
open Traversal Relation

/-- The first count that is there and is not zero. -/
def firstCount (counts : List (Option Nat)) : Nat := (counts.filterMap fun count => count.filter (· ≠ 0)).head?.getD 0

def getReadyReplicas (item : KubeObject) : Nat := firstCount [item.readyReplicas, item.numberReady]

def getTotalReplicas (item : KubeObject) : Nat := firstCount [item.replicas, item.currentNumberScheduled, item.desiredNumberScheduled]

def getPodStatus (pod : KubeObject) : GraphNodeStatus :=
  if pod.phase = "Failed" then .error
  else if pod.phase = "Succeeded" ∨ pod.phase = "Running" then
    let readyCondition := pod.conditions.find? fun condition => condition.type = "Ready"
    if readyCondition.map KubeCondition.status = some "True" ∨ pod.phase = "Succeeded" then .success else .warning
  else if pod.phase = "Pending" then .warning
  else .success

def getStatus (w : KubeObject) : GraphNodeStatus :=
  if w.apiGroupName = none ∧ w.kind = "Pod" then getPodStatus w
  else if w.kind ∈ ["DaemonSet", "ReplicaSet", "StatefulSet", "Deployment"] then
    if getReadyReplicas w < getTotalReplicas w then .warning else .success
  else .success

def getGraphNodeStatus (node : GraphNode) : GraphNodeStatus :=
  match node.data.status with
  | some status => status
  | none => (node.kubeObject.map getStatus).getD .success

inductive GraphFilter where
  | hasErrors
  | «namespace» (namespaces : List String)

def nodeMatchesFilter (node : GraphNode) : GraphFilter → Bool
  | .hasErrors => getGraphNodeStatus node ≠ .success
  | .namespace [] => true
  | .namespace namespaces =>
    match node.kubeObject.bind KubeObject.namespace with
    | some «namespace» => «namespace» ≠ "" ∧ «namespace» ∈ namespaces
    | none => false

def nodeMatchesFilters (filters : List GraphFilter) (node : GraphNode) : Bool := filters.all (nodeMatchesFilter node)

structure Graph where
  nodes : List GraphNode
  edges : List GraphEdge

namespace Graph
variable (graph : Graph)

/-- The recursion enters a new node each time, so it is no deeper than there are nodes. -/
def addRelatedNode : Nat → GraphNode → List String → List String
  | 0, _, visibleNodeIds => visibleNodeIds
  | fuel + 1, node, visibleNodeIds =>
    if node.id ∈ visibleNodeIds then visibleNodeIds
    else
      let visibleNodeIds := visibleNodeIds ++ [node.id]
      let visibleNodeIds := (getOutgoingEdges graph.edges node.id).foldl (fun visibleNodeIds edge =>
        match getNode graph.nodes edge.target with
        | some target => addRelatedNode fuel target visibleNodeIds
        | none => visibleNodeIds) visibleNodeIds
      (getIncomingEdges graph.edges node.id).foldl (fun visibleNodeIds edge =>
        match getNode graph.nodes edge.source with
        | some source => addRelatedNode fuel source visibleNodeIds
        | none => visibleNodeIds) visibleNodeIds

def visibleNodeIds (filters : List GraphFilter) : List String :=
  graph.nodes.foldl (fun visibleNodeIds node =>
    if nodeMatchesFilters filters node then graph.addRelatedNode graph.nodes.length node visibleNodeIds else visibleNodeIds) []

def filterGraph (filters : List GraphFilter) : Graph :=
  if filters = [] then graph
  else
    { nodes := graph.nodes.filter fun node => node.id ∈ graph.visibleNodeIds filters
      edges := graph.edges.filter fun edge =>
        edge.source ∈ graph.visibleNodeIds filters ∧ edge.target ∈ graph.visibleNodeIds filters }

/-- One edge, whose ends both exist, has the two ids as its ends. -/
def Linked (id other : String) : Prop :=
  (∃ edge ∈ graph.edges, edge.source = id ∧ edge.target = other ∨ edge.target = id ∧ edge.source = other) ∧
    id ∈ graph.nodes.map GraphNode.id ∧ other ∈ graph.nodes.map GraphNode.id

def Connected : String → String → Prop := ReflTransGen graph.Linked

/-- The node is connected to one that matches. -/
def Related (filters : List GraphFilter) (node : GraphNode) : Prop :=
  ∃ match' ∈ graph.nodes, nodeMatchesFilters filters match' ∧ graph.Connected match'.id node.id

/-- The traversal by ids, whose links are the ids at the other ends. -/
def related : Walk String String (List String) where
  links id := (getOutgoingEdges graph.edges id).map GraphEdge.target ++ (getIncomingEdges graph.edges id).map GraphEdge.source
  target id := (getNode graph.nodes id).map GraphNode.id
  seen := id
  enter id visible := visible ++ [id]
  pass _ visible := visible
  done _ _ := True
  seen_enter _ _ := rfl
  seen_pass _ _ := rfl
  done_enter _ _ _ := id
  done_pass _ _ _ := id
  pass_done _ _ := trivial

theorem related_next {node other : String} (there : node ∈ graph.nodes.map GraphNode.id) :
    graph.related.Next node other ↔ graph.Linked node other := by
  have links : other ∈ graph.related.links node ↔
      ∃ edge ∈ graph.edges, edge.source = node ∧ edge.target = other ∨ edge.target = node ∧ edge.source = other := by
    simp only [related, getOutgoingEdges, getIncomingEdges, List.mem_append, List.mem_map, List.mem_filter, beq_iff_eq]
    grind
  have target : ∀ link, graph.related.target link = some other ↔ link = other ∧ other ∈ graph.nodes.map GraphNode.id := by
    intro link
    simp only [related, getNode_map_id]
    split
    next known => grind
    next absent => grind
  unfold Walk.Next Linked
  simp only [target]
  grind

theorem related_within : graph.related.Within (· ∈ graph.nodes.map GraphNode.id) (graph.nodes.map GraphNode.id) :=
  ⟨fun _ there => there, fun _ _ there next => ((graph.related_next there).mp next).2.2⟩

theorem related_reach {node other : String} (there : node ∈ graph.nodes.map GraphNode.id) :
    graph.related.Reach node other ↔ graph.Connected node other := by
  refine ⟨fun reach => ?_, fun connected => ReflTransGen.mono (fun _ _ linked => (graph.related_next linked.2.1).mpr linked) _ _ connected⟩
  suffices graph.Connected node other ∧ other ∈ graph.nodes.map GraphNode.id from this.1
  induction reach with
  | refl => exact ⟨.refl, there⟩
  | tail _ next ih =>
    have linked := (graph.related_next ih.2).mp next
    exact ⟨ih.1.tail linked, linked.2.2⟩

theorem addRelatedNode_eq (fuel : Nat) (node : GraphNode) (visibleNodeIds : List String) :
    graph.addRelatedNode fuel node visibleNodeIds = graph.related.visit fuel node.id visibleNodeIds := by
  induction fuel generalizing node visibleNodeIds with
  | zero => rfl
  | succ fuel ih =>
    have follow : ∀ (visible : List String) (id : String), graph.related.follow (graph.related.visit fuel) visible id =
        match getNode graph.nodes id with
        | some other => graph.addRelatedNode fuel other visible
        | none => visible := by
      intro visible id
      unfold Walk.follow
      cases found : getNode graph.nodes id with
      | none => simp [related, found]
      | some other => simp [related, found, ih]
    have links : graph.related.links node.id =
      (getOutgoingEdges graph.edges node.id).map GraphEdge.target ++ (getIncomingEdges graph.edges node.id).map GraphEdge.source := rfl
    rw [addRelatedNode, Walk.visit, links, List.foldl_append, List.foldl_map, List.foldl_map]
    simp only [follow]
    rfl

theorem mem_visibleNodeIds (filters : List GraphFilter) (id : String) :
    id ∈ graph.visibleNodeIds filters ↔
      ∃ node ∈ graph.nodes, nodeMatchesFilters filters node ∧ graph.Connected node.id id := by
  have roots : graph.visibleNodeIds filters = ((graph.nodes.filter (nodeMatchesFilters filters)).map GraphNode.id).foldl
      (fun visible root => graph.related.visit graph.nodes.length root visible) [] := by
    simp only [visibleNodeIds, addRelatedNode_eq, List.foldl_map, List.foldl_filter]
  have inside : ∀ root ∈ (graph.nodes.filter (nodeMatchesFilters filters)).map GraphNode.id, root ∈ graph.nodes.map GraphNode.id := by
    intro root member
    exact (List.filter_sublist.map _).subset member
  have none : graph.related.Complete [] := fun _ member => absurd member List.not_mem_nil
  have enough : (graph.nodes.map GraphNode.id).length ≤ graph.nodes.length := by simp
  have reached := graph.related_within.roots enough inside none id
  rw [roots]
  refine reached.trans ?_
  constructor
  · rintro (old | ⟨root, member, reach⟩)
    · exact absurd old List.not_mem_nil
    · obtain ⟨node, kept, rfl⟩ := List.mem_map.mp member
      obtain ⟨there, matching⟩ := List.mem_filter.mp kept
      exact ⟨node, there, matching, (graph.related_reach (inside _ member)).mp reach⟩
  · rintro ⟨node, there, matching, connected⟩
    have member := List.mem_map_of_mem (f := GraphNode.id) (List.mem_filter.mpr ⟨there, matching⟩)
    exact .inr ⟨node.id, member, (graph.related_reach (inside _ member)).mpr connected⟩

theorem visible_linked {filters : List GraphFilter} {id other : String} (visible : id ∈ graph.visibleNodeIds filters)
    (linked : graph.Linked id other) : other ∈ graph.visibleNodeIds filters := by
  obtain ⟨node, there, matching, connected⟩ := (graph.mem_visibleNodeIds filters id).mp visible
  exact (graph.mem_visibleNodeIds filters other).mpr ⟨node, there, matching, connected.tail linked⟩

theorem visible_known {filters : List GraphFilter} {id : String} (visible : id ∈ graph.visibleNodeIds filters) :
    id ∈ graph.nodes.map GraphNode.id := by
  obtain ⟨node, there, _, connected⟩ := (graph.mem_visibleNodeIds filters id).mp visible
  rcases connected.cases_tail with rfl | ⟨_, _, linked⟩
  · exact List.mem_map_of_mem there
  · exact linked.2.2

variable {graph}

theorem filterGraph_cons (filter : GraphFilter) (filters : List GraphFilter) :
    graph.filterGraph (filter :: filters) =
      { nodes := graph.nodes.filter fun node => node.id ∈ graph.visibleNodeIds (filter :: filters)
        edges := graph.edges.filter fun edge =>
          edge.source ∈ graph.visibleNodeIds (filter :: filters) ∧ edge.target ∈ graph.visibleNodeIds (filter :: filters) } := rfl

theorem mem_filterGraph_ids {filter : GraphFilter} {filters : List GraphFilter} {id : String} :
    id ∈ (graph.filterGraph (filter :: filters)).nodes.map GraphNode.id ↔ id ∈ graph.visibleNodeIds (filter :: filters) := by
  rw [filterGraph_cons]
  constructor
  · intro member
    obtain ⟨node, kept, rfl⟩ := List.mem_map.mp member
    simpa using (List.mem_filter.mp kept).2
  · intro visible
    obtain ⟨node, there, rfl⟩ := List.mem_map.mp (graph.visible_known visible)
    exact List.mem_map_of_mem (List.mem_filter.mpr ⟨there, by simpa using visible⟩)

theorem filterGraph_linked {filter : GraphFilter} {filters : List GraphFilter} {id other : String} :
    (graph.filterGraph (filter :: filters)).Linked id other ↔ id ∈ graph.visibleNodeIds (filter :: filters) ∧ graph.Linked id other := by
  unfold Linked
  rw [mem_filterGraph_ids, mem_filterGraph_ids]
  constructor
  · intro ⟨⟨edge, member, ends⟩, visible, otherVisible⟩
    have kept := (List.mem_filter.mp member).1
    exact ⟨visible, ⟨edge, kept, ends⟩, graph.visible_known visible, graph.visible_known otherVisible⟩
  · intro ⟨visible, linked⟩
    have otherVisible := graph.visible_linked visible linked
    obtain ⟨⟨edge, member, ends⟩, _⟩ := linked
    refine ⟨⟨edge, List.mem_filter.mpr ⟨member, ?_⟩, ends⟩, visible, otherVisible⟩
    grind

theorem filterGraph_visible {filter : GraphFilter} {filters : List GraphFilter} {id : String} :
    id ∈ (graph.filterGraph (filter :: filters)).visibleNodeIds (filter :: filters) ↔
      id ∈ graph.visibleNodeIds (filter :: filters) := by
  constructor
  · intro visible
    obtain ⟨node, there, matching, connected⟩ := (mem_visibleNodeIds _ _ _).mp visible
    have known := (List.mem_filter.mp there).1
    exact (graph.mem_visibleNodeIds _ _).mpr
      ⟨node, known, matching, ReflTransGen.mono (fun _ _ linked => (filterGraph_linked.mp linked).2) _ _ connected⟩
  · intro visible
    obtain ⟨node, there, matching, connected⟩ := (graph.mem_visibleNodeIds _ _).mp visible
    have start := (graph.mem_visibleNodeIds (filter :: filters) node.id).mpr ⟨node, there, matching, .refl⟩
    have kept : node ∈ (graph.filterGraph (filter :: filters)).nodes := List.mem_filter.mpr ⟨there, by simpa using start⟩
    refine (mem_visibleNodeIds _ _ _).mpr ⟨node, kept, matching, ?_⟩
    clear visible
    -- Every node on the path is visible, so every edge on it is kept.
    suffices (graph.filterGraph (filter :: filters)).Connected node.id id ∧ id ∈ graph.visibleNodeIds (filter :: filters) from this.1
    induction connected with
    | refl => exact ⟨.refl, start⟩
    | tail _ linked ih => exact ⟨ih.1.tail (filterGraph_linked.mpr ⟨ih.2, linked⟩), graph.visible_linked ih.2 linked⟩

theorem filterGraph_twice (filter : GraphFilter) (filters : List GraphFilter) :
    (graph.filterGraph (filter :: filters)).filterGraph (filter :: filters) = graph.filterGraph (filter :: filters) := by
  have again := @filterGraph_cons (graph.filterGraph (filter :: filters)) filter filters
  simp only [filterGraph_visible] at again
  rw [again, filterGraph_cons]
  simp only [List.filter_filter, Bool.and_self]

open Classical in
/-- The nodes connected to one that matches are shown, with the edges between them. -/
theorem filterGraph_component (graph : Graph) (filter : GraphFilter) (filters : List GraphFilter) :
    (graph.filterGraph (filter :: filters)).nodes = graph.nodes.filter (fun node => graph.Related (filter :: filters) node) ∧
      (graph.filterGraph (filter :: filters)).edges = graph.edges.filter (fun edge =>
        edge.source ∈ (graph.filterGraph (filter :: filters)).nodes.map GraphNode.id ∧
          edge.target ∈ (graph.filterGraph (filter :: filters)).nodes.map GraphNode.id) ∧
      (graph.filterGraph (filter :: filters)).filterGraph (filter :: filters) = graph.filterGraph (filter :: filters) := by
  refine ⟨?_, ?_, filterGraph_twice filter filters⟩
  · apply List.filter_congr
    intro node _
    exact decide_eq_decide.mpr (graph.mem_visibleNodeIds _ _)
  · apply List.filter_congr
    intro edge _
    exact decide_eq_decide.mpr (by rw [mem_filterGraph_ids, mem_filterGraph_ids])

end Graph
end K8Sense.ResourceMap.Filtering
