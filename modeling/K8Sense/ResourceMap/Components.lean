import K8Sense.ResourceMap.Filtering
import K8Sense.ResourceMap.Tree

/-! The connected components of the graph: the nodes that a traversal from the first of
them meets, with the edges at these. -/

namespace K8Sense.ResourceMap.Components
open Traversal Relation Filtering

/-- The visited sets, and what has been collected of the component. -/
structure Search where
  visitedNodes : List String
  visitedEdges : List String
  componentNodes : List GraphNode
  componentEdges : List GraphEdge

def Search.collect (edge : GraphEdge) (search : Search) : Search :=
  if edge.id ∈ search.visitedEdges then search
  else { search with visitedEdges := search.visitedEdges ++ [edge.id], componentEdges := search.componentEdges ++ [edge] }

def findConnectedComponent (graph : Graph) : Nat → GraphNode → Search → Search
  | 0, _, search => search
  | fuel + 1, node, search =>
    let search := { search with visitedNodes := search.visitedNodes ++ [node.id], componentNodes := search.componentNodes ++ [node] }
    let search := (getOutgoingEdges graph.edges node.id).foldl (fun search edge =>
      let search := search.collect edge
      if edge.target ∈ search.visitedNodes then search
      else
        match getNode graph.nodes edge.target with
        | some targetNode => findConnectedComponent graph fuel targetNode search
        | none => search) search
    (getIncomingEdges graph.edges node.id).foldl (fun search edge =>
      let search := search.collect edge
      if edge.source ∈ search.visitedNodes then search
      else
        match getNode graph.nodes edge.source with
        | some sourceNode => findConnectedComponent graph fuel sourceNode search
        | none => search) search

/-- The first of the nodes that have the highest weight. -/
def getMainNode : List GraphNode → Option GraphNode
  | [] => none
  | node :: nodes => some (nodes.foldl (fun mainNode currentNode =>
      if getNodeWeight mainNode < getNodeWeight currentNode then currentNode else mainNode) node)

def group (id : String) (label subtitle : Option String) (nodes : List GraphNode) (edges : List GraphEdge) : GraphNode :=
  .node { id := id, label := label, subtitle := subtitle, status := none, kubeObject := none, weight := none, collapsed := none } (some nodes) (some edges)

def componentId (nodes : List GraphNode) : String := "group-" ++ ((getMainNode nodes).map GraphNode.id).getD "unknown"

def component (nodes : List GraphNode) (edges : List GraphEdge) : GraphNode := group (componentId nodes) none none nodes edges

def findComponents (graph : Graph) : List GraphNode → List String → List String → List GraphNode
  | [], _, _ => []
  | node :: nodes, visitedNodes, visitedEdges =>
    if node.id ∈ visitedNodes then findComponents graph nodes visitedNodes visitedEdges
    else
      let found := findConnectedComponent graph graph.nodes.length node ⟨visitedNodes, visitedEdges, [], []⟩
      component found.componentNodes found.componentEdges :: findComponents graph nodes found.visitedNodes found.visitedEdges

/-- A component of one node is that node. -/
def single (it : GraphNode) : GraphNode :=
  match it.nodes with
  | some [node] => node
  | _ => it

def getConnectedComponents (graph : Graph) : List GraphNode := (findComponents graph graph.nodes [] []).map single

/-- What the map is given: nodes that are no groups, and the ids of each kind distinct. -/
structure Elements where
  graph : Graph
  plain : ∀ node ∈ graph.nodes, node.nodes = none ∧ node.edges = none
  nodeIds : (graph.nodes.map GraphNode.id).Nodup
  edgeIds : (graph.edges.map GraphEdge.id).Nodup

/-! The search is a traversal whose links are the edges with the ids at their other ends. -/

def search (graph : Graph) : Walk String (GraphEdge × String) Search where
  links id := (getOutgoingEdges graph.edges id).map (fun edge => (edge, edge.target)) ++
    (getIncomingEdges graph.edges id).map (fun edge => (edge, edge.source))
  target link := (getNode graph.nodes link.2).map GraphNode.id
  seen search := search.visitedNodes
  enter id search :=
    { search with
      visitedNodes := search.visitedNodes ++ [id]
      componentNodes := search.componentNodes ++ (getNode graph.nodes id).toList }
  pass link search := search.collect link.1
  done link search := link.1.id ∈ search.visitedEdges
  seen_enter _ _ := rfl
  seen_pass link search := by
    unfold Search.collect
    split <;> rfl
  done_enter _ _ _ := id
  done_pass link other search done := by
    unfold Search.collect
    split
    · exact done
    · exact List.mem_append_left _ done
  pass_done link search := by
    unfold Search.collect
    split
    next visited => exact visited
    next => exact List.mem_append_right _ List.mem_cons_self

namespace Elements
variable (elements : Elements)

theorem getNode_self {node : GraphNode} (member : node ∈ elements.graph.nodes) : getNode elements.graph.nodes node.id = some node := by
  have there : (getNode elements.graph.nodes node.id).isSome := getNode_isSome.mpr (List.mem_map_of_mem member)
  obtain ⟨found, isFound⟩ := Option.isSome_iff_exists.mp there
  obtain ⟨known, same⟩ := getNode_id isFound
  rw [isFound, List.inj_on_of_nodup_map elements.nodeIds known member same]

theorem findConnectedComponent_eq (fuel : Nat) {node : GraphNode} (member : node ∈ elements.graph.nodes) {state : Search}
    (fresh : node.id ∉ state.visitedNodes) :
    findConnectedComponent elements.graph fuel node state = (search elements.graph).visit fuel node.id state := by
  induction fuel generalizing node state with
  | zero => rfl
  | succ fuel ih =>
    have follow : ∀ (state : Search) (edge : GraphEdge) (id : String),
        (search elements.graph).follow ((search elements.graph).visit fuel) state (edge, id) =
        if id ∈ (state.collect edge).visitedNodes then state.collect edge
        else
          match getNode elements.graph.nodes id with
          | some other => findConnectedComponent elements.graph fuel other (state.collect edge)
          | none => state.collect edge := by
      intro state edge id
      unfold Walk.follow
      cases found : getNode elements.graph.nodes id with
      | none => simp [search, found]
      | some other =>
        obtain ⟨known, rfl⟩ := getNode_id found
        simp only [search, found, Option.map_some]
        split
        next visited =>
          cases fuel with
          | zero => rfl
          | succ fuel => exact if_pos visited
        next absent => exact (ih known absent).symm
    have links : (search elements.graph).links node.id = (getOutgoingEdges elements.graph.edges node.id).map (fun edge => (edge, edge.target)) ++
      (getIncomingEdges elements.graph.edges node.id).map (fun edge => (edge, edge.source)) := rfl
    have entered : (search elements.graph).enter node.id state =
        { state with visitedNodes := state.visitedNodes ++ [node.id], componentNodes := state.componentNodes ++ [node] } := by
      simp [search, elements.getNode_self member]
    have unseen : node.id ∉ (search elements.graph).seen state := fresh
    rw [findConnectedComponent, Walk.visit, if_neg unseen, links, List.foldl_append, List.foldl_map, List.foldl_map, entered]
    simp only [follow]

end Elements

/-! What the search finds, as a function of the node that it starts from. -/

section
variable (graph : Graph)

theorem linked_symm {graph : Graph} {id other : String} (linked : graph.Linked id other) : graph.Linked other id := by
  obtain ⟨⟨edge, member, ends⟩, here, there⟩ := linked
  refine ⟨⟨edge, member, ?_⟩, there, here⟩
  rcases ends with ⟨source, target⟩ | ⟨target, source⟩
  · exact .inr ⟨target, source⟩
  · exact .inl ⟨source, target⟩

theorem connected_symm {graph : Graph} {id other : String} (connected : graph.Connected id other) : graph.Connected other id := by
  induction connected with
  | refl => exact .refl
  | tail _ linked ih => exact .head (linked_symm linked) ih

/-- The ids that are connected to the node's, in the order of the traversal from it. -/
def reachedIds (node : GraphNode) : List String := graph.related.visit graph.nodes.length node.id []

def reached (node : GraphNode) : List GraphNode := (reachedIds graph node).filterMap (getNode graph.nodes)

def headOf (node : GraphNode) : Option GraphNode := graph.nodes.find? fun earlier => node.id ∈ reachedIds graph earlier

def isHead (node : GraphNode) : Bool := (headOf graph node).map GraphNode.id = some node.id

variable {graph} {node : GraphNode}

theorem reachedIds_grows (member : node ∈ graph.nodes) :
    (∃ new, graph.related.Grows (fun other => other ∈ graph.nodes.map GraphNode.id ∧ graph.related.Reach node.id other) []
      (reachedIds graph node) new) ∧ node.id ∈ reachedIds graph node := by
  have enough : graph.related.unseen (graph.nodes.map GraphNode.id) [] ≤ graph.nodes.length :=
    (List.length_filter_le _ _).trans (by simp)
  exact graph.related_within.visit_reach (List.mem_map_of_mem member) enough

theorem reachedIds_nodup (member : node ∈ graph.nodes) : (reachedIds graph node).Nodup := by
  obtain ⟨⟨new, grows⟩, _⟩ := reachedIds_grows member
  have seen : reachedIds graph node = [] ++ new := grows.seen
  rw [seen]
  exact grows.distinct

theorem mem_reachedIds (member : node ∈ graph.nodes) {id : String} : id ∈ reachedIds graph node ↔ graph.Connected node.id id := by
  have there : node.id ∈ graph.nodes.map GraphNode.id := List.mem_map_of_mem member
  rw [← graph.related_reach there]
  obtain ⟨⟨new, grows⟩, self⟩ := reachedIds_grows member
  have seen : reachedIds graph node = [] ++ new := grows.seen
  constructor
  · intro inside
    rw [seen, List.nil_append] at inside
    exact (grows.kind id inside).2
  · intro reach
    have complete : graph.related.Complete (reachedIds graph node) := grows.complete nofun
    exact complete.reach self reach

theorem connected_known (member : node ∈ graph.nodes) {id : String} (connected : graph.Connected node.id id) :
    id ∈ graph.nodes.map GraphNode.id := by
  rcases connected.cases_tail with rfl | ⟨_, _, linked⟩
  · exact List.mem_map_of_mem member
  · exact linked.2.2

theorem reached_ids (member : node ∈ graph.nodes) : (reached graph node).map GraphNode.id = reachedIds graph node := by
  have known : ∀ ids : List String, (∀ id ∈ ids, id ∈ graph.nodes.map GraphNode.id) →
      (ids.filterMap (getNode graph.nodes)).map GraphNode.id = ids := by
    intro ids inside
    induction ids with
    | nil => rfl
    | cons id ids ih =>
      obtain ⟨first, rest⟩ := List.forall_mem_cons.mp inside
      obtain ⟨found, isFound⟩ := Option.isSome_iff_exists.mp (getNode_isSome.mpr first)
      rw [List.filterMap_cons_some isFound, List.map_cons, ih rest, (getNode_id isFound).2]
  exact known _ fun id inside => connected_known member ((mem_reachedIds member).mp inside)

theorem headOf_congr {other : GraphNode} (connected : graph.Connected node.id other.id) : headOf graph node = headOf graph other := by
  unfold headOf
  rw [← List.head?_filter, ← List.head?_filter]
  congr 1
  apply List.filter_congr
  intro earlier inside
  rw [Bool.eq_iff_iff, decide_eq_true_eq, decide_eq_true_eq, mem_reachedIds inside, mem_reachedIds inside]
  exact ⟨fun reaches => reaches.trans connected, fun reaches => reaches.trans (connected_symm connected)⟩

theorem headOf_spec (member : node ∈ graph.nodes) :
    ∃ head ∈ graph.nodes, headOf graph node = some head ∧ graph.Connected head.id node.id ∧ isHead graph head = true := by
  have found : (headOf graph node).isSome := by
    unfold headOf
    rw [List.find?_isSome]
    exact ⟨node, member, by simpa using (mem_reachedIds member).mpr .refl⟩
  obtain ⟨head, isFirst⟩ := Option.isSome_iff_exists.mp found
  have known : head ∈ graph.nodes := List.mem_of_find?_eq_some isFirst
  have connected : graph.Connected head.id node.id := by
    have reaches := List.find?_some isFirst
    exact (mem_reachedIds known).mp (by simpa using reaches)
  refine ⟨head, known, isFirst, connected, ?_⟩
  rw [isHead, headOf_congr connected, isFirst]
  simp

theorem isHead_iff {before rest : List GraphNode} (split : graph.nodes = before ++ node :: rest)
    (distinct : (graph.nodes.map GraphNode.id).Nodup) :
    isHead graph node = true ↔ ∀ earlier ∈ before, ¬graph.Connected earlier.id node.id := by
  have known : ∀ earlier ∈ before, earlier ∈ graph.nodes := fun earlier inside => split ▸ List.mem_append_left _ inside
  have member : node ∈ graph.nodes := split ▸ List.mem_append_right _ (.head _)
  have apart : ∀ earlier ∈ before, earlier.id ≠ node.id := by
    intro earlier inside same
    rw [split, List.map_append, List.map_cons, List.nodup_append] at distinct
    exact distinct.2.2 _ (List.mem_map_of_mem inside) _ (.head _) same
  have self : decide (node.id ∈ reachedIds graph node) = true := decide_eq_true ((mem_reachedIds member).mpr .refl)
  unfold isHead headOf
  rw [split, List.find?_append, decide_eq_true_eq]
  cases found : before.find? fun earlier => node.id ∈ reachedIds graph earlier with
  | none =>
    refine ⟨fun _ earlier inside connected => ?_, fun _ => by simp [self]⟩
    have missed := List.find?_eq_none.mp found earlier inside
    exact missed (decide_eq_true ((mem_reachedIds (known earlier inside)).mpr connected))
  | some earlier =>
    have inside := List.mem_of_find?_eq_some found
    have reaches : node.id ∈ reachedIds graph earlier := by simpa using List.find?_some found
    constructor
    · intro same
      exact absurd (by simpa using same) (apart earlier inside)
    · intro none'
      exact absurd ((mem_reachedIds (known earlier inside)).mp reaches) (none' earlier inside)

def At (edge : GraphEdge) (id : String) : Prop := edge.source = id ∨ edge.target = id

theorem mem_search_links {id : String} {link : GraphEdge × String} (member : link ∈ (search graph).links id) :
    link.1 ∈ graph.edges ∧ At link.1 id := by
  rcases List.mem_append.mp member with outgoing | incoming
  · obtain ⟨edge, inside, rfl⟩ := List.mem_map.mp outgoing
    obtain ⟨known, starts⟩ := List.mem_filter.mp inside
    exact ⟨known, .inl (by simpa using starts)⟩
  · obtain ⟨edge, inside, rfl⟩ := List.mem_map.mp incoming
    obtain ⟨known, ends⟩ := List.mem_filter.mp inside
    exact ⟨known, .inr (by simpa using ends)⟩

theorem exists_search_link {id : String} {edge : GraphEdge} (known : edge ∈ graph.edges) (touches : At edge id) :
    ∃ link ∈ (search graph).links id, link.1 = edge := by
  rcases touches with starts | ends
  · refine ⟨(edge, edge.target), List.mem_append_left _ (List.mem_map_of_mem (List.mem_filter.mpr ⟨known, ?_⟩)), rfl⟩
    simpa using starts
  · refine ⟨(edge, edge.source), List.mem_append_right _ (List.mem_map_of_mem (List.mem_filter.mpr ⟨known, ?_⟩)), rfl⟩
    simpa using ends

theorem related_links (id : String) : graph.related.links id = ((search graph).links id).map Prod.snd := by
  simp [Graph.related, search, List.map_map, Function.comp_def]

theorem search_next {id other : String} (there : id ∈ graph.nodes.map GraphNode.id) :
    (search graph).Next id other ↔ graph.Linked id other := by
  rw [← graph.related_next there]
  unfold Walk.Next
  rw [related_links]
  constructor
  · intro ⟨link, member, leads⟩
    exact ⟨link.2, List.mem_map_of_mem member, leads⟩
  · intro ⟨target, member, leads⟩
    obtain ⟨link, inside, rfl⟩ := List.mem_map.mp member
    exact ⟨link, inside, leads⟩

theorem search_within (member : node ∈ graph.nodes) :
    (search graph).Within (fun id => graph.Connected node.id id) (graph.nodes.map GraphNode.id) :=
  ⟨fun _ connected => connected_known member connected,
    fun _ _ connected next => connected.tail ((search_next (connected_known member connected)).mp next)⟩

/-- Each edge is collected once, and only edges at the nodes of the component are. -/
structure Collected (graph : Graph) (node : GraphNode) (visitedEdges : List String) (found : Search) : Prop where
  edgeIds : found.visitedEdges = visitedEdges ++ found.componentEdges.map GraphEdge.id
  distinct : found.visitedEdges.Nodup
  incident : ∀ edge ∈ found.componentEdges, edge ∈ graph.edges ∧ ∃ id, graph.Connected node.id id ∧ At edge id

/-- What one search adds to the visited sets, and that it misses no edge. -/
structure Found (graph : Graph) (node : GraphNode) (visitedNodes visitedEdges : List String) (found : Search) : Prop
    extends Collected graph node visitedEdges found where
  ids : found.visitedNodes = visitedNodes ++ reachedIds graph node
  nodes : found.componentNodes = reached graph node
  covered : ∀ edge ∈ graph.edges, ∀ id, graph.Connected node.id id → At edge id → edge.id ∈ found.visitedEdges

variable {visitedNodes visitedEdges : List String}

theorem search_nodes (member : node ∈ graph.nodes) (unconnected : ∀ id ∈ visitedNodes, ¬graph.Connected node.id id) (fuel : Nat) :
    let found := (search graph).visit fuel node.id ⟨visitedNodes, visitedEdges, [], []⟩
    found.visitedNodes = visitedNodes ++ graph.related.visit fuel node.id [] ∧
      found.componentNodes = (graph.related.visit fuel node.id []).filterMap (getNode graph.nodes) := by
  have simulates : (search graph).Simulates graph.related Prod.snd (fun id => graph.Connected node.id id) fun state ids =>
      state.visitedNodes = visitedNodes ++ ids ∧ state.componentNodes = ids.filterMap (getNode graph.nodes) := by
    refine ⟨related_links, fun _ => rfl, (search_within member).closed, ?_, ?_, ?_⟩
    · intro id state ids connected same
      have absent : id ∉ visitedNodes := fun there => unconnected id there connected
      change id ∈ state.visitedNodes ↔ id ∈ ids
      rw [same.1, List.mem_append]
      exact or_iff_right absent
    · intro id state ids _ _ same
      refine ⟨?_, ?_⟩
      · change state.visitedNodes ++ [id] = visitedNodes ++ (ids ++ [id])
        rw [same.1, List.append_assoc]
      · change state.componentNodes ++ (getNode graph.nodes id).toList = (ids ++ [id]).filterMap (getNode graph.nodes)
        rw [same.2, List.filterMap_append]
        cases found : getNode graph.nodes id <;> simp [found]
    · intro id link state ids _ _ _ same
      change (state.collect link.1).visitedNodes = _ ∧ (state.collect link.1).componentNodes = _
      unfold Search.collect
      split <;> exact same
  exact simulates.visit fuel .refl ⟨(List.append_nil _).symm, rfl⟩

theorem search_edges (member : node ∈ graph.nodes) (distinct : visitedEdges.Nodup) (fuel : Nat) :
    Collected graph node visitedEdges ((search graph).visit fuel node.id ⟨visitedNodes, visitedEdges, [], []⟩) := by
  have start : Collected graph node visitedEdges ⟨visitedNodes, visitedEdges, [], []⟩ := ⟨(List.append_nil _).symm, distinct, nofun⟩
  refine Walk.visit_invariant (search_within member).closed ?_ ?_ fuel .refl start
  · exact fun _ _ _ _ held => ⟨held.edgeIds, held.distinct, held.incident⟩
  · intro id link state connected _ inside held
    change Collected graph node visitedEdges (state.collect link.1)
    unfold Search.collect
    split
    next => exact held
    next fresh =>
      refine ⟨?_, ?_, ?_⟩
      · simp only [held.edgeIds, List.map_append, List.append_assoc]
        rfl
      · rw [List.nodup_append_comm]
        exact List.nodup_cons.mpr ⟨fresh, held.distinct⟩
      · intro edge collected
        rcases List.mem_append.mp collected with old | new
        · exact held.incident edge old
        · obtain ⟨known, touches⟩ := mem_search_links inside
          rw [List.mem_singleton.mp new]
          exact ⟨known, id, connected, touches⟩

theorem search_found (member : node ∈ graph.nodes) (unconnected : ∀ id ∈ visitedNodes, ¬graph.Connected node.id id)
    (distinct : visitedEdges.Nodup) :
    Found graph node visitedNodes visitedEdges ((search graph).visit graph.nodes.length node.id ⟨visitedNodes, visitedEdges, [], []⟩) := by
  obtain ⟨ids, nodes⟩ := search_nodes member unconnected graph.nodes.length
  refine ⟨search_edges member distinct graph.nodes.length, ids, nodes, ?_⟩
  intro edge known id connected touches
  obtain ⟨link, inside, rfl⟩ := exists_search_link known touches
  have enough : (search graph).unseen (graph.nodes.map GraphNode.id) ⟨visitedNodes, visitedEdges, [], []⟩ ≤ graph.nodes.length :=
    (List.length_filter_le _ _).trans (by simp)
  obtain ⟨⟨new, grows⟩, _⟩ := (search_within member).visit .refl enough
  have seen : visitedNodes ++ reachedIds graph node = visitedNodes ++ new := ids.symm.trans grows.seen
  have entered : id ∈ new := by
    rw [← List.append_cancel_left seen]
    exact (mem_reachedIds member).mpr connected
  exact (grows.settled id entered link inside).1

end

def edgesOf (it : GraphNode) : List GraphEdge := it.edges.getD []

@[simp] theorem component_children (nodes : List GraphNode) (edges : List GraphEdge) : (component nodes edges).children = nodes := rfl

@[simp] theorem component_edges (nodes : List GraphNode) (edges : List GraphEdge) : edgesOf (component nodes edges) = edges := rfl

def parts (graph : Graph) : List (List GraphNode) := (graph.nodes.filter (isHead graph)).map (reached graph)

/-- The components whose heads are among some nodes, where some edges have been visited. -/
structure Partition (graph : Graph) (nodes : List GraphNode) (visitedEdges : List String) (groups : List GraphNode) : Prop where
  shape : ∀ it ∈ groups, it = component it.children (edgesOf it)
  nodes : groups.map GraphNode.children = (nodes.filter (isHead graph)).map (reached graph)
  distinct : (visitedEdges ++ (groups.flatMap edgesOf).map GraphEdge.id).Nodup
  incident : ∀ it ∈ groups, ∀ edge ∈ edgesOf it, edge ∈ graph.edges ∧ ∃ node ∈ it.children, At edge node.id
  covered : ∀ it ∈ groups, ∀ node ∈ it.children, ∀ edge ∈ graph.edges, At edge node.id →
    edge.id ∈ visitedEdges ++ (groups.flatMap edgesOf).map GraphEdge.id

namespace Elements
variable (elements : Elements)

theorem mem_reached {node other : GraphNode} (member : node ∈ elements.graph.nodes) :
    other ∈ reached elements.graph node ↔ other ∈ elements.graph.nodes ∧ elements.graph.Connected node.id other.id := by
  rw [reached, List.mem_filterMap]
  constructor
  · intro ⟨id, inside, found⟩
    obtain ⟨known, rfl⟩ := getNode_id found
    exact ⟨known, (mem_reachedIds member).mp inside⟩
  · intro ⟨known, connected⟩
    exact ⟨other.id, (mem_reachedIds member).mpr connected, elements.getNode_self known⟩

theorem findComponents_partition {before nodes : List GraphNode} (split : elements.graph.nodes = before ++ nodes)
    {visitedNodes visitedEdges : List String} (visited : ∀ id, id ∈ visitedNodes ↔ ∃ earlier ∈ before, elements.graph.Connected earlier.id id)
    (distinct : visitedEdges.Nodup) :
    Partition elements.graph nodes visitedEdges (findComponents elements.graph nodes visitedNodes visitedEdges) := by
  induction nodes generalizing before visitedNodes visitedEdges with
  | nil => exact ⟨nofun, rfl, by simpa [findComponents] using distinct, nofun, nofun⟩
  | cons node nodes ih =>
    have member : node ∈ elements.graph.nodes := split ▸ List.mem_append_right _ (.head _)
    have next : elements.graph.nodes = (before ++ [node]) ++ nodes := by rw [split, List.append_assoc]; rfl
    have isHead_iff := isHead_iff split elements.nodeIds
    unfold findComponents
    split
    next old =>
      obtain ⟨earlier, inside, connected⟩ := (visited node.id).mp old
      have other : ¬isHead elements.graph node = true := fun head => isHead_iff.mp head earlier inside connected
      have further := @ih (before ++ [node]) next visitedNodes visitedEdges ?_ distinct
      · refine ⟨further.shape, ?_, further.distinct, further.incident, further.covered⟩
        rw [List.filter_cons_of_neg other]
        exact further.nodes
      · intro id
        rw [visited id]
        constructor
        · intro ⟨first, there, reaches⟩
          exact ⟨first, List.mem_append_left _ there, reaches⟩
        · intro ⟨first, there, reaches⟩
          rcases List.mem_append.mp there with there | here
          · exact ⟨first, there, reaches⟩
          · rw [List.mem_singleton.mp here] at reaches
            exact ⟨earlier, inside, connected.trans reaches⟩
    next fresh =>
      have head : isHead elements.graph node = true :=
        isHead_iff.mpr fun earlier inside connected => fresh ((visited node.id).mpr ⟨earlier, inside, connected⟩)
      have unconnected : ∀ id ∈ visitedNodes, ¬elements.graph.Connected node.id id := by
        intro id there connected
        obtain ⟨earlier, inside, reaches⟩ := (visited id).mp there
        exact isHead_iff.mp head earlier inside (reaches.trans (connected_symm connected))
      have found := search_found member unconnected distinct
      rw [← elements.findConnectedComponent_eq _ member fresh] at found
      simp only
      generalize findConnectedComponent elements.graph elements.graph.nodes.length node ⟨visitedNodes, visitedEdges, [], []⟩ = result at found ⊢
      have further := @ih (before ++ [node]) next result.visitedNodes result.visitedEdges ?_ found.distinct
      · generalize findComponents elements.graph nodes result.visitedNodes result.visitedEdges = groups at further ⊢
        have edgeIds : visitedEdges ++ ((component result.componentNodes result.componentEdges :: groups).flatMap edgesOf).map GraphEdge.id =
            result.visitedEdges ++ (groups.flatMap edgesOf).map GraphEdge.id := by
          rw [List.flatMap_cons, component_edges, List.map_append, ← List.append_assoc, ← found.edgeIds]
        refine ⟨?_, ?_, ?_, ?_, ?_⟩
        · exact List.forall_mem_cons.mpr ⟨rfl, further.shape⟩
        · rw [List.filter_cons_of_pos head, List.map_cons, List.map_cons, further.nodes, component_children, found.nodes]
        · rw [edgeIds]
          exact further.distinct
        · refine List.forall_mem_cons.mpr ⟨fun edge collected => ?_, further.incident⟩
          obtain ⟨known, id, connected, touches⟩ := found.incident edge collected
          obtain ⟨other, there, rfl⟩ := List.mem_map.mp (connected_known member connected)
          refine ⟨known, other, ?_, touches⟩
          rw [component_children, found.nodes]
          exact (elements.mem_reached member).mpr ⟨there, connected⟩
        · rw [edgeIds]
          refine List.forall_mem_cons.mpr ⟨fun other inside edge known touches => ?_, further.covered⟩
          rw [component_children, found.nodes] at inside
          exact List.mem_append_left _ (found.covered edge known other.id ((elements.mem_reached member).mp inside).2 touches)
      · intro id
        rw [found.ids, List.mem_append, visited id, mem_reachedIds member]
        simp only [List.mem_append, List.mem_singleton, or_and_right, exists_or, exists_eq_left]

theorem partition : Partition elements.graph elements.graph.nodes [] (findComponents elements.graph elements.graph.nodes [] []) :=
  elements.findComponents_partition (List.nil_append _).symm (by simp) List.nodup_nil

theorem headOf_self {node : GraphNode} (kept : node ∈ elements.graph.nodes.filter (isHead elements.graph)) :
    headOf elements.graph node = some node := by
  obtain ⟨known, head⟩ := List.mem_filter.mp kept
  obtain ⟨first, there, found, _⟩ := headOf_spec known
  rw [isHead, found, decide_eq_true_eq, Option.map_some, Option.some.injEq] at head
  rw [found, List.inj_on_of_nodup_map elements.nodeIds there known head]

theorem mem_parts {part : List GraphNode} : part ∈ parts elements.graph ↔
    ∃ head ∈ elements.graph.nodes, headOf elements.graph head = some head ∧ reached elements.graph head = part := by
  unfold parts
  rw [List.mem_map]
  constructor
  · intro ⟨head, kept, same⟩
    exact ⟨head, (List.mem_filter.mp kept).1, elements.headOf_self kept, same⟩
  · intro ⟨head, known, found, same⟩
    refine ⟨head, List.mem_filter.mpr ⟨known, ?_⟩, same⟩
    rw [isHead, found]
    simp

section
variable {elements} {part other : List GraphNode} {node another : GraphNode}

theorem part_known (inParts : part ∈ parts elements.graph) (member : node ∈ part) : node ∈ elements.graph.nodes := by
  obtain ⟨head, known, _, rfl⟩ := elements.mem_parts.mp inParts
  exact ((elements.mem_reached known).mp member).1

theorem part_connected (inParts : part ∈ parts elements.graph) (member : node ∈ part) :
    another ∈ part ↔ another ∈ elements.graph.nodes ∧ elements.graph.Connected node.id another.id := by
  obtain ⟨head, known, _, rfl⟩ := elements.mem_parts.mp inParts
  have connected := ((elements.mem_reached known).mp member).2
  rw [elements.mem_reached known]
  refine and_congr_right fun _ => ⟨fun reaches => (connected_symm connected).trans reaches, fun reaches => connected.trans reaches⟩

theorem part_unique (inParts : part ∈ parts elements.graph) (otherIn : other ∈ parts elements.graph) (member : node ∈ part)
    (also : node ∈ other) : part = other := by
  obtain ⟨head, known, found, rfl⟩ := elements.mem_parts.mp inParts
  obtain ⟨head', known', found', rfl⟩ := elements.mem_parts.mp otherIn
  have first := headOf_congr ((elements.mem_reached known).mp member).2
  have second := headOf_congr ((elements.mem_reached known').mp also).2
  rw [found] at first
  rw [found', ← first] at second
  rw [Option.some.inj second]

theorem exists_part (member : node ∈ elements.graph.nodes) : ∃ part ∈ parts elements.graph, node ∈ part := by
  obtain ⟨head, known, found, connected, _⟩ := headOf_spec member
  have own : headOf elements.graph head = some head := (headOf_congr connected).trans found
  exact ⟨_, elements.mem_parts.mpr ⟨head, known, own, rfl⟩, (elements.mem_reached known).mpr ⟨member, connected⟩⟩

theorem part_ids (inParts : part ∈ parts elements.graph) : (part.map GraphNode.id).Nodup := by
  obtain ⟨head, known, _, rfl⟩ := elements.mem_parts.mp inParts
  rw [reached_ids known]
  exact reachedIds_nodup known

theorem part_nonempty (inParts : part ∈ parts elements.graph) : part ≠ [] := by
  obtain ⟨head, known, _, rfl⟩ := elements.mem_parts.mp inParts
  exact List.ne_nil_of_mem ((elements.mem_reached known).mpr ⟨known, .refl⟩)

end

theorem parts_nodup : (parts elements.graph).Nodup := by
  unfold parts
  refine List.Nodup.map_on ?_ ((List.Nodup.of_map _ elements.nodeIds).filter _)
  intro head kept other otherKept same
  have known := (List.mem_filter.mp kept).1
  have reaches : head ∈ reached elements.graph other := same ▸ (elements.mem_reached known).mpr ⟨known, .refl⟩
  have equal := headOf_congr ((elements.mem_reached (List.mem_filter.mp otherKept).1).mp reaches).2
  rw [elements.headOf_self kept, elements.headOf_self otherKept] at equal
  exact (Option.some.inj equal).symm

theorem parts_perm : (parts elements.graph).flatten.Perm elements.graph.nodes := by
  have distinct : (parts elements.graph).flatten.Nodup := by
    rw [List.nodup_flatten]
    refine ⟨fun part inside => List.Nodup.of_map _ (part_ids inside), ?_⟩
    refine (List.Pairwise.imp_of_mem ?_ elements.parts_nodup)
    intro part other inside otherInside apart node member also
    exact apart (part_unique inside otherInside member also)
  rw [List.perm_ext_iff_of_nodup distinct (List.Nodup.of_map _ elements.nodeIds)]
  intro node
  rw [List.mem_flatten]
  exact ⟨fun ⟨_, inside, member⟩ => part_known inside member, exists_part⟩

end Elements
end K8Sense.ResourceMap.Components
