import K8Sense.ResourceMap.GroupedGraph
import Mathlib.Data.List.Flatten

/-! What the grouping keeps of the graph, and which names it takes for others. -/

namespace K8Sense.ResourceMap.Conservation
open Filtering Components GroupedGraph

/-! Sorting moves children alone. -/

theorem sortGraphs_eq (nodes : List GraphNode) : sortGraphs nodes = nodes.map sortGraph := by
  induction nodes with
  | nil => rfl
  | cons node nodes ih => rw [sortGraphs, ih, List.map_cons]

theorem sort_data (graph : GraphNode) : (sortGraph graph).data = graph.data := by
  cases graph with
  | node data nodes edges => cases nodes <;> rfl

theorem sort_id (graph : GraphNode) : (sortGraph graph).id = graph.id := congrArg NodeData.id (sort_data graph)

theorem sort_edges (graph : GraphNode) : edgesOf (sortGraph graph) = edgesOf graph := by
  cases graph with
  | node data nodes edges => cases nodes <;> rfl

theorem sort_isNone (graph : GraphNode) : (sortGraph graph).nodes.isNone = graph.nodes.isNone := by
  cases graph with
  | node data nodes edges => cases nodes <;> rfl

theorem sort_isGroup {graph : GraphNode} : (sortGraph graph).nodes ≠ none ↔ graph.nodes ≠ none := by
  cases graph with
  | node data nodes edges => cases nodes <;> simp [sortGraph]

theorem sort_leaf {node : GraphNode} (leaf : node.nodes = none) : sortGraph node = node := by
  cases node with
  | node data nodes edges =>
    change nodes = none at leaf
    subst leaf
    rfl

theorem sort_children (graph : GraphNode) : (sortGraph graph).children.Perm (graph.children.map sortGraph) := by
  cases graph with
  | node data nodes edges =>
    cases nodes with
    | none => exact .refl _
    | some nodes =>
      change (sortNodes (sortGraphs nodes)).Perm (nodes.map sortGraph)
      rw [sortGraphs_eq]
      exact List.mergeSort_perm _ _

theorem sort_all (graph : GraphNode) : (forEachNode (sortGraph graph)).Perm ((forEachNode graph).map sortGraph) := by
  induction graph using children_induct with
  | step graph ih =>
    rw [forEachNode_eq, forEachNode_eq graph, List.map_cons, List.map_flatMap]
    apply List.Perm.cons
    refine ((sort_children graph).flatMap_right _).trans ?_
    rw [List.flatMap_map]
    exact List.Perm.flatMap_left _ ih

/-! What the ways to group have in common. -/

def accessor : GroupBy → GraphNode → Option String
  | .namespace => namespaceOf
  | .node => nodeNameOf
  | .instance => instanceOf

def label : GroupBy → String
  | .namespace => "Namespace"
  | .node => "Node"
  | .instance => "Instance"

def allowSingleMemberGroup : GroupBy → Bool
  | .namespace => true
  | .node => true
  | .instance => false

/-- The resources of which a group can take one. -/
def objects (namespaces k8sNodes : List KubeObject) : GroupBy → List KubeObject
  | .namespace => namespaces
  | .node => k8sNodes
  | .instance => []

theorem withKubeObject_none (node : GraphNode) : withKubeObject [] node = node := by
  cases node with
  | node data nodes edges =>
    simp only [withKubeObject, List.find?_nil]
    split <;> rfl

theorem groupComponents_eq (components : List GraphNode) (namespaces k8sNodes : List KubeObject) (mode : GroupBy) :
    groupComponents components namespaces k8sNodes (some mode) =
      (groupByProperty components (accessor mode) (label mode) (allowSingleMemberGroup mode)).map
        (withKubeObject (objects namespaces k8sNodes mode)) := by
  cases mode with
  | «namespace» => rfl
  | node => rfl
  | «instance» =>
    have same : withKubeObject [] = fun node => node := funext withKubeObject_none
    simp only [objects, same, List.map_id']
    rfl

/-! The groups by a property. -/

theorem objectKeys_perm (keys : List String) : (objectKeys keys).Perm keys :=
  ((List.mergeSort_perm _ _).append_right _).trans (List.filter_append_perm _ keys)

theorem sift_perm {α β : Type} (kept : α → Bool) (one : α → β) (others : α → List β) (items : List α) :
    (items.flatMap fun item => (if kept item then [one item] else []) ++ others item).Perm
      ((items.filter kept).map one ++ items.flatMap others) := by
  have ones : (items.flatMap fun item => if kept item then [one item] else []) = (items.filter kept).map one := by
    induction items with
    | nil => rfl
    | cons item items ih =>
      rw [List.flatMap_cons, ih]
      cases isKept : kept item <;> simp [isKept]
  rw [← ones]
  exact (List.flatMap_append_perm _ _ _).symm

section
variable (components : List GraphNode) (mode : GroupBy)

def members (property : String) : List GraphNode := components.filter fun node => propertyKey (accessor mode node) = property

/-- The members of the property stay without a group. -/
def flattened (property : String) : Bool :=
  nonGroup (propertyId (label mode) property) || ((members components mode property).length == 1 && !allowSingleMemberGroup mode)

def propertyKeys : List String := objectKeys (K8Sense.Grouping.firstSeen (fun node => propertyKey (accessor mode node)) components)

def keptKeys : List String := (propertyKeys components mode).filter fun property => !flattened components mode property

theorem propertyKeys_nodup : (propertyKeys components mode).Nodup :=
  (objectKeys_perm _).nodup_iff.mpr (K8Sense.Grouping.firstSeen_nodup _ _)

theorem mem_propertyKeys {property : String} :
    property ∈ propertyKeys components mode ↔ ∃ node ∈ components, propertyKey (accessor mode node) = property := by
  rw [propertyKeys, (objectKeys_perm _).mem_iff, K8Sense.Grouping.mem_firstSeen, List.mem_map]

theorem groupByProperty_eq : groupByProperty components (accessor mode) (label mode) (allowSingleMemberGroup mode) =
    (propertyKeys components mode).flatMap fun property =>
      if flattened components mode property then members components mode property
      else [group (propertyId (label mode) property) (some property) (some (label mode)) (members components mode property) []] := by
  unfold groupByProperty groupBy
  rw [List.map_map, List.flatMap_map]
  rfl

theorem members_perm : ((propertyKeys components mode).flatMap (members components mode)).Perm components :=
  K8Sense.Grouping.grouped_perm_of_subset (propertyKeys_nodup components mode)
    fun node member => (mem_propertyKeys components mode).mpr ⟨node, member, rfl⟩

end

/-! The id that a group takes. -/

def groupId (objects : List KubeObject) (mode : GroupBy) (property : String) : String :=
  match objects.find? fun object => some property = some object.name with
  | some object => object.uid
  | none => propertyId (label mode) property

def propertyGroup (objects : List KubeObject) (components : List GraphNode) (mode : GroupBy) (property : String) : GraphNode :=
  withKubeObject objects (group (propertyId (label mode) property) (some property) (some (label mode)) (members components mode property) [])

section
variable {objects : List KubeObject} {components : List GraphNode} {mode : GroupBy} {property : String}

theorem propertyGroup_id : (propertyGroup objects components mode property).id = groupId objects mode property := by
  unfold propertyGroup group withKubeObject groupId
  dsimp only
  cases objects.find? fun object => some property = some object.name <;> rfl

theorem withKubeObject_cases (node : GraphNode) :
    (withKubeObject objects node = node ∧ (node.kubeObject = none → ∀ object ∈ objects, node.data.label ≠ some object.name)) ∨
      ∃ object ∈ objects, node.data.label = some object.name ∧ node.kubeObject = none ∧
        withKubeObject objects node = .node { node.data with kubeObject := some object, id := object.uid } node.nodes node.edges := by
  cases node with
  | node data nodes edges =>
    simp only [withKubeObject, GraphNode.kubeObject_node, GraphNode.data_node, GraphNode.nodes_node, GraphNode.edges_node]
    cases known : data.kubeObject with
    | some kubeObject => exact .inl ⟨rfl, nofun⟩
    | none =>
      cases found : objects.find? fun object => data.label = some object.name with
      | none =>
        have missed := List.find?_eq_none.mp found
        exact .inl ⟨rfl, fun _ object member named => missed object member (decide_eq_true named)⟩
      | some object =>
        have named := List.find?_some found
        exact .inr ⟨object, List.mem_of_find?_eq_some found, by simpa using named, rfl, rfl⟩

theorem withKubeObject_nodes (node : GraphNode) : (withKubeObject objects node).nodes = node.nodes := by
  rcases withKubeObject_cases node with ⟨same, _⟩ | ⟨object, _, _, _, same⟩
  · rw [same]
  · rw [same, GraphNode.nodes_node]

theorem withKubeObject_edges (node : GraphNode) : (withKubeObject objects node).edges = node.edges := by
  rcases withKubeObject_cases node with ⟨same, _⟩ | ⟨object, _, _, _, same⟩
  · rw [same]
  · rw [same, GraphNode.edges_node]

theorem withKubeObject_names (node : GraphNode) :
    (withKubeObject objects node).data.label = node.data.label ∧ (withKubeObject objects node).data.subtitle = node.data.subtitle := by
  rcases withKubeObject_cases node with ⟨same, _⟩ | ⟨object, _, _, _, same⟩
  · rw [same]
    exact ⟨rfl, rfl⟩
  · rw [same]
    exact ⟨rfl, rfl⟩

theorem withKubeObject_eq {node : GraphNode} :
    withKubeObject objects node = node ↔ node.kubeObject = none → ∀ object ∈ objects, node.data.label ≠ some object.name := by
  rcases withKubeObject_cases node with ⟨same, free⟩ | ⟨object, member, named, bare, same⟩
  · exact iff_of_true same free
  · refine iff_of_false (fun unchanged => ?_) (fun free => free bare object member named)
    have filled := congrArg GraphNode.kubeObject (same.symm.trans unchanged)
    rw [bare] at filled
    cases filled

end

/-! The components, which are of one node or are groups. -/

/-- The value that a component is grouped by. -/
def valueOf (mode : GroupBy) (part : List GraphNode) : Option String := accessor mode (single (component part []))

theorem accessor_single (mode : GroupBy) (part : List GraphNode) (edges : List GraphEdge) :
    accessor mode (single (component part edges)) = valueOf mode part := by
  unfold valueOf
  match part with
  | [] => cases mode <;> rfl
  | [node] => rfl
  | first :: second :: rest => cases mode <;> rfl

def several (it : GraphNode) : Bool := it.children.length != 1

section
variable (elements : Elements)

def groups : List GraphNode := findComponents elements.graph elements.graph.nodes [] []

theorem components_eq : getConnectedComponents elements.graph = (groups elements).map single := rfl

variable {elements} {it node : GraphNode} {part : List GraphNode}

theorem groups_children : (groups elements).map GraphNode.children = parts elements.graph := elements.partition.nodes

theorem group_part (member : it ∈ groups elements) : it.children ∈ parts elements.graph := by
  rw [← groups_children]
  exact List.mem_map_of_mem member

theorem group_eq (member : it ∈ groups elements) : it = component it.children (edgesOf it) := elements.partition.shape it member

theorem exists_group (inside : part ∈ parts elements.graph) : ∃ it ∈ groups elements, it.children = part := by
  rw [← groups_children] at inside
  exact List.mem_map.mp inside

theorem plain_all (member : node ∈ elements.graph.nodes) : forEachNode node = [node] := by
  rw [forEachNode_eq, GraphNode.children, (elements.plain node member).1]
  rfl

theorem single_cases (member : it ∈ groups elements) :
    (∃ node, it.children = [node] ∧ several it = false ∧ single it = node) ∨ (several it = true ∧ single it = it) := by
  rw [group_eq member]
  generalize it.children = children
  match children with
  | [] => exact .inr ⟨rfl, rfl⟩
  | [node] => exact .inl ⟨node, rfl, rfl, rfl⟩
  | first :: second :: rest => exact .inr ⟨by simp [several], rfl⟩

theorem single_all (member : it ∈ groups elements) :
    forEachNode (single it) = (if several it then [it] else []) ++ it.children := by
  have leaves : ∀ node ∈ it.children, forEachNode node = [node] :=
    fun node inside => plain_all (Elements.part_known (group_part member) inside)
  rcases single_cases member with ⟨node, alone, few, same⟩ | ⟨many, same⟩
  · rw [same, few, alone, leaves node (alone ▸ .head _)]
    rfl
  · rw [same, many, if_pos rfl, forEachNode_eq, List.flatMap_congr leaves, List.flatMap_singleton']
    rfl

theorem accessor_group (mode : GroupBy) (member : it ∈ groups elements) : accessor mode (single it) = valueOf mode it.children := by
  rw [group_eq member, accessor_single]
  rfl

theorem components_all : ((getConnectedComponents elements.graph).flatMap forEachNode).Perm
    ((groups elements).filter several ++ elements.graph.nodes) := by
  rw [components_eq, List.flatMap_map, List.flatMap_congr (fun it member => single_all member)]
  refine (sift_perm several (fun it => it) GraphNode.children (groups elements)).trans ?_
  rw [List.map_id', List.flatMap_def, groups_children]
  exact elements.parts_perm.append_left _

end

/-! What the grouping is to keep, and where it does. -/

/-- A group that the search for components has made has no label, and only one that is
made by a property has a subtitle. -/
def IsComponent (it : GraphNode) : Prop := it.nodes ≠ none ∧ it.data.label = none

def IsProperty (it : GraphNode) : Prop := it.nodes ≠ none ∧ it.data.subtitle ≠ none

section
variable (elements : Elements) (mode : Option GroupBy) (namespaces k8sNodes : List KubeObject)

/-- Every node is a leaf once and every edge is there once, all ids are distinct, and the
groups are those of connected nodes and of equal values. -/
structure Conserves : Prop where
  leaves : ((forEachNode (groupGraph elements.graph mode namespaces k8sNodes)).filter fun it => it.nodes.isNone).Perm elements.graph.nodes
  edges : ∀ edge ∈ elements.graph.edges, edge.source ≠ edge.target → edge.source ∈ elements.graph.nodes.map GraphNode.id →
    edge.target ∈ elements.graph.nodes.map GraphNode.id →
    ((forEachNode (groupGraph elements.graph mode namespaces k8sNodes)).flatMap edgesOf).count edge = 1
  ids : Distinct (groupGraph elements.graph mode namespaces k8sNodes)
  components : ∀ node ∈ elements.graph.nodes, ∀ other ∈ elements.graph.nodes, node.id ≠ other.id →
    ((∃ it ∈ forEachNode (groupGraph elements.graph mode namespaces k8sNodes), IsComponent it ∧ node ∈ it.children ∧ other ∈ it.children) ↔
      elements.graph.Connected node.id other.id)
  properties : ∀ by', mode = some by' → by' ≠ .instance → ∀ part ∈ parts elements.graph, ∀ other ∈ parts elements.graph, part ≠ other →
    ((∃ it ∈ forEachNode (groupGraph elements.graph mode namespaces k8sNodes), IsProperty it ∧ ∀ node ∈ part ++ other, node ∈ forEachNode it) ↔
      ∃ value, valueOf by' part = some value ∧ valueOf by' other = some value)

/-- A group is formed for the value of a component, by instance for more than one. -/
def Formed (by' : GroupBy) (value : String) : Prop :=
  nonGroup (propertyId (label by') value) = false ∧ (∃ part ∈ parts elements.graph, valueOf by' part = some value) ∧
    (by' = .instance → ((parts elements.graph).filter fun part => valueOf by' part = some value).length ≠ 1)

/-- No name is taken for another. -/
structure Apart : Prop where
  bare : ∀ by', mode = some by' → ∀ node, [node] ∈ parts elements.graph → node.kubeObject = none →
    ∀ object ∈ objects namespaces k8sNodes by', node.data.label ≠ some object.name
  root : "root" ∉ elements.graph.nodes.map GraphNode.id
  component : ∀ part ∈ parts elements.graph, part.length ≠ 1 → componentId part ∉ elements.graph.nodes.map GraphNode.id
  property : ∀ by', mode = some by' → ∀ value, Formed elements by' value →
    groupId (objects namespaces k8sNodes by') by' value ∉ elements.graph.nodes.map GraphNode.id ∧
      groupId (objects namespaces k8sNodes by') by' value ≠ "root" ∧
      ∀ part ∈ parts elements.graph, part.length ≠ 1 → groupId (objects namespaces k8sNodes by') by' value ≠ componentId part
  distinct : ∀ by', mode = some by' → ∀ value other, Formed elements by' value → Formed elements by' other →
    groupId (objects namespaces k8sNodes by') by' value = groupId (objects namespaces k8sNodes by') by' other → value = other
  values : ∀ by', mode = some by' → by' ≠ .instance → ∀ part ∈ parts elements.graph, ∀ other ∈ parts elements.graph, part ≠ other →
    ∀ value, valueOf by' part = some value → valueOf by' other = some value → nonGroup (propertyId (label by') value) = false

end

theorem undefined_nonGroup (label : String) : nonGroup (propertyId label "undefined") = true := by
  unfold nonGroup propertyId
  rw [Text.contains_iff]
  refine ⟨(label ++ "-").toList, [], ?_⟩
  simp

section
variable {elements : Elements} {by' : GroupBy} {value : String}

theorem value_of_key {found : Option String} (grouped : nonGroup (propertyId (label by') value) = false) (key : propertyKey found = value) :
    found = some value := by
  cases found with
  | none =>
    subst key
    rw [propertyKey, Option.getD_none, undefined_nonGroup] at grouped
    cases grouped
  | some other => exact congrArg some key

theorem members_eq (property : String) : members (getConnectedComponents elements.graph) by' property =
    ((groups elements).filter fun it => propertyKey (valueOf by' it.children) = property).map single := by
  unfold members
  rw [components_eq, List.filter_map]
  congr 1
  apply List.filter_congr
  intro it member
  simp only [Function.comp, accessor_group by' member]

theorem members_length (grouped : nonGroup (propertyId (label by') value) = false) :
    (members (getConnectedComponents elements.graph) by' value).length =
      ((parts elements.graph).filter fun part => valueOf by' part = some value).length := by
  rw [members_eq, List.length_map, ← groups_children, List.filter_map, List.length_map]
  congr 1
  apply List.filter_congr
  intro it _
  rw [Function.comp, decide_eq_decide]
  exact ⟨value_of_key grouped, fun same => by rw [same]; rfl⟩

theorem mem_keptKeys : value ∈ keptKeys (getConnectedComponents elements.graph) by' ↔ Formed elements by' value := by
  unfold keptKeys Formed
  rw [List.mem_filter, mem_propertyKeys]
  unfold flattened
  cases grouped : nonGroup (propertyId (label by') value) with
  | true => simp
  | false =>
    rw [members_length grouped]
    have some' : (∃ node ∈ getConnectedComponents elements.graph, propertyKey (accessor by' node) = value) ↔
        ∃ part ∈ parts elements.graph, valueOf by' part = some value := by
      rw [components_eq, ← groups_children]
      simp only [List.mem_map, exists_exists_and_eq_and]
      refine exists_congr fun it => and_congr_right fun member => ?_
      rw [accessor_group by' member]
      exact ⟨value_of_key grouped, fun same => by rw [same]; rfl⟩
    rw [some']
    cases by' <;> simp [allowSingleMemberGroup]

end

/-! All nodes of the tree, where no node takes a resource by its label. -/

section
variable (elements : Elements) (mode : Option GroupBy) (namespaces k8sNodes : List KubeObject)

def formedGroups : Option GroupBy → List GraphNode
  | none => []
  | some by' => (keptKeys (getConnectedComponents elements.graph) by').map
      (propertyGroup (objects namespaces k8sNodes by') (getConnectedComponents elements.graph) by')

def Bare : Prop := ∀ by', mode = some by' → ∀ node, [node] ∈ parts elements.graph → node.kubeObject = none →
  ∀ object ∈ objects namespaces k8sNodes by', node.data.label ≠ some object.name

variable {elements mode namespaces k8sNodes}

theorem withKubeObject_component {by' : GroupBy} (bare : Bare elements (some by') namespaces k8sNodes) {it : GraphNode}
    (member : it ∈ getConnectedComponents elements.graph) : withKubeObject (objects namespaces k8sNodes by') it = it := by
  rw [components_eq] at member
  obtain ⟨it, inside, rfl⟩ := List.mem_map.mp member
  rw [withKubeObject_eq]
  rcases single_cases inside with ⟨node, alone, _, same⟩ | ⟨_, same⟩
  · rw [same]
    exact bare by' rfl node (alone ▸ group_part inside)
  · rw [same, group_eq inside]
    exact fun _ _ _ => nofun

theorem property_piece {by' : GroupBy} (bare : Bare elements (some by') namespaces k8sNodes) (property : String) :
    ((if flattened (getConnectedComponents elements.graph) by' property then members (getConnectedComponents elements.graph) by' property
      else [group (propertyId (label by') property) (some property) (some (label by'))
        (members (getConnectedComponents elements.graph) by' property) []]).map (withKubeObject (objects namespaces k8sNodes by'))).flatMap forEachNode =
    (if !flattened (getConnectedComponents elements.graph) by' property then
      [propertyGroup (objects namespaces k8sNodes by') (getConnectedComponents elements.graph) by' property] else []) ++
      (members (getConnectedComponents elements.graph) by' property).flatMap forEachNode := by
  cases flattened (getConnectedComponents elements.graph) by' property with
  | true =>
    have unchanged : (members (getConnectedComponents elements.graph) by' property).map (withKubeObject (objects namespaces k8sNodes by')) =
        members (getConnectedComponents elements.graph) by' property := by
      apply List.map_congr_left (g := fun it => it) ?_ |>.trans (List.map_id' _)
      intro it member
      exact withKubeObject_component bare (List.mem_filter.mp member).1
    simp only [if_true, unchanged, Bool.not_true, Bool.false_eq_true, if_false, List.nil_append]
  | false =>
    simp only [Bool.false_eq_true, if_false, List.map_singleton, List.flatMap_singleton, Bool.not_false, if_true]
    change forEachNode (propertyGroup (objects namespaces k8sNodes by') (getConnectedComponents elements.graph) by' property) = _
    rw [forEachNode_eq]
    congr 2
    unfold GraphNode.children propertyGroup
    rw [withKubeObject_nodes]
    rfl

theorem top_all (bare : Bare elements mode namespaces k8sNodes) :
    ((groupComponents (getConnectedComponents elements.graph) namespaces k8sNodes mode).flatMap forEachNode).Perm
      (formedGroups elements namespaces k8sNodes mode ++ ((groups elements).filter several ++ elements.graph.nodes)) := by
  cases mode with
  | none => exact components_all
  | some by' =>
    rw [groupComponents_eq, groupByProperty_eq, List.map_flatMap, List.flatMap_assoc]
    simp only [property_piece bare]
    refine (sift_perm _ _ _ _).trans (List.Perm.append_left _ ?_)
    rw [← List.flatMap_assoc]
    exact ((members_perm _ by').flatMap_right _).trans components_all

/-- The nodes of the tree are the root, the groups that are formed, the components of
several nodes and the nodes of the graph, each with its children in their order. -/
theorem tree_all (bare : Bare elements mode namespaces k8sNodes) : (forEachNode (groupGraph elements.graph mode namespaces k8sNodes)).Perm
    ((root (groupComponents (getConnectedComponents elements.graph) namespaces k8sNodes mode) ::
      (formedGroups elements namespaces k8sNodes mode ++ ((groups elements).filter several ++ elements.graph.nodes))).map sortGraph) := by
  refine (sort_all _).trans (List.Perm.map _ ?_)
  rw [forEachNode_eq]
  exact List.Perm.cons _ (top_all bare)

theorem mem_formedGroups {it : GraphNode} (member : it ∈ formedGroups elements namespaces k8sNodes mode) :
    ∃ by' value, mode = some by' ∧ Formed elements by' value ∧
      it = propertyGroup (objects namespaces k8sNodes by') (getConnectedComponents elements.graph) by' value := by
  cases mode with
  | none => exact absurd member List.not_mem_nil
  | some by' =>
    obtain ⟨value, kept, same⟩ := List.mem_map.mp member
    exact ⟨by', value, rfl, mem_keptKeys.mp kept, same.symm⟩

theorem propertyGroup_facts (objects : List KubeObject) (components : List GraphNode) (by' : GroupBy) (value : String) :
    let it := propertyGroup objects components by' value
    it.nodes = some (members components by' value) ∧ edgesOf it = [] ∧ it.data.label = some value ∧ it.data.subtitle = some (label by') := by
  refine ⟨?_, ?_, ?_, ?_⟩
  · exact withKubeObject_nodes _
  · exact congrArg (fun edges => edges.getD []) (withKubeObject_edges _)
  · exact (withKubeObject_names _).1
  · exact (withKubeObject_names _).2

theorem tree_cases (bare : Bare elements mode namespaces k8sNodes) {it : GraphNode}
    (member : it ∈ forEachNode (groupGraph elements.graph mode namespaces k8sNodes)) :
    it = groupGraph elements.graph mode namespaces k8sNodes ∨
      (∃ by' value, mode = some by' ∧ Formed elements by' value ∧
        it = sortGraph (propertyGroup (objects namespaces k8sNodes by') (getConnectedComponents elements.graph) by' value)) ∨
      (∃ original ∈ groups elements, several original = true ∧ it = sortGraph original) ∨ it ∈ elements.graph.nodes := by
  obtain ⟨original, inside, rfl⟩ := List.mem_map.mp ((tree_all bare).subset member)
  rcases List.mem_cons.mp inside with rfl | inside
  · exact .inl rfl
  rcases List.mem_append.mp inside with formed | inside
  · obtain ⟨by', value, same, isFormed, rfl⟩ := mem_formedGroups formed
    exact .inr (.inl ⟨by', value, same, isFormed, rfl⟩)
  rcases List.mem_append.mp inside with found | node
  · obtain ⟨known, many⟩ := List.mem_filter.mp found
    exact .inr (.inr (.inl ⟨original, known, many, rfl⟩))
  · rw [sort_leaf (elements.plain original node).1]
    exact .inr (.inr (.inr node))

theorem leaves_kept (bare : Bare elements mode namespaces k8sNodes) :
    ((forEachNode (groupGraph elements.graph mode namespaces k8sNodes)).filter fun it => it.nodes.isNone).Perm elements.graph.nodes := by
  refine ((tree_all bare).filter _).trans ?_
  rw [List.filter_map]
  have isLeaf : ((fun it : GraphNode => it.nodes.isNone) ∘ sortGraph) = fun it => it.nodes.isNone := funext fun it => sort_isNone it
  have noFormed : (formedGroups elements namespaces k8sNodes mode).filter (fun it => it.nodes.isNone) = [] := by
    rw [List.filter_eq_nil_iff]
    intro it member
    obtain ⟨by', value, _, _, rfl⟩ := mem_formedGroups member
    simp [(propertyGroup_facts _ _ by' value).1]
  have noGroups : ((groups elements).filter several).filter (fun it => it.nodes.isNone) = [] := by
    rw [List.filter_eq_nil_iff]
    intro it member
    rw [group_eq (List.mem_filter.mp member).1]
    exact Bool.false_ne_true
  have allLeaves : elements.graph.nodes.filter (fun it => it.nodes.isNone) = elements.graph.nodes :=
    List.filter_eq_self.mpr fun it member => by rw [(elements.plain it member).1]; rfl
  rw [isLeaf, List.filter_cons_of_neg (by exact Bool.false_ne_true), List.filter_append, List.filter_append, noFormed, noGroups, allLeaves,
    List.nil_append, List.nil_append]
  have same : elements.graph.nodes.map sortGraph = elements.graph.nodes := by
    apply List.map_congr_left (g := fun it => it) ?_ |>.trans (List.map_id' _)
    exact fun it member => sort_leaf (elements.plain it member).1
  rw [same]

end

/-! The edges and the components. -/

section
variable {elements : Elements} {mode : Option GroupBy} {namespaces k8sNodes : List KubeObject}

theorem tree_edges (bare : Bare elements mode namespaces k8sNodes) :
    ((forEachNode (groupGraph elements.graph mode namespaces k8sNodes)).flatMap edgesOf).Perm (((groups elements).filter several).flatMap edgesOf) := by
  refine ((tree_all bare).flatMap_right _).trans ?_
  have kept : ∀ items : List GraphNode, (items.map sortGraph).flatMap edgesOf = items.flatMap edgesOf := by
    intro items
    rw [List.flatMap_map]
    exact List.flatMap_congr fun it _ => sort_edges it
  have formed : (formedGroups elements namespaces k8sNodes mode).flatMap edgesOf = [] := by
    rw [List.flatMap_eq_nil_iff]
    intro it member
    obtain ⟨by', value, _, _, rfl⟩ := mem_formedGroups member
    exact (propertyGroup_facts _ _ by' value).2.1
  have leaves : elements.graph.nodes.flatMap edgesOf = [] := by
    rw [List.flatMap_eq_nil_iff]
    intro it member
    rw [edgesOf, (elements.plain it member).2]
    rfl
  rw [kept, List.flatMap_cons, List.flatMap_append, List.flatMap_append, formed, leaves, List.append_nil, List.nil_append]
  exact .refl _

theorem groups_edges_nodup : ((groups elements).flatMap edgesOf).Nodup := by
  have distinct := elements.partition.distinct
  rw [List.nil_append] at distinct
  exact List.Nodup.of_map _ distinct

theorem edge_kept {edge : GraphEdge} (known : edge ∈ elements.graph.edges) (other : edge.source ≠ edge.target)
    (source : edge.source ∈ elements.graph.nodes.map GraphNode.id) (target : edge.target ∈ elements.graph.nodes.map GraphNode.id) :
    edge ∈ ((groups elements).filter several).flatMap edgesOf := by
  obtain ⟨first, firstKnown, firstId⟩ := List.mem_map.mp source
  obtain ⟨second, secondKnown, secondId⟩ := List.mem_map.mp target
  have linked : elements.graph.Linked first.id second.id :=
    ⟨⟨edge, known, .inl ⟨firstId.symm, secondId.symm⟩⟩, firstId ▸ source, secondId ▸ target⟩
  obtain ⟨part, inParts, member⟩ := Elements.exists_part firstKnown
  obtain ⟨it, inside, rfl⟩ := exists_group inParts
  have covered := elements.partition.covered it inside first member edge known (.inl firstId.symm)
  rw [List.nil_append] at covered
  obtain ⟨collected, there, sameId⟩ := List.mem_map.mp covered
  obtain ⟨owner, ownerIn, inOwner⟩ := List.mem_flatMap.mp there
  obtain ⟨collectedKnown, node, inOwnerNodes, touches⟩ := elements.partition.incident owner ownerIn collected inOwner
  have same : collected = edge := List.inj_on_of_nodup_map elements.edgeIds collectedKnown known sameId
  subst same
  -- Both ends are in the component that has collected the edge.
  have ends : first ∈ owner.children ∧ second ∈ owner.children := by
    have ownerPart := group_part ownerIn
    have nodeKnown := Elements.part_known ownerPart inOwnerNodes
    rw [Elements.part_connected ownerPart inOwnerNodes, Elements.part_connected ownerPart inOwnerNodes]
    rcases touches with starts | finishes
    · have here : node = first := List.inj_on_of_nodup_map elements.nodeIds nodeKnown firstKnown (starts.symm.trans firstId.symm)
      exact ⟨⟨firstKnown, here ▸ .refl⟩, secondKnown, here ▸ .single linked⟩
    · have here : node = second := List.inj_on_of_nodup_map elements.nodeIds nodeKnown secondKnown (finishes.symm.trans secondId.symm)
      exact ⟨⟨firstKnown, here ▸ .single (linked_symm linked)⟩, secondKnown, here ▸ .refl⟩
  refine List.mem_flatMap.mpr ⟨owner, List.mem_filter.mpr ⟨ownerIn, ?_⟩, inOwner⟩
  rcases single_cases ownerIn with ⟨alone, only, _, _⟩ | ⟨many, _⟩
  · rw [only, List.mem_singleton, List.mem_singleton] at ends
    exact absurd (firstId.symm.trans ((congrArg GraphNode.id (ends.1.trans ends.2.symm)).trans secondId)) other
  · exact many

theorem edges_kept (bare : Bare elements mode namespaces k8sNodes) {edge : GraphEdge} (known : edge ∈ elements.graph.edges)
    (other : edge.source ≠ edge.target) (source : edge.source ∈ elements.graph.nodes.map GraphNode.id)
    (target : edge.target ∈ elements.graph.nodes.map GraphNode.id) :
    ((forEachNode (groupGraph elements.graph mode namespaces k8sNodes)).flatMap edgesOf).count edge = 1 := by
  rw [(tree_edges bare).count_eq]
  have distinct : (((groups elements).filter several).flatMap edgesOf).Nodup :=
    List.Nodup.sublist (List.Sublist.flatMap List.filter_sublist edgesOf) groups_edges_nodup
  exact List.count_eq_one_of_mem distinct (edge_kept known other source target)

theorem mem_sorted_children {it node : GraphNode} (plain : node ∈ elements.graph.nodes) (leaves : ∀ child ∈ it.children, child ∈ elements.graph.nodes) :
    node ∈ (sortGraph it).children ↔ node ∈ it.children := by
  rw [(sort_children it).mem_iff, List.mem_map]
  constructor
  · intro ⟨child, member, same⟩
    rw [sort_leaf (elements.plain child (leaves child member)).1] at same
    exact same ▸ member
  · intro member
    exact ⟨node, member, sort_leaf (elements.plain node plain).1⟩

theorem components_kept (bare : Bare elements mode namespaces k8sNodes) {node other : GraphNode} (member : node ∈ elements.graph.nodes)
    (also : other ∈ elements.graph.nodes) (apart : node.id ≠ other.id) :
    (∃ it ∈ forEachNode (groupGraph elements.graph mode namespaces k8sNodes), IsComponent it ∧ node ∈ it.children ∧ other ∈ it.children) ↔
      elements.graph.Connected node.id other.id := by
  have leaves : ∀ {it}, it ∈ groups elements → ∀ child ∈ it.children, child ∈ elements.graph.nodes :=
    fun inside _ there => Elements.part_known (group_part inside) there
  constructor
  · intro ⟨it, inside, ⟨isGroup, unlabelled⟩, first, second⟩
    rcases tree_cases bare inside with rfl | ⟨by', value, _, _, rfl⟩ | ⟨original, known, _, rfl⟩ | leaf
    · rw [groupGraph, sort_data] at unlabelled
      cases unlabelled
    · rw [sort_data, (propertyGroup_facts _ _ by' value).2.2.1] at unlabelled
      cases unlabelled
    · rw [mem_sorted_children member (leaves known)] at first
      rw [mem_sorted_children also (leaves known)] at second
      exact ((Elements.part_connected (group_part known) first).mp second).2
    · exact absurd (elements.plain it leaf).1 isGroup
  · intro connected
    obtain ⟨part, inParts, first⟩ := Elements.exists_part member
    obtain ⟨it, known, rfl⟩ := exists_group inParts
    have second := (Elements.part_connected inParts first).mpr ⟨also, connected⟩
    have many : several it = true := by
      rcases single_cases known with ⟨alone, only, _, _⟩ | ⟨many, _⟩
      · rw [only, List.mem_singleton] at first second
        exact absurd (congrArg GraphNode.id (first.trans second.symm)) apart
      · exact many
    have isGroup : it.nodes ≠ none ∧ it.data.label = none := by
      rw [group_eq known]
      exact ⟨nofun, rfl⟩
    refine ⟨sortGraph it, ?_, ⟨?_, ?_⟩, (mem_sorted_children member (leaves known)).mpr first, (mem_sorted_children also (leaves known)).mpr second⟩
    · rw [(tree_all bare).mem_iff]
      refine List.mem_map_of_mem (.tail _ (List.mem_append_right _ (List.mem_append_left _ ?_)))
      exact List.mem_filter.mpr ⟨known, many⟩
    · exact sort_isGroup.mpr isGroup.1
    · rw [sort_data]
      exact isGroup.2

end

/-! The ids. -/

theorem getMainNode_mem {part : List GraphNode} (nonempty : part ≠ []) : ∃ main ∈ part, getMainNode part = some main := by
  cases part with
  | nil => exact absurd rfl nonempty
  | cons node nodes =>
    refine ⟨_, ?_, rfl⟩
    refine List.foldlRecOn (motive := fun main => main ∈ node :: nodes) nodes _ (.head _) ?_
    intro main member current there
    split
    · exact .tail _ there
    · exact member

theorem componentId_ne_root (part : List GraphNode) : componentId part ≠ "root" := by
  intro same
  have chars := congrArg String.toList same
  rw [componentId, String.toList_append] at chars
  exact absurd (congrArg List.head? chars) (by simp)

section
variable {elements : Elements} {mode : Option GroupBy} {namespaces k8sNodes : List KubeObject}

theorem componentId_injective {part other : List GraphNode} (inParts : part ∈ parts elements.graph) (otherIn : other ∈ parts elements.graph)
    (same : componentId part = componentId other) : part = other := by
  obtain ⟨main, member, isMain⟩ := getMainNode_mem (Elements.part_nonempty inParts)
  obtain ⟨main', member', isMain'⟩ := getMainNode_mem (Elements.part_nonempty otherIn)
  unfold componentId at same
  rw [isMain, isMain', Option.map_some, Option.map_some, Option.getD_some, Option.getD_some, String.append_right_inj] at same
  have equal := List.inj_on_of_nodup_map elements.nodeIds (Elements.part_known inParts member) (Elements.part_known otherIn member') same
  exact Elements.part_unique inParts otherIn member (equal ▸ member')

theorem several_ids : ((groups elements).filter several).map GraphNode.id =
    ((parts elements.graph).filter fun part => part.length != 1).map componentId := by
  rw [← groups_children, List.filter_map, List.map_map]
  apply List.map_congr_left
  intro it member
  have shape := group_eq (List.mem_filter.mp member).1
  rw [shape]
  rfl

theorem several_ids_nodup : (((groups elements).filter several).map GraphNode.id).Nodup := by
  rw [several_ids]
  refine List.Nodup.map_on ?_ (elements.parts_nodup.filter _)
  exact fun part member other also same => componentId_injective (List.mem_filter.mp member).1 (List.mem_filter.mp also).1 same

theorem mem_several_ids {id : String} : id ∈ ((groups elements).filter several).map GraphNode.id ↔
    ∃ part ∈ parts elements.graph, part.length ≠ 1 ∧ componentId part = id := by
  rw [several_ids]
  simp [and_assoc]

theorem mem_formed_ids {id : String} : id ∈ (formedGroups elements namespaces k8sNodes mode).map GraphNode.id ↔
    ∃ by', mode = some by' ∧ ∃ value, Formed elements by' value ∧ groupId (objects namespaces k8sNodes by') by' value = id := by
  cases mode with
  | none => simp [formedGroups]
  | some by' =>
    simp only [formedGroups, List.map_map, List.mem_map, Function.comp, propertyGroup_id, mem_keptKeys, Option.some.injEq, exists_eq_left']

theorem formed_ids_nodup : ((formedGroups elements namespaces k8sNodes mode).map GraphNode.id).Nodup ↔
    ∀ by', mode = some by' → ∀ value other, Formed elements by' value → Formed elements by' other →
      groupId (objects namespaces k8sNodes by') by' value = groupId (objects namespaces k8sNodes by') by' other → value = other := by
  cases mode with
  | none => exact iff_of_true List.nodup_nil nofun
  | some by' =>
    have distinct : (keptKeys (getConnectedComponents elements.graph) by').Nodup := (propertyKeys_nodup _ _).filter _
    have ids : (formedGroups elements namespaces k8sNodes (some by')).map GraphNode.id =
        (keptKeys (getConnectedComponents elements.graph) by').map (groupId (objects namespaces k8sNodes by') by') := by
      rw [formedGroups, List.map_map]
      exact List.map_congr_left fun value _ => propertyGroup_id
    rw [ids, List.nodup_map_iff_inj_on distinct]
    simp only [mem_keptKeys, Option.some.injEq]
    constructor
    · rintro injective _ rfl value other formed also same
      exact injective value formed other also same
    · exact fun injective value formed other also same => injective by' rfl value other formed also same

theorem tree_ids (bare : Bare elements mode namespaces k8sNodes) :
    Distinct (groupGraph elements.graph mode namespaces k8sNodes) ↔
      ("root" :: ((formedGroups elements namespaces k8sNodes mode).map GraphNode.id ++
        (((groups elements).filter several).map GraphNode.id ++ elements.graph.nodes.map GraphNode.id))).Nodup := by
  have same : GraphNode.id ∘ sortGraph = GraphNode.id := funext sort_id
  unfold Distinct
  rw [((tree_all bare).map GraphNode.id).nodup_iff, List.map_map, same, List.map_cons, List.map_append, List.map_append]
  rfl

theorem ids_iff (bare : Bare elements mode namespaces k8sNodes) :
    Distinct (groupGraph elements.graph mode namespaces k8sNodes) ↔
      "root" ∉ elements.graph.nodes.map GraphNode.id ∧
      (∀ part ∈ parts elements.graph, part.length ≠ 1 → componentId part ∉ elements.graph.nodes.map GraphNode.id) ∧
      (∀ by', mode = some by' → ∀ value, Formed elements by' value →
        groupId (objects namespaces k8sNodes by') by' value ∉ elements.graph.nodes.map GraphNode.id ∧
          groupId (objects namespaces k8sNodes by') by' value ≠ "root" ∧
          ∀ part ∈ parts elements.graph, part.length ≠ 1 → groupId (objects namespaces k8sNodes by') by' value ≠ componentId part) ∧
      ∀ by', mode = some by' → ∀ value other, Formed elements by' value → Formed elements by' other →
        groupId (objects namespaces k8sNodes by') by' value = groupId (objects namespaces k8sNodes by') by' other → value = other := by
  rw [tree_ids bare, List.nodup_cons, List.nodup_append, List.nodup_append, List.mem_append, List.mem_append, formed_ids_nodup]
  simp only [List.mem_append, mem_formed_ids, mem_several_ids]
  constructor
  · rintro ⟨rootFree, injective, ⟨_, _, severalFree⟩, formedFree⟩
    refine ⟨fun there => rootFree (.inr (.inr there)), ?_, ?_, injective⟩
    · exact fun part inParts many there => severalFree _ ⟨part, inParts, many, rfl⟩ _ there rfl
    · intro by' same value formed
      refine ⟨fun there => formedFree _ ⟨by', same, value, formed, rfl⟩ _ (.inr there) rfl, fun isRoot => ?_, ?_⟩
      · exact rootFree (.inl ⟨by', same, value, formed, isRoot⟩)
      · exact fun part inParts many => formedFree _ ⟨by', same, value, formed, rfl⟩ _ (.inl ⟨part, inParts, many, rfl⟩)
  · rintro ⟨rootFree, severalFree, formedFree, injective⟩
    refine ⟨?_, injective, ⟨several_ids_nodup, elements.nodeIds, ?_⟩, ?_⟩
    · rintro (⟨by', same, value, formed, isRoot⟩ | ⟨part, _, _, isRoot⟩ | there)
      · exact (formedFree by' same value formed).2.1 isRoot
      · exact componentId_ne_root part isRoot
      · exact rootFree there
    · rintro _ ⟨part, inParts, many, rfl⟩ id there rfl
      exact severalFree part inParts many there
    · rintro _ ⟨by', same, value, formed, rfl⟩ id (⟨part, inParts, many, isComponent⟩ | there) rfl
      · exact (formedFree by' same value formed).2.2 part inParts many isComponent.symm
      · exact (formedFree by' same value formed).1 there

end

/-! The groups by a property, and the nodes that take a resource. -/

section
variable {elements : Elements} {mode : Option GroupBy} {namespaces k8sNodes : List KubeObject}

theorem mem_sorted {node it : GraphNode} (leaf : node.nodes = none) : node ∈ forEachNode (sortGraph it) ↔ node ∈ forEachNode it := by
  rw [(sort_all it).mem_iff, List.mem_map]
  constructor
  · intro ⟨original, inside, same⟩
    have alsoLeaf : original.nodes = none := by
      rw [← Option.isNone_iff_eq_none, ← sort_isNone, same, leaf]
      rfl
    rw [sort_leaf alsoLeaf] at same
    exact same ▸ inside
  · exact fun inside => ⟨node, inside, sort_leaf leaf⟩

theorem mem_single {part : List GraphNode} (inParts : part ∈ parts elements.graph) {node : GraphNode} (member : node ∈ part) {it : GraphNode}
    (known : it ∈ groups elements) : node ∈ forEachNode (single it) ↔ it.children = part := by
  have plain := elements.plain node (Elements.part_known inParts member)
  rw [single_all known, List.mem_append]
  constructor
  · rintro (group | child)
    · have isIt : node = it := by
        cases many : several it with
        | true => simpa [many] using group
        | false => simp [many] at group
      rw [isIt, group_eq known] at plain
      cases plain.1
    · exact Elements.part_unique (group_part known) inParts child member
  · rintro rfl
    exact .inr member

theorem mem_propertyGroup {by' : GroupBy} {value : String} (formed : Formed elements by' value) {part : List GraphNode}
    (inParts : part ∈ parts elements.graph) {node : GraphNode} (member : node ∈ part) (objects : List KubeObject) :
    node ∈ forEachNode (sortGraph (propertyGroup objects (getConnectedComponents elements.graph) by' value)) ↔ valueOf by' part = some value := by
  have plain := elements.plain node (Elements.part_known inParts member)
  have facts := propertyGroup_facts objects (getConnectedComponents elements.graph) by' value
  rw [mem_sorted plain.1, mem_forEachNode, GraphNode.children, facts.1, Option.getD_some, members_eq]
  constructor
  · rintro (same | ⟨child, inside, there⟩)
    · rw [same, facts.1] at plain
      cases plain.1
    · obtain ⟨it, kept, rfl⟩ := List.mem_map.mp inside
      obtain ⟨known, keyed⟩ := List.mem_filter.mp kept
      rw [(mem_single inParts member known).mp there, decide_eq_true_eq] at keyed
      exact value_of_key formed.1 keyed
  · intro valued
    obtain ⟨it, known, rfl⟩ := exists_group inParts
    refine .inr ⟨single it, List.mem_map_of_mem (List.mem_filter.mpr ⟨known, ?_⟩), (mem_single inParts member known).mpr rfl⟩
    rw [valued]
    exact decide_eq_true rfl

theorem properties_iff (bare : Bare elements mode namespaces k8sNodes) :
    (∀ by', mode = some by' → by' ≠ .instance → ∀ part ∈ parts elements.graph, ∀ other ∈ parts elements.graph, part ≠ other →
      ((∃ it ∈ forEachNode (groupGraph elements.graph mode namespaces k8sNodes), IsProperty it ∧ ∀ node ∈ part ++ other, node ∈ forEachNode it) ↔
        ∃ value, valueOf by' part = some value ∧ valueOf by' other = some value)) ↔
      ∀ by', mode = some by' → by' ≠ .instance → ∀ part ∈ parts elements.graph, ∀ other ∈ parts elements.graph, part ≠ other →
        ∀ value, valueOf by' part = some value → valueOf by' other = some value → nonGroup (propertyId (label by') value) = false := by
  refine forall_congr' fun by' => forall_congr' fun isMode => forall_congr' fun isOther => forall_congr' fun part => forall_congr' fun inParts =>
    forall_congr' fun other => forall_congr' fun otherIn => forall_congr' fun _ => ?_
  subst isMode
  obtain ⟨node, member⟩ := List.exists_mem_of_ne_nil _ (Elements.part_nonempty inParts)
  obtain ⟨another, also⟩ := List.exists_mem_of_ne_nil _ (Elements.part_nonempty otherIn)
  -- A group by a property that has both components is formed for their value.
  have both : (∃ it ∈ forEachNode (groupGraph elements.graph (some by') namespaces k8sNodes), IsProperty it ∧
      ∀ node ∈ part ++ other, node ∈ forEachNode it) ↔
      ∃ value, Formed elements by' value ∧ valueOf by' part = some value ∧ valueOf by' other = some value := by
    constructor
    · intro ⟨it, inside, ⟨isGroup, titled⟩, holds⟩
      rcases tree_cases bare inside with rfl | ⟨by'', value, same, formed, rfl⟩ | ⟨original, known, _, rfl⟩ | leaf
      · rw [groupGraph, sort_data] at titled
        exact absurd rfl titled
      · cases Option.some.inj same
        exact ⟨value, formed, (mem_propertyGroup formed inParts member _).mp (holds node (List.mem_append_left _ member)),
          (mem_propertyGroup formed otherIn also _).mp (holds another (List.mem_append_right _ also))⟩
      · rw [sort_data, group_eq known] at titled
        exact absurd rfl titled
      · exact absurd (elements.plain it leaf).1 isGroup
    · intro ⟨value, formed, valued, otherValued⟩
      have facts := propertyGroup_facts (objects namespaces k8sNodes by') (getConnectedComponents elements.graph) by' value
      refine ⟨sortGraph (propertyGroup (objects namespaces k8sNodes by') (getConnectedComponents elements.graph) by' value), ?_, ⟨?_, ?_⟩, ?_⟩
      · rw [(tree_all bare).mem_iff]
        refine List.mem_map_of_mem (.tail _ (List.mem_append_left _ ?_))
        exact List.mem_map_of_mem (mem_keptKeys.mpr formed)
      · rw [sort_isGroup, facts.1]
        exact nofun
      · rw [sort_data, facts.2.2.2]
        exact nofun
      · intro node inside
        rcases List.mem_append.mp inside with first | second
        · exact (mem_propertyGroup formed inParts first _).mpr valued
        · exact (mem_propertyGroup formed otherIn second _).mpr otherValued
  rw [both]
  constructor
  · intro grouped value valued otherValued
    obtain ⟨found, formed, same, _⟩ := grouped.mpr ⟨value, valued, otherValued⟩
    rw [valued] at same
    rw [Option.some.inj same]
    exact formed.1
  · intro free
    constructor
    · exact fun ⟨value, _, valued, otherValued⟩ => ⟨value, valued, otherValued⟩
    · intro ⟨value, valued, otherValued⟩
      exact ⟨value, ⟨free value valued otherValued, ⟨part, inParts, valued⟩, fun isInstance => absurd isInstance isOther⟩, valued, otherValued⟩

theorem valueOf_bare {node : GraphNode} (leaf : node.nodes = none) (bare : node.kubeObject = none) (by' : GroupBy) : valueOf by' [node] = none := by
  have same : single (component [node] []) = node := rfl
  rw [valueOf, same]
  cases by' <;> simp [accessor, namespaceOf, nodeNameOf, instanceOf, leaf, bare]

theorem bare_of_leaves (kept : ((forEachNode (groupGraph elements.graph mode namespaces k8sNodes)).filter fun it => it.nodes.isNone).Perm elements.graph.nodes) :
    Bare elements mode namespaces k8sNodes := by
  rintro by' rfl node inParts bare object member named
  have known := Elements.part_known inParts (.head _)
  have leaf := (elements.plain node known).1
  have changed : withKubeObject (objects namespaces k8sNodes by') node ≠ node :=
    fun same => withKubeObject_eq.mp same bare object member named
  have there := (List.mem_filter.mp (kept.mem_iff.mpr known)).1
  rw [groupGraph, mem_sorted leaf, mem_forEachNode] at there
  rcases there with same | ⟨top, inTop, below⟩
  · rw [same] at leaf
    cases leaf
  change top ∈ groupComponents _ _ _ (some by') at inTop
  rw [groupComponents_eq, groupByProperty_eq] at inTop
  obtain ⟨it, grouped, rfl⟩ := List.mem_map.mp inTop
  obtain ⟨property, _, inProperty⟩ := List.mem_flatMap.mp grouped
  -- The component of the node alone is the node.
  have alone : ∀ {found}, found ∈ groups elements → node ∈ forEachNode (single found) → single found = node ∧ found.children = [node] := by
    intro found isGroup inside
    have children := (mem_single inParts (.head _) isGroup).mp inside
    refine ⟨?_, children⟩
    rcases single_cases isGroup with ⟨other, only, _, same⟩ | ⟨many, _⟩
    · rw [same]
      rw [children] at only
      exact (List.singleton_inj.mp only).symm
    · rw [several, children] at many
      cases many
  split at inProperty
  next =>
    have inComponents := (List.mem_filter.mp inProperty).1
    rw [components_eq] at inComponents
    obtain ⟨found, isGroup, rfl⟩ := List.mem_map.mp inComponents
    rcases withKubeObject_cases (single found) with ⟨same, _⟩ | ⟨taken, _, _, _, same⟩
    · rw [same] at below
      rw [(alone isGroup below).1] at same
      exact changed same
    · rw [mem_forEachNode] at below
      rcases below with isNode | ⟨child, inChildren, inside⟩
      · rw [same] at isNode
        rw [isNode] at bare
        cases bare
      · have sameChildren : (withKubeObject (objects namespaces k8sNodes by') (single found)).children = (single found).children := by
          unfold GraphNode.children
          rw [withKubeObject_nodes]
        rw [sameChildren] at inChildren
        have isNode := (alone isGroup (forEachNode_trans inside (child_mem inChildren))).1
        rw [isNode, GraphNode.children, leaf] at inChildren
        exact List.not_mem_nil inChildren
  next notFlattened =>
    rw [List.mem_singleton.mp inProperty, mem_forEachNode] at below
    rcases below with isNode | ⟨child, inChildren, inside⟩
    · rw [isNode, withKubeObject_nodes] at leaf
      cases leaf
    · rw [GraphNode.children, withKubeObject_nodes] at inChildren
      change child ∈ members _ _ _ at inChildren
      rw [members_eq] at inChildren
      obtain ⟨found, isMember, rfl⟩ := List.mem_map.mp inChildren
      obtain ⟨isGroup, keyed⟩ := List.mem_filter.mp isMember
      rw [(alone isGroup inside).2, valueOf_bare leaf bare, decide_eq_true_eq] at keyed
      apply notFlattened
      rw [← keyed, flattened, propertyKey, Option.getD_none, undefined_nonGroup, Bool.true_or]

/-- The grouping keeps the graph where no name is taken for another, and there alone. -/
theorem conserves_iff_apart (elements : Elements) (mode : Option GroupBy) (namespaces k8sNodes : List KubeObject) :
    Conserves elements mode namespaces k8sNodes ↔ Apart elements mode namespaces k8sNodes := by
  constructor
  · intro conserves
    have bare := bare_of_leaves conserves.leaves
    obtain ⟨rootFree, component, property, distinct⟩ := (ids_iff bare).mp conserves.ids
    exact ⟨bare, rootFree, component, property, distinct, (properties_iff bare).mp conserves.properties⟩
  · intro apart
    exact {
      leaves := leaves_kept apart.bare
      edges := fun _ known other source target => edges_kept apart.bare known other source target
      ids := (ids_iff apart.bare).mpr ⟨apart.root, apart.component, apart.property, apart.distinct⟩
      components := fun _ member _ also => components_kept apart.bare member also
      properties := (properties_iff apart.bare).mpr apart.values }

end

def resource (kind uid name : String) («namespace» : Option String) : KubeObject :=
  { apiGroupName := none, kind := kind, uid := uid, name := name, «namespace» := «namespace», labels := none, nodeName := none, phase := "Running",
    conditions := [], replicas := none, readyReplicas := none, numberReady := none, currentNumberScheduled := none, desiredNumberScheduled := none }

def shownResource (kubeObject : KubeObject) : GraphNode :=
  .node { id := kubeObject.uid, label := none, subtitle := none, status := none, kubeObject := some kubeObject, weight := none, collapsed := none } none none

/-- A namespace that is shown as a node, and a pod in it. -/
def namespaceAndPod : Elements where
  graph := ⟨[shownResource (resource "Namespace" "6f2c" "default" none), shownResource (resource "Pod" "91ab" "web" (some "default"))], []⟩
  plain := by simp [shownResource]
  nodeIds := by decide
  edgeIds := List.nodup_nil

/-- The group of the namespace takes the id under which the namespace is shown. -/
theorem namespace_shown_twice : ¬∀ (elements : Elements) (mode : Option GroupBy) (namespaces k8sNodes : List KubeObject),
    Conserves elements mode namespaces k8sNodes := by
  intro conserves
  have kept := conserves namespaceAndPod (some .namespace) [resource "Namespace" "6f2c" "default" none] []
  obtain ⟨_, _, property, _⟩ := (ids_iff (bare_of_leaves kept.leaves)).mp kept.ids
  have found : parts namespaceAndPod.graph = namespaceAndPod.graph.nodes.map fun node => [node] := by rfl
  have formed : Formed namespaceAndPod .namespace "default" := by
    refine ⟨by decide +kernel, ⟨[shownResource (resource "Pod" "91ab" "web" (some "default"))], ?_, rfl⟩, nofun⟩
    rw [found]
    exact .tail _ (.head _)
  exact (property .namespace rfl "default" formed).1 (by decide +kernel)

end K8Sense.ResourceMap.Conservation
