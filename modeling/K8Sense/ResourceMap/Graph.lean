import Mathlib.Data.Rat.Defs

/-! The graph that the resource map shows: nodes, which may be groups of nodes, and the
edges between them. -/

namespace K8Sense.ResourceMap

inductive GraphNodeStatus where
  | error
  | success
  | warning
deriving DecidableEq

structure KubeCondition where
  type : String
  status : String
deriving DecidableEq

/-- What the map reads of a resource. `apiGroupName` is that of its class; the counts are
those of the status and of the spec, where they are set. -/
structure KubeObject where
  apiGroupName : Option String
  kind : String
  uid : String
  name : String
  «namespace» : Option String
  labels : Option (List (String × String))
  nodeName : Option String
  phase : String
  conditions : List KubeCondition
  replicas : Option Nat
  readyReplicas : Option Nat
  numberReady : Option Nat
  currentNumberScheduled : Option Nat
  desiredNumberScheduled : Option Nat
deriving DecidableEq

structure GraphEdge where
  id : String
  source : String
  target : String
deriving DecidableEq

structure NodeData where
  id : String
  label : Option String
  subtitle : Option String
  status : Option GraphNodeStatus
  kubeObject : Option KubeObject
  weight : Option ℚ
  collapsed : Option Bool
deriving DecidableEq

inductive GraphNode where
  | node (data : NodeData) (nodes : Option (List GraphNode)) (edges : Option (List GraphEdge))

namespace GraphNode

def data : GraphNode → NodeData
  | node data _ _ => data

def nodes : GraphNode → Option (List GraphNode)
  | node _ nodes _ => nodes

def edges : GraphNode → Option (List GraphEdge)
  | node _ _ edges => edges

def id (it : GraphNode) : String := it.data.id

def kubeObject (it : GraphNode) : Option KubeObject := it.data.kubeObject

@[simp] theorem data_node (data : NodeData) (nodes : Option (List GraphNode)) (edges : Option (List GraphEdge)) :
    (node data nodes edges).data = data := rfl

@[simp] theorem nodes_node (data : NodeData) (nodes : Option (List GraphNode)) (edges : Option (List GraphEdge)) :
    (node data nodes edges).nodes = nodes := rfl

@[simp] theorem edges_node (data : NodeData) (nodes : Option (List GraphNode)) (edges : Option (List GraphEdge)) :
    (node data nodes edges).edges = edges := rfl

@[simp] theorem id_node (data : NodeData) (nodes : Option (List GraphNode)) (edges : Option (List GraphEdge)) :
    (node data nodes edges).id = data.id := rfl

@[simp] theorem kubeObject_node (data : NodeData) (nodes : Option (List GraphNode)) (edges : Option (List GraphEdge)) :
    (node data nodes edges).kubeObject = data.kubeObject := rfl

theorem induct {motive : GraphNode → Prop}
    (step : ∀ data nodes edges, (∀ children, nodes = some children → ∀ child ∈ children, motive child) → motive (node data nodes edges)) :
    ∀ graph, motive graph
  | node data nodes edges => step data nodes edges fun _ _ child _ => induct step child
termination_by graph => sizeOf graph
decreasing_by
  subst nodes
  have smaller := List.sizeOf_lt_of_mem ‹child ∈ _›
  simp only [node.sizeOf_spec, Option.some.sizeOf_spec]
  omega

end GraphNode

mutual

/-- The items that the callback is called with, in order. -/
def forEachNode : GraphNode → List GraphNode
  | .node data none edges => [.node data none edges]
  | .node data (some nodes) edges => .node data (some nodes) edges :: forEachNodes nodes

def forEachNodes : List GraphNode → List GraphNode
  | [] => []
  | node :: nodes => forEachNode node ++ forEachNodes nodes

end

def DEFAULT_NODE_WEIGHTS : List (String × ℚ) := [
  ("HorizontalPodAutoscaler", 1000),
  ("Deployment", 980),
  ("StatefulSet", 960),
  ("DaemonSet", 960),
  ("CronJob", 960),
  ("JobSet", 960),
  ("Job", 920),
  ("ReplicaSet", 960),
  ("Pod", 800),
  ("ServiceAccount", 960),
  ("Role", 790),
  ("ClusterRole", 790),
  ("Service", 790),
  ("NetworkPolicy", 790),
  ("PersistentVolumeClaim", 790),
  ("ConfigMap", 790),
  ("Secret", 790),
  ("Endpoints", 780),
  ("EndpointSlice", 780),
  ("MutatingWebhookConfiguration", 780),
  ("ValidatingWebhookConfiguration", 780),
  ("IngressClass", 780),
  ("Ingress", 780),
  ("RoleBinding", 800),
  ("ClusterRoleBinding", 800),
  ("StorageClass", 770),
  ("CSIDriver", 760),
  ("PersistentVolume", 750),
  ("CustomResourceDefinition", 600),
  ("default", 500)]

def getNodeWeight (node : GraphNode) : ℚ :=
  match node.data.weight with
  | some weight => weight
  | none => ((node.kubeObject.map KubeObject.kind).bind fun kind => DEFAULT_NODE_WEIGHTS.lookup kind).getD 500

/-! The lookups: a later node of one id takes the place of an earlier one, and edges stand
in their order. -/

def getNode (nodes : List GraphNode) (nodeId : String) : Option GraphNode := nodes.reverse.find? fun node => node.id == nodeId

def getOutgoingEdges (edges : List GraphEdge) (nodeId : String) : List GraphEdge := edges.filter fun edge => edge.source == nodeId

def getIncomingEdges (edges : List GraphEdge) (nodeId : String) : List GraphEdge := edges.filter fun edge => edge.target == nodeId

theorem getNode_id {nodes : List GraphNode} {nodeId : String} {node : GraphNode} (found : getNode nodes nodeId = some node) :
    node ∈ nodes ∧ node.id = nodeId :=
  ⟨List.mem_reverse.mp (List.mem_of_find?_eq_some found), by simpa using List.find?_some found⟩

theorem getNode_isSome {nodes : List GraphNode} {nodeId : String} :
    (getNode nodes nodeId).isSome ↔ nodeId ∈ nodes.map GraphNode.id := by
  simp [getNode]

theorem getNode_map_id (nodes : List GraphNode) (nodeId : String) :
    (getNode nodes nodeId).map GraphNode.id = if nodeId ∈ nodes.map GraphNode.id then some nodeId else none := by
  cases found : getNode nodes nodeId with
  | none =>
    have absent : nodeId ∉ nodes.map GraphNode.id := by simp [← getNode_isSome, found]
    rw [if_neg absent, Option.map_none]
  | some node =>
    have there : nodeId ∈ nodes.map GraphNode.id := by simp [← getNode_isSome, found]
    rw [if_pos there, Option.map_some, (getNode_id found).2]

end K8Sense.ResourceMap
