import K8Sense.Library.Grouping
import K8Sense.Library.Text
import K8Sense.ResourceMap.Components

/-! The grouped tree of the map: the connected components, in groups by a property, with
the heavier nodes first. -/

namespace K8Sense.ResourceMap.GroupedGraph
open Filtering Components

inductive GroupBy where
  | node
  | «namespace»
  | «instance»
deriving DecidableEq

/-! The keys of an object: integers in their order before the others. -/

def arrayIndex (key : String) : Option Nat := key.toNat?.filter fun index => toString index = key ∧ index < 4294967295

def objectKeys (keys : List String) : List String :=
  ((keys.filter fun key => (arrayIndex key).isSome).mergeSort fun key other => (arrayIndex key).getD 0 ≤ (arrayIndex other).getD 0) ++
    keys.filter fun key => !(arrayIndex key).isSome

/-- The property of an object that a missing value is taken for. -/
def propertyKey (value : Option String) : String := value.getD "undefined"

def groupBy (nodes : List GraphNode) (accessor : GraphNode → Option String) : List (String × List GraphNode) :=
  (objectKeys (Grouping.firstSeen (fun node => propertyKey (accessor node)) nodes)).map fun property =>
    (property, nodes.filter fun node => propertyKey (accessor node) = property)

def propertyId (label property : String) : String := label ++ "-" ++ property

def nonGroup (id : String) : Bool := Text.contains id.toList "undefined".toList

def groupByProperty (nodes : List GraphNode) (accessor : GraphNode → Option String) (label : String) (allowSingleMemberGroup : Bool) :
    List GraphNode :=
  ((groupBy nodes accessor).map fun entry => group (propertyId label entry.1) (some entry.1) (some label) entry.2 []).flatMap fun it =>
    if nonGroup it.id || (it.children.length == 1 && !allowSingleMemberGroup) then it.children else [it]

def namespaceOf (component : GraphNode) : Option String :=
  match component.nodes with
  | some nodes => ((nodes.find? fun node => node.kubeObject.isSome).bind GraphNode.kubeObject).bind KubeObject.namespace
  | none => component.kubeObject.bind KubeObject.namespace

def nodeNameOf (component : GraphNode) : Option String :=
  match component.nodes with
  | some nodes => ((nodes.find? fun node => node.kubeObject.map KubeObject.kind = some "Pod").bind GraphNode.kubeObject).bind KubeObject.nodeName
  | none => component.kubeObject.bind KubeObject.nodeName

def instanceLabel (kubeObject : KubeObject) : Option String :=
  kubeObject.labels.bind fun labels => labels.lookup "app.kubernetes.io/instance"

def instanceOf (node : GraphNode) : Option String :=
  match node.nodes with
  | some nodes => ((getMainNode (nodes.filter fun node => node.nodes.isNone)).bind GraphNode.kubeObject).bind instanceLabel
  | none => node.kubeObject.bind instanceLabel

/-- What has no resource takes the one that has its label as name, and its id. -/
def withKubeObject (objects : List KubeObject) : GraphNode → GraphNode
  | .node data nodes edges =>
    match data.kubeObject with
    | some _ => .node data nodes edges
    | none =>
      match objects.find? fun object => data.label = some object.name with
      | some object => .node { data with kubeObject := some object, id := object.uid } nodes edges
      | none => .node data nodes edges

def getNodeSortedWeight (n : GraphNode) : ℚ :=
  match n.edges, n.nodes with
  | some edges, some nodes => getNodeWeight n + (if 0 < edges.length then 10000 else 0) + nodes.length * 10
  | _, _ => getNodeWeight n

def sortNodes (nodes : List GraphNode) : List GraphNode := nodes.mergeSort fun a b => getNodeSortedWeight b ≤ getNodeSortedWeight a

mutual

/-- The order of the children of a node has no part in its weight. -/
def sortGraph : GraphNode → GraphNode
  | .node data none edges => .node data none edges
  | .node data (some nodes) edges => .node data (some (sortNodes (sortGraphs nodes))) edges

def sortGraphs : List GraphNode → List GraphNode
  | [] => []
  | node :: nodes => sortGraph node :: sortGraphs nodes

end

def groupComponents (components : List GraphNode) (namespaces k8sNodes : List KubeObject) : Option GroupBy → List GraphNode
  | none => components
  | some .namespace => (groupByProperty components namespaceOf "Namespace" true).map (withKubeObject namespaces)
  | some .node => (groupByProperty components nodeNameOf "Node" true).map (withKubeObject k8sNodes)
  | some .instance => groupByProperty components instanceOf "Instance" false

def root (nodes : List GraphNode) : GraphNode := group "root" (some "root") none nodes []

def groupGraph (graph : Graph) (mode : Option GroupBy) (namespaces k8sNodes : List KubeObject) : GraphNode :=
  sortGraph (root (groupComponents (getConnectedComponents graph) namespaces k8sNodes mode))

end K8Sense.ResourceMap.GroupedGraph
