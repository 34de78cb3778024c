import K8Sense.ResourceMap.Graph
import Mathlib.Data.List.Nodup
import Mathlib.Data.List.Pairwise
import Mathlib.Data.List.Perm.Lattice

/-! The nodes below a node: where their ids are distinct, every node but the topmost one
has one parent. -/

namespace K8Sense.ResourceMap

def GraphNode.children (graph : GraphNode) : List GraphNode := graph.nodes.getD []

theorem forEachNodes_eq (nodes : List GraphNode) : forEachNodes nodes = nodes.flatMap forEachNode := by
  induction nodes with
  | nil => rfl
  | cons node nodes ih => rw [forEachNodes, ih, List.flatMap_cons]

theorem forEachNode_eq (graph : GraphNode) : forEachNode graph = graph :: graph.children.flatMap forEachNode := by
  cases graph with
  | node data nodes edges =>
    cases nodes with
    | none => rfl
    | some nodes => rw [forEachNode, forEachNodes_eq]; rfl

theorem children_induct {motive : GraphNode → Prop} (step : ∀ graph, (∀ child ∈ graph.children, motive child) → motive graph) (graph : GraphNode) :
    motive graph := by
  induction graph using GraphNode.induct with
  | step data nodes edges ih =>
    apply step
    intro child member
    cases nodes with
    | none => exact absurd member List.not_mem_nil
    | some children => exact ih children rfl child member

theorem mem_forEachNode {node graph : GraphNode} : node ∈ forEachNode graph ↔ node = graph ∨ ∃ child ∈ graph.children, node ∈ forEachNode child := by
  rw [forEachNode_eq, List.mem_cons, List.mem_flatMap]

theorem self_mem (graph : GraphNode) : graph ∈ forEachNode graph := mem_forEachNode.mpr (.inl rfl)

theorem child_mem {child graph : GraphNode} (member : child ∈ graph.children) : child ∈ forEachNode graph :=
  mem_forEachNode.mpr (.inr ⟨child, member, self_mem child⟩)

theorem child_sublist {child graph : GraphNode} (member : child ∈ graph.children) :
    (forEachNode child).Sublist (graph.children.flatMap forEachNode) := by
  rw [List.flatMap_def]
  exact List.sublist_flatten_of_mem (List.mem_map_of_mem member)

theorem forEachNode_sublist {node graph : GraphNode} (inside : node ∈ forEachNode graph) : (forEachNode node).Sublist (forEachNode graph) := by
  induction graph using children_induct with
  | step graph ih =>
    rcases mem_forEachNode.mp inside with rfl | ⟨child, member, below⟩
    · exact List.Sublist.refl _
    · rw [forEachNode_eq graph]
      exact (ih child member below).trans ((child_sublist member).trans (List.sublist_cons_self _ _))

theorem forEachNode_trans {inner node graph : GraphNode} (below : inner ∈ forEachNode node) (inside : node ∈ forEachNode graph) :
    inner ∈ forEachNode graph := (forEachNode_sublist inside).subset below

theorem forEachNode_antisymm {node graph : GraphNode} (inside : node ∈ forEachNode graph) (outside : graph ∈ forEachNode node) : node = graph := by
  rcases mem_forEachNode.mp inside with same | ⟨child, member, below⟩
  · exact same
  · have less : (forEachNode graph).length ≤ (forEachNode child).length :=
      ((forEachNode_sublist outside).trans (forEachNode_sublist below)).length_le
    have more : (forEachNode child).length ≤ (graph.children.flatMap forEachNode).length :=
      (child_sublist member).length_le
    rw [forEachNode_eq graph, List.length_cons] at less
    omega

theorem forEachNode_family (graph : GraphNode) : (forEachNode graph).Perm (graph :: (forEachNode graph).flatMap GraphNode.children) := by
  induction graph using children_induct with
  | step graph ih =>
    have below : ∀ children : List GraphNode, (∀ child ∈ children, (forEachNode child).Perm (child :: (forEachNode child).flatMap GraphNode.children)) →
        (children.flatMap forEachNode).Perm (children ++ (children.flatMap forEachNode).flatMap GraphNode.children) := by
      intro children families
      induction children with
      | nil => exact .refl _
      | cons child rest rests =>
        obtain ⟨first, later⟩ := List.forall_mem_cons.mp families
        simp only [List.flatMap_cons, List.flatMap_append, List.cons_append]
        refine (first.append (rests later)).trans ?_
        simp only [List.cons_append]
        refine List.Perm.cons _ ?_
        rw [← List.append_assoc, ← List.append_assoc]
        exact List.Perm.append_right _ List.perm_append_comm
    nth_rewrite 1 [forEachNode_eq graph]
    nth_rewrite 1 [forEachNode_eq graph]
    exact List.Perm.cons _ (below graph.children ih)

/-- The node stands among the children of the group. -/
def Parent (graph group node : GraphNode) : Prop := group ∈ forEachNode graph ∧ node ∈ group.children

theorem Parent.inside {graph group node : GraphNode} (parent : Parent graph group node) : node ∈ forEachNode graph :=
  forEachNode_trans (child_mem parent.2) parent.1

theorem exists_parent {graph node : GraphNode} (inside : node ∈ forEachNode graph) (other : node ≠ graph) :
    ∃ group, Parent graph group node := by
  rcases List.mem_cons.mp ((forEachNode_family graph).subset inside) with same | member
  · exact absurd same other
  · exact List.mem_flatMap.mp member

def Distinct (graph : GraphNode) : Prop := ((forEachNode graph).map GraphNode.id).Nodup

namespace Distinct
variable {graph group other node : GraphNode} (distinct : Distinct graph)
include distinct

theorem below (inside : node ∈ forEachNode graph) : Distinct node := List.Nodup.sublist ((forEachNode_sublist inside).map _) distinct

theorem eq_of_id (first : node ∈ forEachNode graph) (second : other ∈ forEachNode graph) (same : node.id = other.id) : node = other :=
  List.inj_on_of_nodup_map distinct first second same

theorem family : (graph :: (forEachNode graph).flatMap GraphNode.children).Nodup :=
  (forEachNode_family graph).nodup_iff.mp (List.Nodup.of_map _ distinct)

theorem root_no_child : ¬Parent graph group graph := by
  intro ⟨inside, member⟩
  exact (List.nodup_cons.mp distinct.family).1 (List.mem_flatMap.mpr ⟨group, inside, member⟩)

theorem parent_unique (first : Parent graph group node) (second : Parent graph other node) : group = other := by
  by_contra apart
  have separate := (List.nodup_flatMap.mp (List.nodup_cons.mp distinct.family).2).2
  have symmetric : Std.Symm (Function.onFun List.Disjoint GraphNode.children) := ⟨fun _ _ away => away.symm⟩
  exact separate.forall first.1 second.1 apart first.2 second.2

theorem parent_below (parent : Parent graph group node) (inside : other ∈ forEachNode graph) (holds : node ∈ forEachNode other)
    (apart : node ≠ other) : group ∈ forEachNode other := by
  obtain ⟨owner, held, member⟩ := exists_parent holds apart
  rwa [distinct.parent_unique parent ⟨forEachNode_trans held inside, member⟩]

end Distinct
end K8Sense.ResourceMap
