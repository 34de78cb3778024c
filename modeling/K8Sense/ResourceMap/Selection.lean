import K8Sense.ResourceMap.Tree

/-! Which group the map opens for a selected node, and which groups it collapses. -/

namespace K8Sense.ResourceMap.Selection

mutual

/-- The groups below are searched without `strict`. -/
def findGroupContaining (elementId : String) : GraphNode → Bool → Option GraphNode
  | .node data nodes edges, strict =>
    if data.id = elementId ∧ strict = false then some (.node data nodes edges)
    else
      match nodes with
      | none => none
      | some nodes =>
        if nodes.any fun it => if strict then it.id = elementId else it.id = elementId ∧ it.nodes.isNone then some (.node data nodes edges)
        else findInNodes elementId nodes

def findInNodes (elementId : String) : List GraphNode → Option GraphNode
  | [] => none
  | node :: nodes =>
    match findGroupContaining elementId node false with
    | some group => some group
    | none => findInNodes elementId nodes

end

def isBig (group : GraphNode) : Bool := 10 < (group.nodes.getD []).length ∨ 0 < (group.edges.getD []).length

def collapsed (selectedGroup : Option GraphNode) (expandAll : Bool) (group : GraphNode) : Bool :=
  !expandAll && !(group.id = "root") && !(selectedGroup.map GraphNode.id = some group.id) && isBig group

section
variable (selectedGroup : Option GraphNode) (expandAll : Bool)

mutual

def collapseGroup : GraphNode → GraphNode
  | .node data none edges => .node { data with collapsed := some (collapsed selectedGroup expandAll (.node data none edges)) } none edges
  | .node data (some nodes) edges =>
    .node { data with collapsed := some (collapsed selectedGroup expandAll (.node data (some nodes) edges)) } (some (collapseGroups nodes)) edges

def collapseGroups : List GraphNode → List GraphNode
  | [] => []
  | node :: nodes => collapseGroup node :: collapseGroups nodes

end

end

/-- The group to show, where an empty id selects nothing. -/
def selectedGroup (graph : GraphNode) (selectedNodeId : Option String) : Option GraphNode :=
  if selectedNodeId.getD "root" = "" then none else findGroupContaining (selectedNodeId.getD "root") graph false

/-- The root with the nodes that stay on the map. -/
def shownRoot (graph : GraphNode) : Option GraphNode → GraphNode
  | some group => if group.id = "root" then graph else .node graph.data (some [group]) graph.edges
  | none => graph

def collapseGraph (graph : GraphNode) (selectedNodeId : Option String) (expandAll : Bool) : GraphNode :=
  collapseGroup (selectedGroup graph selectedNodeId) expandAll (shownRoot graph (selectedGroup graph selectedNodeId))

/-! Finding a group. -/

section
variable {graph group node : GraphNode} {elementId : String}

theorem findInNodes_eq (nodes : List GraphNode) :
    findInNodes elementId nodes = nodes.findSome? fun node => findGroupContaining elementId node false := by
  induction nodes with
  | nil => rfl
  | cons node nodes ih =>
    rw [findInNodes, List.findSome?_cons, ih]
    cases findGroupContaining elementId node false <;> rfl

theorem findGroupContaining_eq (graph : GraphNode) (strict : Bool) :
    findGroupContaining elementId graph strict =
      if graph.id = elementId ∧ strict = false then some graph
      else if ∃ child ∈ graph.children, child.id = elementId ∧ (strict = true ∨ child.nodes = none) then some graph
      else graph.children.findSome? fun node => findGroupContaining elementId node false := by
  cases graph with
  | node data nodes edges =>
    cases nodes with
    | none => simp [findGroupContaining, GraphNode.children]
    | some nodes =>
      rw [findGroupContaining]
      apply if_congr Iff.rfl rfl
      apply if_congr ?_ rfl (findInNodes_eq nodes)
      cases strict <;> simp [GraphNode.children]

theorem findSome_eq {α β : Type} {f : α → Option β} {items : List α} {value : β} (only : ∀ item ∈ items, f item = none ∨ f item = some value)
    (some' : ∃ item ∈ items, f item = some value) : items.findSome? f = some value := by
  obtain ⟨item, member, found⟩ := some'
  cases result : items.findSome? f with
  | none => rw [List.findSome?_eq_none_iff.mp result item member] at found; cases found
  | some other =>
    obtain ⟨first, there, gives⟩ := List.exists_of_findSome?_eq_some result
    rcases only first there with missing | found
    · rw [missing] at gives; cases gives
    · rw [← gives, found]

theorem find_absent (absent : ∀ node ∈ forEachNode graph, node.id ≠ elementId) (strict : Bool) :
    findGroupContaining elementId graph strict = none := by
  induction graph using children_induct generalizing strict with
  | step graph ih =>
    rw [findGroupContaining_eq, if_neg fun here => absent graph (self_mem graph) here.1,
      if_neg fun ⟨child, member, same, _⟩ => absent child (child_mem member) same, List.findSome?_eq_none_iff]
    intro child member
    exact ih child member (fun node below => absent node (forEachNode_trans below (child_mem member))) false

theorem find_below (distinct : Distinct graph) (inside : node ∈ forEachNode graph) (other : node ≠ graph)
    (found : ∀ child ∈ graph.children, node ∈ forEachNode child → findGroupContaining node.id child false = some group) :
    (graph.children.findSome? fun child => findGroupContaining node.id child false) = some group := by
  refine findSome_eq ?_ ?_
  · intro child member
    by_cases below : node ∈ forEachNode child
    · exact .inr (found child member below)
    · refine .inl (find_absent (fun deeper there same => below ?_) false)
      rwa [← distinct.eq_of_id (forEachNode_trans there (child_mem member)) inside same]
  · rcases mem_forEachNode.mp inside with same | ⟨child, member, below⟩
    · exact absurd same other
    · exact ⟨child, member, found child member below⟩

theorem find_group (distinct : Distinct graph) (inside : node ∈ forEachNode graph) (isGroup : node.nodes ≠ none) :
    findGroupContaining node.id graph false = some node := by
  induction graph using children_induct with
  | step graph ih =>
    by_cases same : node = graph
    · rw [findGroupContaining_eq, if_pos ⟨congrArg GraphNode.id same.symm, rfl⟩, same]
    · rw [findGroupContaining_eq, if_neg, if_neg]
      · apply find_below distinct inside same
        exact fun child member below => ih child member (distinct.below (child_mem member)) below
      · intro ⟨child, member, sameId, leaf⟩
        rw [distinct.eq_of_id (child_mem member) inside sameId] at leaf
        exact leaf.elim nofun isGroup
      · intro ⟨sameId, _⟩
        exact same (distinct.eq_of_id inside (self_mem graph) sameId.symm)

theorem find_leaf (distinct : Distinct graph) (parent : Parent graph group node) (leaf : node.nodes = none) :
    findGroupContaining node.id graph false = some group := by
  induction graph using children_induct with
  | step graph ih =>
    have other : node ≠ graph := fun same => distinct.root_no_child (same ▸ parent)
    rw [findGroupContaining_eq, if_neg fun here => other (distinct.eq_of_id parent.inside (self_mem graph) here.1.symm)]
    split
    next here =>
      obtain ⟨child, member, sameId, _⟩ := here
      rw [distinct.eq_of_id (child_mem member) parent.inside sameId] at member
      rw [distinct.parent_unique parent ⟨self_mem graph, member⟩]
    next deeper =>
      apply find_below distinct parent.inside other
      intro child member below
      have apart : node ≠ child := fun same => deeper ⟨child, member, same ▸ rfl, .inr (same ▸ leaf)⟩
      have inChild := distinct.parent_below parent (child_mem member) below apart
      exact ih child member (distinct.below (child_mem member)) ⟨inChild, parent.2⟩

theorem strict_child (member : node ∈ graph.children) : findGroupContaining node.id graph true = some graph := by
  rw [findGroupContaining_eq, if_neg (by simp), if_pos ⟨node, member, rfl, .inl rfl⟩]

theorem strict_root (distinct : Distinct graph) : findGroupContaining graph.id graph true = none := by
  have apart : ∀ child ∈ graph.children, ∀ node ∈ forEachNode child, node.id ≠ graph.id := by
    intro child member node below same
    have inside := forEachNode_trans below (child_mem member)
    have here := distinct.eq_of_id inside (self_mem graph) same
    subst here
    have child' := forEachNode_antisymm (child_mem member) below
    exact distinct.root_no_child ⟨self_mem node, child' ▸ member⟩
  rw [findGroupContaining_eq, if_neg (by simp), if_neg, List.findSome?_eq_none_iff]
  · exact fun child member => find_absent (apart child member) false
  · exact fun ⟨child, member, same, _⟩ => apart child member child (self_mem child) same

theorem strict_deeper (distinct : Distinct graph) (inside : node ∈ forEachNode graph) (other : node ≠ graph) (deeper : node ∉ graph.children) :
    findGroupContaining node.id graph true = findGroupContaining node.id graph false := by
  have missed : ∀ strict, ¬∃ child ∈ graph.children, child.id = node.id ∧ (strict = true ∨ child.nodes = none) := by
    intro strict ⟨child, member, same, _⟩
    exact deeper (distinct.eq_of_id (child_mem member) inside same ▸ member)
  rw [findGroupContaining_eq, findGroupContaining_eq, if_neg (by simp), if_neg (missed true), if_neg, if_neg (missed false)]
  exact fun here => other (distinct.eq_of_id inside (self_mem graph) here.1.symm)

end

/-! Collapsing groups. -/

section
variable (shown : Option GraphNode) (expandAll : Bool)

theorem collapseGroups_eq (nodes : List GraphNode) : collapseGroups shown expandAll nodes = nodes.map (collapseGroup shown expandAll) := by
  induction nodes with
  | nil => rfl
  | cons node nodes ih => rw [collapseGroups, ih, List.map_cons]

theorem collapse_id (graph : GraphNode) : (collapseGroup shown expandAll graph).id = graph.id := by
  cases graph with
  | node data nodes edges => cases nodes <;> rfl

theorem collapse_nodes (graph : GraphNode) :
    (collapseGroup shown expandAll graph).nodes = graph.nodes.map fun nodes => nodes.map (collapseGroup shown expandAll) := by
  cases graph with
  | node data nodes edges =>
    cases nodes with
    | none => rfl
    | some nodes => exact congrArg some (collapseGroups_eq shown expandAll nodes)

theorem collapse_collapsed (graph : GraphNode) :
    (collapseGroup shown expandAll graph).data.collapsed = some (collapsed shown expandAll graph) := by
  cases graph with
  | node data nodes edges => cases nodes <;> rfl

theorem collapse_children (graph : GraphNode) :
    (collapseGroup shown expandAll graph).children = graph.children.map (collapseGroup shown expandAll) := by
  unfold GraphNode.children
  rw [collapse_nodes]
  cases graph.nodes <;> rfl

theorem collapse_all (graph : GraphNode) :
    forEachNode (collapseGroup shown expandAll graph) = (forEachNode graph).map (collapseGroup shown expandAll) := by
  induction graph using children_induct with
  | step graph ih =>
    rw [forEachNode_eq, forEachNode_eq graph, collapse_children, List.map_cons, List.flatMap_map, List.map_flatMap]
    exact congrArg _ (List.flatMap_congr ih)

theorem collapse_ids (graph : GraphNode) :
    (forEachNode (collapseGroup shown expandAll graph)).map GraphNode.id = (forEachNode graph).map GraphNode.id := by
  rw [collapse_all, List.map_map]
  exact List.map_congr_left fun node _ => collapse_id shown expandAll node

end

/-- The ids of the nodes below that are no groups. -/
def leafIds (graph : GraphNode) : List String := ((forEachNode graph).filter fun node => node.nodes.isNone).map GraphNode.id

theorem collapse_leafIds (shown : Option GraphNode) (expandAll : Bool) (graph : GraphNode) :
    leafIds (collapseGroup shown expandAll graph) = leafIds graph := by
  have kept : (fun node => (collapseGroup shown expandAll node).nodes.isNone) = fun node : GraphNode => node.nodes.isNone := by
    funext node
    rw [collapse_nodes]
    cases node.nodes <;> rfl
  unfold leafIds
  rw [collapse_all, List.filter_map, List.map_map]
  unfold Function.comp
  rw [kept]
  exact List.map_congr_left fun node _ => collapse_id shown expandAll node

/-- A grouped graph, whose root has its own id. -/
structure GroupedTree where
  graph : GraphNode
  root : graph.id = "root"
  group : graph.nodes ≠ none
  distinct : Distinct graph

/-- What the selection of a node is to do. The root itself has all of its leaves only
where no other group is shown. -/
structure Selects (graph node : GraphNode) (expandAll : Bool) : Prop where
  strict : ∀ group, findGroupContaining node.id graph true = some group ↔ Parent graph group node
  group : node.nodes ≠ none → findGroupContaining node.id graph false = some node
  leaf : node.nodes = none → ∀ group, findGroupContaining node.id graph false = some group ↔ Parent graph group node
  contains : node.id ∈ (forEachNode (collapseGraph graph (some node.id) expandAll)).map GraphNode.id
  expanded : ∀ group ∈ forEachNode (collapseGraph graph (some node.id) expandAll), group.nodes ≠ none →
    node.id ∈ (forEachNode group).map GraphNode.id → group.data.collapsed = some false
  leaves : ∀ group ∈ forEachNode (collapseGraph graph (some node.id) expandAll), group.nodes ≠ none →
    (∀ shown ∈ selectedGroup graph (some node.id), group.id = "root" → shown.id = "root") →
    ∃ original ∈ forEachNode graph, original.id = group.id ∧ leafIds group = leafIds original

namespace GroupedTree
variable (tree : GroupedTree) {node : GraphNode}

theorem selected (inside : node ∈ forEachNode tree.graph) (named : node.id ≠ "") :
    ∃ group, selectedGroup tree.graph (some node.id) = some group ∧ group ∈ forEachNode tree.graph ∧ node ∈ forEachNode group ∧
      ∀ other ∈ forEachNode group, other.nodes ≠ none → node ∈ forEachNode other → other = group := by
  have find : selectedGroup tree.graph (some node.id) = findGroupContaining node.id tree.graph false := if_neg named
  by_cases leaf : node.nodes = none
  · have other : node ≠ tree.graph := fun same => tree.group (same ▸ leaf)
    obtain ⟨group, parent⟩ := exists_parent inside other
    refine ⟨group, find.trans (find_leaf tree.distinct parent leaf), parent.1, child_mem parent.2, ?_⟩
    intro another below isGroup holds
    have apart : node ≠ another := fun same => isGroup (same ▸ leaf)
    exact forEachNode_antisymm below (tree.distinct.parent_below parent (forEachNode_trans below parent.1) holds apart)
  · refine ⟨node, find.trans (find_group tree.distinct inside leaf), inside, self_mem node, ?_⟩
    exact fun other below _ holds => forEachNode_antisymm below holds

theorem eq_root {group : GraphNode} (inside : group ∈ forEachNode tree.graph) (isRoot : group.id = "root") : group = tree.graph :=
  tree.distinct.eq_of_id inside (self_mem tree.graph) (isRoot.trans tree.root.symm)

theorem shown {group other : GraphNode} (inside : group ∈ forEachNode tree.graph) (there : other ∈ forEachNode (shownRoot tree.graph (some group))) :
    other ∈ forEachNode group ∨ other.id = "root" ∧ group.id ≠ "root" := by
  simp only [shownRoot] at there
  split at there
  next isRoot =>
    rw [tree.eq_root inside isRoot]
    exact .inl there
  next isOther =>
    rcases mem_forEachNode.mp there with rfl | ⟨child, member, below⟩
    · exact .inr ⟨tree.root, isOther⟩
    · rw [List.mem_singleton.mp member] at below
      exact .inl below

theorem shown_selected {group : GraphNode} (inside : group ∈ forEachNode tree.graph) : group ∈ forEachNode (shownRoot tree.graph (some group)) := by
  simp only [shownRoot]
  split
  · exact inside
  · exact child_mem (List.mem_singleton_self group)

end GroupedTree

/-- The node is no group below the children of the root and, where its id is empty, is
not in a big group that is collapsed. -/
def InReach (graph node : GraphNode) (expandAll : Bool) : Prop :=
  (node.nodes = none ∨ node = graph ∨ node ∈ graph.children) ∧
    (node.id ≠ "" ∨ expandAll = true ∨
      ∀ group ∈ forEachNode graph, group.nodes ≠ none → node ∈ forEachNode group → group = graph ∨ isBig group = false)

namespace GroupedTree
variable (tree : GroupedTree) {node : GraphNode} {expandAll : Bool}

theorem no_own_parent (inside : node ∈ forEachNode tree.graph) : ¬Parent tree.graph node node :=
  fun parent => (tree.distinct.below inside).root_no_child ⟨self_mem node, parent.2⟩

theorem strict_iff (inside : node ∈ forEachNode tree.graph) :
    (∀ group, findGroupContaining node.id tree.graph true = some group ↔ Parent tree.graph group node) ↔
      node.nodes = none ∨ node = tree.graph ∨ node ∈ tree.graph.children := by
  have unique : ∀ {owner}, Parent tree.graph owner node → ∀ group, some owner = some group ↔ Parent tree.graph group node := by
    intro owner parent group
    refine ⟨fun same => Option.some.inj same ▸ parent, fun other => congrArg some (tree.distinct.parent_unique parent other)⟩
  by_cases isRoot : node = tree.graph
  · subst isRoot
    refine ⟨fun _ => .inr (.inl rfl), fun _ group => ?_⟩
    rw [strict_root tree.distinct]
    exact ⟨nofun, fun parent => absurd parent tree.distinct.root_no_child⟩
  by_cases member : node ∈ tree.graph.children
  · refine ⟨fun _ => .inr (.inr member), fun _ => ?_⟩
    rw [strict_child member]
    exact unique ⟨self_mem _, member⟩
  · rw [strict_deeper tree.distinct inside isRoot member]
    by_cases leaf : node.nodes = none
    · refine ⟨fun _ => .inl leaf, fun _ => ?_⟩
      obtain ⟨owner, parent⟩ := exists_parent inside isRoot
      rw [find_leaf tree.distinct parent leaf]
      exact unique parent
    · rw [find_group tree.distinct inside leaf]
      refine ⟨fun right => absurd ((right node).mp rfl) (tree.no_own_parent inside), ?_⟩
      exact fun reach => absurd reach (by simp [leaf, isRoot, member])

theorem group_right (inside : node ∈ forEachNode tree.graph) (isGroup : node.nodes ≠ none) :
    findGroupContaining node.id tree.graph false = some node := find_group tree.distinct inside isGroup

theorem leaf_right (inside : node ∈ forEachNode tree.graph) (leaf : node.nodes = none) (group : GraphNode) :
    findGroupContaining node.id tree.graph false = some group ↔ Parent tree.graph group node := by
  obtain ⟨owner, parent⟩ := exists_parent inside fun same => tree.group (same ▸ leaf)
  rw [find_leaf tree.distinct parent leaf]
  exact ⟨fun same => Option.some.inj same ▸ parent, fun other => congrArg some (tree.distinct.parent_unique parent other)⟩

theorem empty_selects (unnamed : node.id = "") (expandAll : Bool) :
    collapseGraph tree.graph (some node.id) expandAll = collapseGroup none expandAll tree.graph := by
  have none' : selectedGroup tree.graph (some node.id) = none := if_pos unnamed
  unfold collapseGraph
  rw [none']
  rfl

theorem contains (inside : node ∈ forEachNode tree.graph) (expandAll : Bool) :
    node.id ∈ (forEachNode (collapseGraph tree.graph (some node.id) expandAll)).map GraphNode.id := by
  by_cases named : node.id = ""
  · rw [tree.empty_selects named, collapse_ids]
    exact List.mem_map_of_mem inside
  · obtain ⟨group, selected, there, holds, _⟩ := tree.selected inside named
    unfold collapseGraph
    rw [selected, collapse_ids]
    exact List.mem_map_of_mem (forEachNode_trans holds (tree.shown_selected there))

theorem of_collapsed {graph other : GraphNode} {shown : Option GraphNode} (member : other ∈ forEachNode (collapseGroup shown expandAll graph)) :
    ∃ original ∈ forEachNode graph, collapseGroup shown expandAll original = other := by
  rw [collapse_all] at member
  exact List.mem_map.mp member

theorem collapse_isGroup {shown : Option GraphNode} {graph : GraphNode} : (collapseGroup shown expandAll graph).nodes ≠ none ↔ graph.nodes ≠ none := by
  rw [collapse_nodes]
  cases graph.nodes <;> simp

theorem expanded_iff (inside : node ∈ forEachNode tree.graph) :
    (∀ group ∈ forEachNode (collapseGraph tree.graph (some node.id) expandAll), group.nodes ≠ none →
      node.id ∈ (forEachNode group).map GraphNode.id → group.data.collapsed = some false) ↔
      node.id ≠ "" ∨ expandAll = true ∨
        ∀ group ∈ forEachNode tree.graph, group.nodes ≠ none → node ∈ forEachNode group → group = tree.graph ∨ isBig group = false := by
  by_cases named : node.id = ""
  · rw [tree.empty_selects named]
    constructor
    · intro expanded
      by_cases all : expandAll = true
      · exact .inr (.inl all)
      · refine .inr (.inr fun group there isGroup holds => ?_)
        have member : collapseGroup none expandAll group ∈ forEachNode (collapseGroup none expandAll tree.graph) := by
          rw [collapse_all]
          exact List.mem_map_of_mem there
        have open' := expanded _ member (collapse_isGroup.mpr isGroup) (by rw [collapse_ids]; exact List.mem_map_of_mem holds)
        rw [collapse_collapsed, Option.some.injEq] at open'
        by_cases isRoot : group.id = "root"
        · exact .inl (tree.eq_root there isRoot)
        · exact .inr (by simpa [collapsed, all, isRoot] using open')
    · rintro reach group member isGroup holds
      obtain ⟨original, there, rfl⟩ := of_collapsed member
      rw [collapse_ids] at holds
      obtain ⟨found, below, sameId⟩ := List.mem_map.mp holds
      rw [tree.distinct.eq_of_id (forEachNode_trans below there) inside sameId] at below
      rw [collapse_collapsed]
      rcases reach with other | all | small
      · exact absurd named other
      · simp [collapsed, all]
      · rcases small original there (collapse_isGroup.mp isGroup) below with rfl | notBig
        · simp [collapsed, tree.root]
        · simp [collapsed, notBig]
  · refine ⟨fun _ => .inl named, fun _ group member isGroup holds => ?_⟩
    obtain ⟨chosen, selected, there, _, only⟩ := tree.selected inside named
    unfold collapseGraph at member
    rw [selected] at member
    obtain ⟨original, shown, rfl⟩ := of_collapsed member
    rw [collapse_collapsed]
    rcases tree.shown there shown with below | ⟨isRoot, _⟩
    · rw [collapse_ids] at holds
      obtain ⟨found, inner, sameId⟩ := List.mem_map.mp holds
      rw [tree.distinct.eq_of_id (forEachNode_trans inner (forEachNode_trans below there)) inside sameId] at inner
      rw [only original below (collapse_isGroup.mp isGroup) inner]
      simp [collapsed]
    · simp [collapsed, isRoot]

theorem leaves (inside : node ∈ forEachNode tree.graph) (expandAll : Bool) :
    ∀ group ∈ forEachNode (collapseGraph tree.graph (some node.id) expandAll), group.nodes ≠ none →
      (∀ shown ∈ selectedGroup tree.graph (some node.id), group.id = "root" → shown.id = "root") →
      ∃ original ∈ forEachNode tree.graph, original.id = group.id ∧ leafIds group = leafIds original := by
  intro group member _ whole
  suffices ∃ original ∈ forEachNode tree.graph, ∃ shown, group = collapseGroup shown expandAll original by
    obtain ⟨original, there, shown, rfl⟩ := this
    exact ⟨original, there, (collapse_id _ _ _).symm, collapse_leafIds _ _ _⟩
  by_cases named : node.id = ""
  · rw [tree.empty_selects named] at member
    obtain ⟨original, there, rfl⟩ := of_collapsed member
    exact ⟨original, there, none, rfl⟩
  · obtain ⟨chosen, selected, there, _⟩ := tree.selected inside named
    unfold collapseGraph at member
    rw [selected] at member whole
    obtain ⟨original, shown, rfl⟩ := of_collapsed member
    rcases tree.shown there shown with below | ⟨isRoot, isOther⟩
    · exact ⟨original, forEachNode_trans below there, some chosen, rfl⟩
    · exact absurd (whole chosen rfl ((collapse_id _ _ _).trans isRoot)) isOther

/-- A selection does what it is to do where the node is in reach, and there alone. -/
theorem selects_iff_inReach (tree : GroupedTree) (node : { node // node ∈ forEachNode tree.graph }) (expandAll : Bool) :
    Selects tree.graph node expandAll ↔ InReach tree.graph node expandAll := by
  constructor
  · intro selects
    exact ⟨(tree.strict_iff node.2).mp selects.strict, (tree.expanded_iff node.2).mp selects.expanded⟩
  · intro ⟨direct, small⟩
    exact {
      strict := (tree.strict_iff node.2).mpr direct
      group := tree.group_right node.2
      leaf := tree.leaf_right node.2
      contains := tree.contains node.2 expandAll
      expanded := (tree.expanded_iff node.2).mpr small
      leaves := tree.leaves node.2 expandAll }

/-- A connected component inside the group of its namespace. -/
def nested : GroupedTree :=
  let plain id nodes : GraphNode := .node {
    id := id
    label := none
    subtitle := none
    status := none
    kubeObject := none
    weight := none
    collapsed := none } nodes none
  { graph := plain "root" (some [plain "Namespace-default" (some [plain "group-web" (some [plain "web" none, plain "web-1" none])])])
    root := rfl
    group := nofun
    distinct := by unfold Distinct; decide +kernel }

/-- The component is found as its own parent. -/
theorem nested_own_parent : ¬∀ (tree : GroupedTree) (node : { node // node ∈ forEachNode tree.graph }) (expandAll : Bool),
    Selects tree.graph node expandAll := by
  intro selects
  have inside : ∃ node, node ∈ forEachNode nested.graph ∧ node.nodes ≠ none ∧ node ≠ nested.graph ∧ node ∉ nested.graph.children := by
    refine ⟨_, .tail _ (.tail _ (.head _)), nofun, fun same => ?_, fun member => ?_⟩
    · exact absurd (congrArg GraphNode.id same) (by decide +kernel)
    · exact absurd (congrArg GraphNode.id (List.mem_singleton.mp member)) (by decide +kernel)
  obtain ⟨node, there, isGroup, isOther, deeper⟩ := inside
  have own := strict_deeper nested.distinct there isOther deeper
  rw [find_group nested.distinct there isGroup] at own
  exact nested.no_own_parent there (((selects nested ⟨node, there⟩ false).strict node).mp own)

end GroupedTree

end K8Sense.ResourceMap.Selection
