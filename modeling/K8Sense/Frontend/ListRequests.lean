import Mathlib.Data.List.Basic

/-! Which namespaces of which clusters are listed, where a cluster's settings allow only
some namespaces and a view asks for some. -/

namespace K8Sense.Frontend.ListRequests

structure ListRequest where
  cluster : String
  namespaces : Option (List String)

def makeListRequests (clusters : List String) (getAllowedNamespaces : String → List String) (isResourceNamespaced : Bool)
    (requestedNamespaces : List String) : List ListRequest :=
  clusters.map fun cluster =>
    let allowedNamespaces := getAllowedNamespaces cluster
    let namespaces := if requestedNamespaces ≠ [] then requestedNamespaces else allowedNamespaces
    let namespaces := if allowedNamespaces ≠ [] then namespaces.filter (· ∈ allowedNamespaces) else namespaces
    ⟨cluster, if isResourceNamespaced then some namespaces else none⟩

/-- A list of all namespaces has no namespace in its URL, as one with an empty name has. -/
structure KubeObjectListQuery where
  cluster : String
  «namespace» : String
deriving DecidableEq

/-- The queries of `useKubeObjectList`, where an endpoint has been found. -/
def queries (requests : List ListRequest) : List KubeObjectListQuery :=
  requests.flatMap fun request =>
    match request.namespaces with
    | some (first :: rest) => (first :: rest).map fun name => ⟨request.cluster, name⟩
    | _ => [⟨request.cluster, ""⟩]

section
variable (getAllowedNamespaces : String → List String) (requestedNamespaces : List String)

/-- Neither list that is there leaves the namespace out. -/
def Passes (cluster name : String) : Prop :=
  (getAllowedNamespaces cluster ≠ [] → name ∈ getAllowedNamespaces cluster) ∧ (requestedNamespaces ≠ [] → name ∈ requestedNamespaces)

def Unrestricted (cluster : String) : Prop := getAllowedNamespaces cluster = [] ∧ requestedNamespaces = []

/-- The queries read what both restrictions leave, and all namespaces only without any. -/
structure Restricted (clusters : List String) (queries : List KubeObjectListQuery) : Prop where
  reads : ∀ query ∈ queries, query.namespace ≠ "" → Passes getAllowedNamespaces requestedNamespaces query.cluster query.namespace
  covers : ∀ cluster ∈ clusters, ∀ name, Passes getAllowedNamespaces requestedNamespaces cluster name →
    ∃ query ∈ queries, query.cluster = cluster ∧ (query.namespace = name ∨ query.namespace = "")
  all : ∀ query ∈ queries, query.namespace = "" → Unrestricted getAllowedNamespaces requestedNamespaces query.cluster

/-- Some requested namespace is allowed, where there are both, and the empty name does
not pass. -/
structure Meeting (cluster : String) : Prop where
  common : getAllowedNamespaces cluster ≠ [] → requestedNamespaces ≠ [] →
    ∃ name ∈ requestedNamespaces, name ∈ getAllowedNamespaces cluster
  named : Unrestricted getAllowedNamespaces requestedNamespaces cluster ∨ ¬Passes getAllowedNamespaces requestedNamespaces cluster ""

end

section
variable {getAllowedNamespaces : String → List String} {requestedNamespaces clusters : List String}

def namespacesOf (getAllowedNamespaces : String → List String) (requestedNamespaces : List String) (cluster : String) : List String :=
  let namespaces := if requestedNamespaces ≠ [] then requestedNamespaces else getAllowedNamespaces cluster
  if getAllowedNamespaces cluster ≠ [] then namespaces.filter (· ∈ getAllowedNamespaces cluster) else namespaces

theorem mem_namespacesOf {cluster name : String} : name ∈ namespacesOf getAllowedNamespaces requestedNamespaces cluster ↔
    ¬Unrestricted getAllowedNamespaces requestedNamespaces cluster ∧ Passes getAllowedNamespaces requestedNamespaces cluster name := by
  unfold namespacesOf Unrestricted Passes
  by_cases allowed : getAllowedNamespaces cluster = []
  · by_cases requested : requestedNamespaces = [] <;> simp [allowed, requested]
  · by_cases requested : requestedNamespaces = []
    · simp [allowed, requested]
    · simp [allowed, requested, and_comm]

theorem mem_queries {query : KubeObjectListQuery} :
    query ∈ queries (makeListRequests clusters getAllowedNamespaces true requestedNamespaces) ↔ query.cluster ∈ clusters ∧
      (query.namespace ∈ namespacesOf getAllowedNamespaces requestedNamespaces query.cluster ∨
        namespacesOf getAllowedNamespaces requestedNamespaces query.cluster = [] ∧ query.namespace = "") := by
  have requests : makeListRequests clusters getAllowedNamespaces true requestedNamespaces =
      clusters.map fun cluster => ⟨cluster, some (namespacesOf getAllowedNamespaces requestedNamespaces cluster)⟩ := rfl
  have one (cluster : String) (namespaces : List String) : query ∈ queries [⟨cluster, some namespaces⟩] ↔
      query.cluster = cluster ∧ (query.namespace ∈ namespaces ∨ namespaces = [] ∧ query.namespace = "") := by
    cases query
    cases namespaces with
    | nil => simp [queries]
    | cons first rest => simp [queries, eq_comm, and_comm, and_or_left]
  rw [requests]
  clear requests
  induction clusters with
  | nil => simp [queries]
  | cons cluster clusters ih =>
    rw [List.map_cons, queries, List.flatMap_cons, List.mem_append, ← queries]
    have first := one cluster (namespacesOf getAllowedNamespaces requestedNamespaces cluster)
    rw [queries, List.flatMap_singleton] at first
    rw [first, List.mem_cons, or_and_right]
    apply or_congr _ ih
    apply and_congr_right
    rintro rfl
    exact Iff.rfl

theorem namespacesOf_eq_nil_iff {cluster : String} (restricted : ¬Unrestricted getAllowedNamespaces requestedNamespaces cluster) :
    namespacesOf getAllowedNamespaces requestedNamespaces cluster = [] ↔ getAllowedNamespaces cluster ≠ [] ∧ requestedNamespaces ≠ [] ∧
      ∀ name ∈ requestedNamespaces, name ∉ getAllowedNamespaces cluster := by
  unfold namespacesOf
  unfold Unrestricted at restricted
  by_cases allowed : getAllowedNamespaces cluster = []
  · have requested : requestedNamespaces ≠ [] := fun requested => restricted ⟨allowed, requested⟩
    simp [allowed, requested]
  · by_cases requested : requestedNamespaces = []
    · simpa [allowed, requested] using List.exists_mem_of_ne_nil _ allowed
    · simp [allowed, requested]

/-- The namespaces that are listed are restricted as they should be exactly if no cluster's
allowed and requested namespaces are all different. -/
theorem restricted_iff : Restricted getAllowedNamespaces requestedNamespaces clusters
    (queries (makeListRequests clusters getAllowedNamespaces true requestedNamespaces)) ↔
      ∀ cluster ∈ clusters, Meeting getAllowedNamespaces requestedNamespaces cluster := by
  constructor
  · intro restricted cluster member
    have blank (listed : ⟨cluster, ""⟩ ∈ queries (makeListRequests clusters getAllowedNamespaces true requestedNamespaces)) :=
      restricted.all _ listed rfl
    by_cases free : Unrestricted getAllowedNamespaces requestedNamespaces cluster
    · exact ⟨fun allowed => absurd free.1 allowed, Or.inl free⟩
    · refine ⟨?_, Or.inr ?_⟩
      · intro allowed requested
        by_contra apart
        have none := (namespacesOf_eq_nil_iff free).mpr ⟨allowed, requested, fun name asked found => apart ⟨name, asked, found⟩⟩
        exact free (blank (mem_queries.mpr ⟨member, Or.inr ⟨none, rfl⟩⟩))
      · intro passes
        exact free (blank (mem_queries.mpr ⟨member, Or.inl (mem_namespacesOf.mpr ⟨free, passes⟩)⟩))
  · intro meeting
    refine ⟨?_, ?_, ?_⟩
    · intro query listed named
      obtain ⟨_, inside | ⟨_, blank⟩⟩ := mem_queries.mp listed
      · exact (mem_namespacesOf.mp inside).2
      · exact absurd blank named
    · intro cluster member name passes
      by_cases free : Unrestricted getAllowedNamespaces requestedNamespaces cluster
      · have none : namespacesOf getAllowedNamespaces requestedNamespaces cluster = [] := by
          apply List.eq_nil_iff_forall_not_mem.mpr
          exact fun other inside => (mem_namespacesOf.mp inside).1 free
        exact ⟨⟨cluster, ""⟩, mem_queries.mpr ⟨member, Or.inr ⟨none, rfl⟩⟩, rfl, Or.inr rfl⟩
      · exact ⟨⟨cluster, name⟩, mem_queries.mpr ⟨member, Or.inl (mem_namespacesOf.mpr ⟨free, passes⟩)⟩, rfl, Or.inl rfl⟩
    · intro query listed blank
      by_contra free
      obtain ⟨member, inside | ⟨none, _⟩⟩ := mem_queries.mp listed
      · rw [blank] at inside
        exact ((meeting _ member).named.resolve_left free) (mem_namespacesOf.mp inside).2
      · obtain ⟨allowed, requested, apart⟩ := (namespacesOf_eq_nil_iff free).mp none
        obtain ⟨name, asked, found⟩ := (meeting _ member).common allowed requested
        exact apart name asked found

/-- A view asks for a namespace that is not allowed, and is given all namespaces. -/
theorem disjoint_lists_all : ¬∀ (getAllowedNamespaces : String → List String) (requestedNamespaces clusters : List String),
    Restricted getAllowedNamespaces requestedNamespaces clusters
      (queries (makeListRequests clusters getAllowedNamespaces true requestedNamespaces)) := by
  intro restricted
  have free := (restricted (fun _ => ["team-a"]) ["team-b"] ["main"]).all ⟨"main", ""⟩ (by decide) rfl
  cases free.1

end

end K8Sense.Frontend.ListRequests
