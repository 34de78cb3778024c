import K8Sense.Cache.Middleware

/-! Invalidation by the watchers. The keys to evict are rebuilt from the object
that an event is about, and have to be those that the paths of requests were
given. -/

namespace K8Sense.Cache
open Text

universe u
variable {α : Type u}

structure GroupVersionResource where
  group : String
  version : String
  resource : String
  deriving DecidableEq

structure APIResource where
  name : String
  kind : String
  verbs : List String

structure APIResourceList where
  groupVersion : String
  apiResources : List APIResource

def skipKinds : List String := ["Lease", "Event"]

def importantResources : List String :=
  ["pods", "services", "deployments", "replicasets", "statefulsets", "daemonsets", "nodes", "configmaps", "secrets", "jobs",
    "cronjobs"]

def filterImportantResources (gvrList : List GroupVersionResource) : List GroupVersionResource :=
  gvrList.filter (·.resource ∈ importantResources)

/-- The resources that are watched. -/
def returnGVRList (parseGroupVersion : String → Except String (String × String)) (apiResourceLists : List APIResourceList) :
    List GroupVersionResource :=
  filterImportantResources <| apiResourceLists.flatMap fun apiResource =>
    apiResource.apiResources.flatMap fun resource =>
      if contains resource.name.toList "/".toList || resource.kind ∈ skipKinds then []
      else if "list" ∈ resource.verbs && "watch" ∈ resource.verbs then
        match parseGroupVersion apiResource.groupVersion with
        | .error _ => []
        | .ok gv => [⟨gv.1, gv.2, resource.name⟩]
      else []

/-- What the handler reads of an object. -/
structure Unstructured where
  «namespace» : String
  name : String
  deriving DecidableEq

/-- What an informer hands to the handler. -/
inductive Notified where
  | unstructured (object : Unstructured)
  /-- A tombstone, for a deletion that the watch missed, and the object in it if it has one. -/
  | deletedFinalStateUnknown (object : Option Unstructured)
  | unexpected
  deriving DecidableEq

def Notified.object : Notified → Option Unstructured
  | .unstructured object => some object
  | .deletedFinalStateUnknown object => object
  | .unexpected => none

def invalidateCacheKeysForResourceEvent (gvr : GroupVersionResource) («namespace» name contextKey : String)
    (k8scache : Store α) : Store α :=
  let listKey := buildCacheKey gvr.group gvr.resource «namespace» contextKey
  let k8scache := deleteKeys listKey k8scache
  if name = "" then k8scache
  else k8scache.delete (buildCacheKey gvr.group name «namespace» contextKey)

def handleKeyGenerationAndDeletion (obj : Notified) (gvr : GroupVersionResource) (contextKey : String) (hasSynced : Bool)
    (k8scache : Store α) : Store α :=
  match obj.object with
  | none => k8scache
  | some unstructuredObj =>
    if !hasSynced then k8scache
    else invalidateCacheKeysForResourceEvent gvr unstructuredObj.namespace unstructuredObj.name contextKey k8scache

def Label (text : String) : Prop := '/' ∉ text.toList ∧ '?' ∉ text.toList

/-- An object of the API under one of the versions that its group has. An object
without a namespace is one of the whole cluster. -/
structure Served where
  group : String
  version : String
  resource : String
  «namespace» : String
  name : String
  labels : ∀ part ∈ [group, version, resource, «namespace», name], Label part
  present : ∀ part ∈ [version, resource, name], part ≠ ""

inductive Holding where
  | object
  | namespaceList
  | allNamespacesList
  deriving DecidableEq

namespace Served
variable (served : Served)

def root : String := if served.group = "" then apiPathSegment else apisPathSegment

/-- Group and version in a path. -/
def lead : List String := if served.group = "" then [served.version] else [served.group, served.version]

def scope : List String := if served.namespace = "" then [] else [namespacePathSegment, served.namespace]

def rest : Holding → List String
  | .object => served.scope ++ [served.resource, served.name]
  | .namespaceList => served.scope ++ [served.resource]
  | .allNamespacesList => [served.resource]

def path (holding : Holding) : String :=
  join '/' (served.root :: (served.lead ++ served.rest holding))

end Served

/-- The request is for a response that holds the object. -/
def Request.Asks (request : Request) (served : Served) (holding : Holding) : Prop :=
  ∃ slashes, request.api = served.path holding ++ String.ofList (List.replicate slashes '/')

/-- The segment behind the first of cluster name, group and version that is `namespaces`. -/
def misread (clusterName : String) (served : Served) (holding : Holding) : Option String :=
  if clusterName = namespacePathSegment then some served.root
  else if served.group = namespacePathSegment then some served.version
  else if served.version = namespacePathSegment then (served.rest holding).head?
  else none

/-- The path of the request does not hide the namespace of the object. -/
def Request.Legible (request : Request) (served : Served) (holding : Holding) : Prop :=
  '?' ∉ request.clusterName.toList ∧
    ∀ segment, misread request.clusterName served holding = some segment → segment = served.namespace

/-- An event evicts what is cached for the request, and nothing of another context. -/
structure Exact (obj : Notified) (gvr : GroupVersionResource) (hasSynced : Bool) (request : Request) : Prop where
  evicted : ∀ key, generateKey request.path request.context = .ok key → ∀ (k8scache : Store String) value,
    ¬(handleKeyGenerationAndDeletion obj gvr request.context hasSynced k8scache).Holds key value
  untouched : ∀ path contextID key, contextID ≠ request.context → generateKey path contextID = .ok key →
    ∀ (k8scache : Store String) value,
      (handleKeyGenerationAndDeletion obj gvr request.context hasSynced k8scache).Holds key value ↔ k8scache.Holds key value

theorem resource_of_watched {parse : String → Except String (String × String)} {lists : List APIResourceList}
    {gvr : GroupVersionResource} (watched : gvr ∈ returnGVRList parse lists) : gvr.resource ∈ importantResources := by
  unfold returnGVRList filterImportantResources at watched
  simpa using (List.mem_filter.mp watched).2

section Path
variable {served : Served} {holding : Holding} {request : Request}

theorem label_root : Label served.root := by
  unfold Served.root
  split
  · exact ⟨by decide, by decide⟩
  · exact ⟨by decide, by decide⟩

theorem mem_rest {part : String} (member : part ∈ served.rest holding) :
    part = namespacePathSegment ∨ part = served.namespace ∧ part ≠ "" ∨ part = served.resource ∨ part = served.name := by
  have scope : ∀ part ∈ served.scope, part = namespacePathSegment ∨ part = served.namespace ∧ part ≠ "" := by
    intro part member
    unfold Served.scope at member
    split at member
    · simp at member
    · next inside =>
      rcases List.mem_pair.mp member with rfl | rfl
      · exact Or.inl rfl
      · exact Or.inr ⟨rfl, inside⟩
  cases holding with
  | object =>
    rcases List.mem_append.mp member with around | own
    · exact (scope part around).imp_right Or.inl
    · exact Or.inr (Or.inr (List.mem_pair.mp own))
  | namespaceList =>
    rcases List.mem_append.mp member with around | own
    · exact (scope part around).imp_right Or.inl
    · exact Or.inr (Or.inr (Or.inl (List.mem_singleton.mp own)))
  | allNamespacesList => exact Or.inr (Or.inr (Or.inl (List.mem_singleton.mp member)))

theorem label_of_mem {part : String} (member : part ∈ served.root :: (served.lead ++ served.rest holding)) : Label part := by
  have labels := served.labels
  simp only [List.forall_mem_cons, List.not_mem_nil, false_implies, implies_true, and_true] at labels
  obtain ⟨group, version, resource, ns, name⟩ := labels
  rcases List.mem_cons.mp member with rfl | member
  · exact label_root
  rcases List.mem_append.mp member with ahead | behind
  · unfold Served.lead at ahead
    split at ahead
    · obtain rfl := List.mem_singleton.mp ahead
      exact version
    · rcases List.mem_pair.mp ahead with rfl | rfl
      · exact group
      · exact version
  · rcases mem_rest behind with rfl | ⟨rfl, _⟩ | rfl | rfl
    · exact ⟨by decide, by decide⟩
    · exact ns
    · exact resource
    · exact name

/-- The last segment, which a key has for the kind. -/
def Served.kind (served : Served) : Holding → String
  | .object => served.name
  | .namespaceList | .allNamespacesList => served.resource

theorem kind_present : served.kind holding ≠ "" := by
  have present := served.present
  cases holding <;> exact present _ (by simp [Served.kind])

/-- The path of a request for the object, cut at its slashes. -/
def parts (request : Request) (served : Served) (holding : Holding) : List String :=
  "" :: "clusters" :: request.clusterName :: served.root :: (served.lead ++ served.rest holding)

theorem getLast?_parts : (parts request served holding).getLast? = some (served.kind holding) := by
  unfold parts
  cases holding <;> simp [Served.rest, Served.kind, List.getLast?_cons, List.getLast?_append]

theorem path_of_asks (asks : request.Asks served holding) :
    ∃ slashes, request.path = join '/' (parts request served holding) ++ String.ofList (List.replicate slashes '/') := by
  obtain ⟨slashes, api⟩ := asks
  refine ⟨slashes, ?_⟩
  apply String.toList_injective
  unfold Request.path parts
  simp only [api, String.toList_append]
  rw [join_cons (by simp), join_cons (by simp), join_cons (by simp)]
  simp [Served.path]

theorem segments_of_asks (asks : request.Asks served holding) : segments request.path = parts request served holding := by
  obtain ⟨slashes, path⟩ := path_of_asks asks
  have last : (join '/' (parts request served holding)).toList.getLast? = (served.kind holding).toList.getLast? :=
    getLast?_join getLast?_parts kind_present
  have member : served.kind holding ∈ served.root :: (served.lead ++ served.rest holding) := by
    apply List.mem_cons_of_mem
    apply List.mem_append_right
    cases holding <;> simp [Served.kind, Served.rest]
  unfold segments
  rw [path, trimRight_padded, split_join]
  · simp [parts]
  · intro part member
    unfold parts at member
    simp only [List.mem_cons] at member
    rcases member with rfl | rfl | rfl | member
    · decide
    · decide
    · exact request.routed.2
    · have labelled : part ∈ served.root :: (served.lead ++ served.rest holding) := List.mem_cons.mpr member
      exact (label_of_mem labelled).1
  · intro char found
    rw [last] at found
    rintro rfl
    exact (label_of_mem member).1 (List.mem_of_getLast? found)

theorem question_free (asks : request.Asks served holding) (plain : '?' ∉ request.clusterName.toList) :
    '?' ∉ request.path.toList := by
  obtain ⟨slashes, path⟩ := path_of_asks asks
  rw [path, String.toList_append, String.toList_ofList, List.mem_append, not_or]
  constructor
  · intro member
    rcases mem_join member with slash | ⟨part, found, inside⟩
    · exact absurd slash (by decide)
    · unfold parts at found
      simp only [List.mem_cons] at found
      rcases found with rfl | rfl | rfl | found
      · simp at inside
      · exact absurd inside (by decide)
      · exact plain inside
      · have labelled : part ∈ served.root :: (served.lead ++ served.rest holding) := List.mem_cons.mpr found
        exact (label_of_mem labelled).2 inside
  · intro member
    exact absurd (List.eq_of_mem_replicate member) (by decide)

theorem index_parts : kubernetesAPIPathIndex (parts request served holding) = some 3 := by
  unfold kubernetesAPIPathIndex parts Served.root
  by_cases core : served.group = "" <;> simp [core, apiPathSegment, apisPathSegment]

theorem group_of_asks (asks : request.Asks served holding) : getAPIGroup request.path = .ok (served.group, served.version) := by
  unfold getAPIGroup
  simp only [segments_of_asks asks, index_parts]
  unfold parts Served.root Served.lead
  by_cases core : served.group = "" <;> simp [core, apiPathSegment, apisPathSegment]

theorem namespaceSegment_skip {segment : String} {rest : List String} (other : segment ≠ namespacePathSegment) :
    namespaceSegment (segment :: rest) = namespaceSegment rest := by
  cases rest with
  | nil => rfl
  | cons following rest => rw [namespaceSegment, if_neg other]

theorem namespaceSegment_here {following : String} {rest : List String} :
    namespaceSegment (namespacePathSegment :: following :: rest) = following := by
  rw [namespaceSegment, if_pos rfl]

theorem namespaceSegment_rest (other : served.resource ≠ namespacePathSegment) :
    namespaceSegment (served.rest holding) = if holding = .allNamespacesList then "" else served.namespace := by
  have single : ∀ text, namespaceSegment [text] = "" := fun _ => rfl
  cases holding with
  | allNamespacesList => rfl
  | namespaceList =>
    unfold Served.rest Served.scope
    by_cases clusterScoped : served.namespace = ""
    · simp [clusterScoped, single]
    · simp [clusterScoped, namespaceSegment_here]
  | object =>
    unfold Served.rest Served.scope
    by_cases clusterScoped : served.namespace = ""
    · simp [clusterScoped, namespaceSegment_skip other, single]
    · simp [clusterScoped, namespaceSegment_here]

theorem namespaceSegment_parts (other : served.resource ≠ namespacePathSegment) :
    namespaceSegment (parts request served holding) = (misread request.clusterName served holding).getD
      (if holding = .allNamespacesList then "" else served.namespace) := by
  have rootOther : served.root ≠ namespacePathSegment := by
    unfold Served.root
    split <;> decide
  have ahead : namespaceSegment (served.version :: served.rest holding) =
      (if served.version = namespacePathSegment then (served.rest holding).head? else none).getD
        (if holding = .allNamespacesList then "" else served.namespace) := by
    by_cases version : served.version = namespacePathSegment
    · obtain ⟨head, rest, shape⟩ := List.exists_cons_of_ne_nil
        (show served.rest holding ≠ [] by cases holding <;> simp [Served.rest])
      rw [version, if_pos rfl, shape, namespaceSegment_here]
      rfl
    · rw [namespaceSegment_skip version, if_neg version, namespaceSegment_rest other]
      rfl
  unfold parts misread
  rw [namespaceSegment_skip (by decide), namespaceSegment_skip (by decide)]
  by_cases cluster : request.clusterName = namespacePathSegment
  · rw [cluster, namespaceSegment_here, if_pos rfl]
    rfl
  rw [namespaceSegment_skip cluster, namespaceSegment_skip rootOther, if_neg cluster]
  unfold Served.lead
  by_cases core : served.group = ""
  · have group : served.group ≠ namespacePathSegment := by rw [core]; decide
    rw [if_pos core, if_neg group]
    exact ahead
  · rw [if_neg core]
    by_cases group : served.group = namespacePathSegment
    · rw [group, if_pos rfl]
      exact namespaceSegment_here
    · rw [if_neg group]
      exact (namespaceSegment_skip group).trans ahead

theorem keyParts_plain (asks : request.Asks served holding) (plain : '?' ∉ request.clusterName.toList) :
    keyParts request.path =
      some (served.group, served.kind holding, namespaceSegment (parts request served holding)) := by
  have whole : String.ofList (request.path.toList.takeWhile (· ≠ '?')) = request.path := by
    apply String.toList_injective
    rw [String.toList_ofList, List.takeWhile_eq_self_iff]
    intro char member
    have other : char ≠ '?' := by
      rintro rfl
      exact question_free asks plain member
    simpa using other
  have last : (parts request served holding).getLast? = some (served.kind holding) := getLast?_parts
  have long : (parts request served holding).length > 2 := by
    unfold parts
    simp only [List.length_cons]
    omega
  unfold keyParts extractNamespace
  simp only [group_of_asks asks, whole, segments_of_asks asks, index_parts, long, if_true]
  simp [List.getLastD_eq_getLast?, last]

theorem index_cut {before : List Char} (free : '/' ∉ before) :
    kubernetesAPIPathIndex (segments (String.ofList ("/clusters/".toList ++ before))) = none := by
  by_cases blank : before = []
  · subst blank
    decide
  have shape : String.ofList ("/clusters/".toList ++ before) = join '/' ["", "clusters", String.ofList before] := by
    apply String.toList_injective
    rw [join_cons (by simp), join_cons (by simp)]
    simp
  have whole : trimRight '/' (String.ofList ("/clusters/".toList ++ before)) = String.ofList ("/clusters/".toList ++ before) := by
    have ends : ∀ char ∈ (String.ofList ("/clusters/".toList ++ before)).toList.getLast?, char ≠ '/' := by
      intro char last
      rw [String.toList_ofList, List.getLast?_append_of_ne_nil _ blank] at last
      rintro rfl
      exact free (List.mem_of_getLast? last)
    simpa using trimRight_padded 0 ends
  have cut : segments (String.ofList ("/clusters/".toList ++ before)) = ["", "clusters", String.ofList before] := by
    unfold segments
    rw [whole, shape, split_join (by simp)]
    intro part member
    simp only [List.mem_cons, List.not_mem_nil, or_false] at member
    rcases member with rfl | rfl | rfl
    · decide
    · decide
    · simpa using free
  rw [cut]
  simp [kubernetesAPIPathIndex, apiPathSegment, apisPathSegment]

theorem keyParts_cut (asks : request.Asks served holding) (cut : '?' ∈ request.clusterName.toList) :
    keyParts request.path = some (served.group, "", "") := by
  obtain ⟨before, after, shape, first⟩ := List.eq_append_cons_of_mem cut
  have read : request.path.toList.takeWhile (· ≠ '?') = "/clusters/".toList ++ before := by
    have opened : request.path.toList =
        ("/clusters/".toList ++ before) ++ '?' :: (after ++ ("/".toList ++ request.api.toList)) := by
      simp [Request.path, shape]
    rw [opened, List.takeWhile_append_of_pos]
    · simp
    · intro char member
      have other : char ≠ '?' := by
        rintro rfl
        rcases List.mem_append.mp member with fixed | named
        · exact absurd fixed (by decide)
        · exact first named
      simpa using other
  have free : '/' ∉ before := by
    intro member
    apply request.routed.2
    rw [shape]
    exact List.mem_append_left _ member
  unfold keyParts extractNamespace
  simp only [group_of_asks asks, read, index_cut free]

theorem rest_present {part : String} (member : part ∈ served.rest holding) : part ≠ "" := by
  rcases mem_rest member with rfl | ⟨_, inside⟩ | rfl | rfl
  · decide
  · exact inside
  · exact served.present _ (by simp)
  · exact served.present _ (by simp)

theorem misread_present {segment : String} (found : misread request.clusterName served holding = some segment) : segment ≠ "" := by
  unfold misread at found
  split at found
  · cases found
    unfold Served.root
    split <;> decide
  split at found
  · cases found
    exact served.present _ (by simp)
  split at found
  · exact rest_present (List.mem_of_head? found)
  · cases found

end Path

section Eviction
variable {obj : Notified} {gvr : GroupVersionResource} {object : Unstructured} {contextKey : String}

/-- The keys that an event about the object removes. -/
def evictedKeys (gvr : GroupVersionResource) (object : Unstructured) (contextKey : String) : List String :=
  [buildCacheKey gvr.group gvr.resource object.namespace contextKey, buildCacheKey gvr.group gvr.resource "" contextKey,
    buildCacheKey gvr.group object.name object.namespace contextKey]

theorem mem_evictedKeys {group kind ns context : String} :
    buildCacheKey group kind ns context ∈ evictedKeys gvr object contextKey ↔
      group = gvr.group ∧ context = contextKey ∧
        (kind = gvr.resource ∧ (ns = object.namespace ∨ ns = "") ∨ kind = object.name ∧ ns = object.namespace) := by
  have same : ∀ {group' kind' ns' context' : String},
      buildCacheKey group kind ns context = buildCacheKey group' kind' ns' context' ↔
        group = group' ∧ kind = kind' ∧ ns = ns' ∧ context = context' := by
    intro group' kind' ns' context'
    constructor
    · exact buildCacheKey_injective
    · rintro ⟨rfl, rfl, rfl, rfl⟩
      rfl
  simp only [evictedKeys, List.mem_cons, List.not_mem_nil, or_false, same]
  tauto

theorem handle_unsynced (k8scache : Store α) : handleKeyGenerationAndDeletion obj gvr contextKey false k8scache = k8scache := by
  unfold handleKeyGenerationAndDeletion
  cases obj.object <;> rfl

theorem holds_handle {key : String} {value : α} {k8scache : Store α} (carried : obj.object = some object)
    (named : object.name ≠ "") : (handleKeyGenerationAndDeletion obj gvr contextKey true k8scache).Holds key value ↔
      key ∉ evictedKeys gvr object contextKey ∧ k8scache.Holds key value := by
  unfold handleKeyGenerationAndDeletion invalidateCacheKeysForResourceEvent
  simp only [carried, Bool.not_true, Bool.false_eq_true, if_false, named]
  rw [Store.holds_delete, holds_deleteKeys, purgedKeys, stripNamespace_buildCacheKey]
  unfold evictedKeys
  generalize buildCacheKey gvr.group object.name object.namespace contextKey = namedKey
  generalize buildCacheKey gvr.group gvr.resource object.namespace contextKey = listKey
  generalize buildCacheKey gvr.group gvr.resource "" contextKey = allKey
  simp only [Option.toList_some, List.mem_cons, List.not_mem_nil, or_false, not_or]
  tauto

theorem handle_untouched {path contextID key : String} {hasSynced : Bool} {value : α} {k8scache : Store α}
    (carried : obj.object = some object) (named : object.name ≠ "") (other : contextID ≠ contextKey)
    (keyed : generateKey path contextID = .ok key) :
    (handleKeyGenerationAndDeletion obj gvr contextKey hasSynced k8scache).Holds key value ↔ k8scache.Holds key value := by
  cases hasSynced with
  | false => rw [handle_unsynced]
  | true =>
    obtain ⟨parts, _, rfl⟩ := generateKey_ok.mp keyed
    rw [holds_handle carried named, mem_evictedKeys]
    constructor
    · exact And.right
    · intro held
      exact ⟨fun evicted => other evicted.2.1, held⟩

end Eviction

section Exactness
variable {served : Served} {holding : Holding} {request : Request} {obj : Notified} {watchedVersion : String}

/-- The key that a request is given is among the evicted ones exactly if its path
does not hide the namespace. -/
theorem evicted_iff {parse : String → Except String (String × String)} {lists : List APIResourceList}
    (watched : ⟨served.group, watchedVersion, served.resource⟩ ∈ returnGVRList parse lists)
    (asks : request.Asks served holding) {key : String} (keyed : generateKey request.path request.context = .ok key) :
    key ∈ evictedKeys ⟨served.group, watchedVersion, served.resource⟩ ⟨served.namespace, served.name⟩ request.context ↔
      request.Legible served holding := by
  have important := resource_of_watched watched
  have other : served.resource ≠ namespacePathSegment := by
    intro same
    change served.resource ∈ importantResources at important
    rw [same] at important
    exact absurd important (by decide)
  obtain ⟨shown, found, rfl⟩ := generateKey_ok.mp keyed
  rw [mem_evictedKeys]
  by_cases cut : '?' ∈ request.clusterName.toList
  · obtain rfl := Option.some.inj ((keyParts_cut asks cut).symm.trans found)
    have resource : served.resource ≠ "" := served.present _ (by simp)
    have name : served.name ≠ "" := served.present _ (by simp)
    constructor
    · rintro ⟨_, _, ⟨blank, _⟩ | ⟨blank, _⟩⟩
      · exact absurd blank.symm resource
      · exact absurd blank.symm name
    · intro legible
      exact absurd cut legible.1
  · obtain rfl := Option.some.inj ((keyParts_plain asks cut).symm.trans found)
    simp only [Request.Legible, cut, not_false_eq_true, true_and]
    rw [namespaceSegment_parts other]
    cases hidden : misread request.clusterName served holding with
    | none => cases holding <;> simp [Served.kind]
    | some segment =>
      have present := misread_present hidden
      constructor
      · rintro (⟨_, same | blank⟩ | ⟨_, same⟩) text ⟨⟩
        · exact same
        · exact absurd blank present
        · exact same
      · intro legible
        have same : segment = served.namespace := legible segment rfl
        cases holding with
        | object => exact Or.inr ⟨rfl, same⟩
        | namespaceList => exact Or.inl ⟨rfl, Or.inl same⟩
        | allNamespacesList => exact Or.inl ⟨rfl, Or.inl same⟩

/-- An event about a watched object evicts what is cached for the request exactly
if the informer has synced and the path does not hide the namespace. -/
theorem invalidation_iff {parse : String → Except String (String × String)} {lists : List APIResourceList} {hasSynced : Bool}
    (watched : ⟨served.group, watchedVersion, served.resource⟩ ∈ returnGVRList parse lists)
    (carried : obj.object = some ⟨served.namespace, served.name⟩) (asks : request.Asks served holding) :
    Exact obj ⟨served.group, watchedVersion, served.resource⟩ hasSynced request ↔
      hasSynced = true ∧ request.Legible served holding := by
  have named : served.name ≠ "" := served.present _ (by simp)
  have keyed : ∃ key, generateKey request.path request.context = .ok key := by
    apply generateKey_of_api
    rw [isKubernetesAPIPath, segments_of_asks asks, index_parts]
    rfl
  obtain ⟨key, keyed⟩ := keyed
  constructor
  · intro exact
    have gone := exact.evicted key keyed (Store.empty.set key "") ""
    have held : (Store.empty.set key "" : Store String).Holds key "" := Store.holds_setWithTTL.mpr (Or.inl ⟨rfl, rfl⟩)
    cases hasSynced with
    | false =>
      rw [handle_unsynced] at gone
      exact absurd held gone
    | true =>
      refine ⟨rfl, (evicted_iff watched asks keyed).mp ?_⟩
      by_contra kept
      exact gone ((holds_handle carried named).mpr ⟨kept, held⟩)
  · rintro ⟨rfl, legible⟩
    have evicted := (evicted_iff watched asks keyed).mpr legible
    refine ⟨?_, ?_⟩
    · intro other same k8scache value held
      obtain rfl := Except.ok.inj (keyed.symm.trans same)
      exact ((holds_handle carried named).mp held).1 evicted
    · intro path contextID other apart same k8scache value
      exact handle_untouched carried named apart same

end Exactness

def webPod : Served where
  group := ""
  version := "v1"
  resource := "pods"
  «namespace» := "default"
  name := "web"
  labels := by simp [Label]
  present := by simp

/-- The list of the pods in `default`. -/
def defaultPods (clusterName : String) (routed : clusterName ≠ "" ∧ '/' ∉ clusterName.toList) : Request where
  method := .get
  connection := ""
  context := clusterName
  clusterName := clusterName
  api := "api/v1/namespaces/default/pods"
  rawQuery := ""
  routed := routed

def coreResources : List APIResourceList := [⟨"v1", [⟨"pods", "Pod", ["get", "list", "watch"]⟩]⟩]

/-- A separator in the name of the cluster and of the context does no harm. -/
theorem plus_exact : Exact (.deletedFinalStateUnknown (some ⟨"default", "web"⟩)) ⟨"", "v1", "pods"⟩ true
    (defaultPods "a+api" (by decide)) := by
  have watched : ⟨"", "v1", "pods"⟩ ∈ returnGVRList (fun version => .ok ("", version)) coreResources := by decide
  have asks : (defaultPods "a+api" (by decide)).Asks webPod .namespaceList := ⟨0, by decide⟩
  have carried : (Notified.deletedFinalStateUnknown (some ⟨"default", "web"⟩)).object = some ⟨webPod.namespace, webPod.name⟩ := rfl
  have legible : (defaultPods "a+api" (by decide)).Legible webPod .namespaceList := by
    refine ⟨by decide, ?_⟩
    intro segment found
    cases found
  exact (invalidation_iff watched carried asks).mpr ⟨rfl, legible⟩

/-- On a cluster called `namespaces` every path seems to be of the namespace `api`. -/
theorem stale_list_kept :
    generateKey (defaultPods "namespaces" (by decide)).path "namespaces" = .ok "+pods+api+namespaces" ∧
      (handleKeyGenerationAndDeletion (.unstructured ⟨"default", "web"⟩) ⟨"", "v1", "pods"⟩ "namespaces" true
        (Store.empty.set "+pods+api+namespaces" "stale")).Holds "+pods+api+namespaces" "stale" := by
  have held : (Store.empty.set "+pods+api+namespaces" "stale" : Store String).Holds "+pods+api+namespaces" "stale" :=
    Store.holds_setWithTTL.mpr (Or.inl ⟨rfl, rfl⟩)
  refine ⟨by decide, (holds_handle rfl (by decide)).mpr ⟨by decide, held⟩⟩

end K8Sense.Cache
