import K8Sense.Library.Keyed
import K8Sense.Library.Text
import Mathlib.Data.List.Forall2

/-! Which resources of the clusters can be listed, as read from the aggregated discovery
documents or, where one of these fails, from those of the groups. -/

namespace K8Sense.Frontend.ApiDiscovery

structure ApiResource where
  apiVersion : String
  version : String
  groupName : Option String
  pluralName : String
  singularName : String
  kind : String
  isNamespaced : Bool
deriving DecidableEq

/-! The documents, with the fields that may be missing. -/

structure AggregatedResource where
  verbs : Option (List String)
  resource : Option String
  singularResource : Option String
  responseKind : Option (Option String)
  scope : Option String

structure AggregatedVersion where
  version : Option String
  resources : Option (List AggregatedResource)

structure AggregatedItem where
  name : Option String
  versions : Option (List AggregatedVersion)

structure LegacyResource where
  name : Option String
  singularName : Option String
  namespaced : Option Bool
  kind : Option String
  verbs : Option (List String)

structure LegacyGroup where
  name : Option String
  preferredVersion : Option String
  versions : Option (List (Option String))

def truthy (text : Option String) : Option String := text.filter (· ≠ "")

def apiVersionOf (groupName : Option String) (version : String) : String :=
  match truthy groupName with
  | some groupName => groupName ++ "/" ++ version
  | none => version

/-- What both readers make of a resource that can be listed. -/
def apiResource (groupName : Option String) (version : String) (verbs : Option (List String)) (pluralName kind singularName : Option String)
    (isNamespaced : Bool) : Option ApiResource :=
  match verbs, truthy pluralName, truthy kind with
  | some verbs, some pluralName, some kind =>
    if "list" ∈ verbs ∧ ¬"List".toList.isSuffixOf kind.toList then
      some {
        apiVersion := apiVersionOf groupName version
        version := version
        groupName := groupName
        pluralName := pluralName
        singularName := singularName.getD ""
        kind := kind
        isNamespaced := isNamespaced }
    else none
  | _, _, _ => none

def processAggregatedDiscoveryItems (items : List AggregatedItem) : List ApiResource :=
  items.flatMap fun item =>
    match item.versions with
    | some (versionEntry :: _) =>
      match versionEntry.version with
      | some version => (versionEntry.resources.getD []).filterMap fun resource =>
        apiResource item.name version resource.verbs resource.resource resource.responseKind.join resource.singularResource
          (resource.scope = some "Namespaced")
      | none => []
    | _ => []

def processLegacyApiResourceList (resources : List LegacyResource) (groupName : Option String) (version : String) : List ApiResource :=
  resources.filterMap fun resource =>
    apiResource groupName version resource.verbs resource.name resource.kind resource.singularName (resource.namespaced = some true)

/-- What a cluster answers, where it does. The versions and groups are in the order in
which the answers for them arrive. -/
structure Answers where
  apiAggregated : Option (List AggregatedItem)
  apisAggregated : Option (List AggregatedItem)
  coreVersions : Option (List (Option String))
  groups : Option (List LegacyGroup)
  coreResources : String → Option (List LegacyResource)
  groupResources : String → String → Option (List LegacyResource)

def legacyCore (answers : Answers) : List ApiResource :=
  (answers.coreVersions.getD []).flatMap fun version =>
    match truthy version with
    | some version => processLegacyApiResourceList ((answers.coreResources version).getD []) none version
    | none => []

def groupVersion (group : LegacyGroup) : Option String :=
  (truthy group.preferredVersion).or (truthy ((group.versions.getD []).head?.join))

def legacyGroups (answers : Answers) : List ApiResource :=
  (answers.groups.getD []).flatMap fun group =>
    match truthy group.name, groupVersion group with
    | some groupName, some version =>
      processLegacyApiResourceList ((answers.groupResources groupName version).getD []) (some groupName) version
    | _, _ => []

/-- What is put into the map for a cluster. -/
def discovered (answers : Answers) : List ApiResource :=
  let aggregated := processAggregatedDiscoveryItems (answers.apiAggregated.getD []) ++
    processAggregatedDiscoveryItems (answers.apisAggregated.getD [])
  if answers.apiAggregated.isSome ∧ answers.apisAggregated.isSome then aggregated
  else aggregated ++ (legacyCore answers ++ legacyGroups answers)

def mapKey (resource : ApiResource) : String := resource.apiVersion ++ resource.pluralName

/-- `Map.set`. -/
def set (resultMap : List (String × ApiResource)) (resource : ApiResource) : List (String × ApiResource) :=
  Keyed.upsert (mapKey resource) resource (fun _ => resource) resultMap

def apiDiscovery (clusters : List Answers) : List ApiResource :=
  ((clusters.flatMap discovered).foldl set []).map Prod.snd

/-! An API, of which the documents are two descriptions. -/

structure Subresource where
  name : String
  singularName : Option String
  kind : Option String
  verbs : List String
deriving DecidableEq

structure Resource where
  pluralName : String
  singularName : Option String
  kind : Option String
  namespaced : Bool
  verbs : List String
  subresources : List Subresource
deriving DecidableEq

structure Version where
  version : String
  resources : List Resource
  present : version ≠ ""
  free : '/' ∉ version.toList
  plain : ∀ resource ∈ resources, '/' ∉ resource.pluralName.toList
  distinct : (resources.map Resource.pluralName).Nodup

structure Group where
  name : String
  versions : List Version
  present : name ≠ ""
  free : '/' ∉ name.toList
  distinct : (versions.map Version.version).Nodup

structure Surface where
  core : List Version
  groups : List Group
  distinctCore : (core.map Version.version).Nodup
  distinct : (groups.map Group.name).Nodup

def aggregatedVersion (version : Version) : AggregatedVersion := ⟨some version.version, some (version.resources.map fun resource =>
  ⟨some resource.verbs, some resource.pluralName, resource.singularName, some resource.kind,
    some (if resource.namespaced then "Namespaced" else "Cluster")⟩)⟩

/-- A subresource is listed behind its resource. -/
def legacyResources (version : Version) : List LegacyResource := version.resources.flatMap fun resource =>
  ⟨some resource.pluralName, resource.singularName, some resource.namespaced, resource.kind, some resource.verbs⟩ ::
    resource.subresources.map fun subresource => ⟨some (resource.pluralName ++ "/" ++ subresource.name), subresource.singularName,
      some resource.namespaced, subresource.kind, some subresource.verbs⟩

def aggregatedGroup (group : Group) : AggregatedItem := ⟨some group.name, some (group.versions.map aggregatedVersion)⟩

/-- The preferred version is the first one, where it is told. -/
def legacyGroup (told : Group → Bool) (group : Group) : LegacyGroup where
  name := some group.name
  preferredVersion := if told group then group.versions.head?.map Version.version else none
  versions := some (group.versions.map fun version => some version.version)

/-- The cluster answers with descriptions of the API. Either of the aggregated ones may be
missing; the core group has an empty name or none there. -/
structure Serves (surface : Surface) (answers : Answers) : Prop where
  api : answers.apiAggregated = none ∨ ∃ name, truthy name = none ∧
    answers.apiAggregated = some [⟨name, some (surface.core.map aggregatedVersion)⟩]
  apis : answers.apisAggregated = none ∨ answers.apisAggregated = some (surface.groups.map aggregatedGroup)
  coreVersions : ∃ versions, answers.coreVersions = some versions ∧ versions.Perm (surface.core.map fun version => some version.version)
  groups : ∃ groups told, answers.groups = some groups ∧ groups.Perm (surface.groups.map (legacyGroup told))
  coreResources : ∀ version ∈ surface.core, answers.coreResources version.version = some (legacyResources version)
  groupResources : ∀ group ∈ surface.groups, ∀ version ∈ group.versions,
    answers.groupResources group.name version.version = some (legacyResources version)

def versionResources (groupName : Option String) (version : Version) : List ApiResource := version.resources.filterMap fun resource =>
  apiResource groupName version.version (some resource.verbs) (some resource.pluralName) resource.kind resource.singularName
    resource.namespaced

/-- The resources of the first version of each group. -/
def listable (surface : Surface) : List ApiResource :=
  surface.core.head?.toList.flatMap (versionResources none) ++
    surface.groups.flatMap fun group => group.versions.head?.toList.flatMap (versionResources (some group.name))

/-- The resources are the same, with an empty group name like none. -/
def Same (resource other : ApiResource) : Prop :=
  { resource with groupName := truthy resource.groupName } = { other with groupName := truthy other.groupName }

def pairOf (resource : ApiResource) : String × String := (resource.apiVersion, resource.pluralName)

/-- The result has each pair of group version and plural name of the clusters once. -/
structure Union (clusters : List Surface) (answers : List Answers) : Prop where
  distinct : ((apiDiscovery answers).map pairOf).Nodup
  unmerged : ∀ found ∈ answers.flatMap discovered, ∃ resource ∈ apiDiscovery answers, pairOf resource = pairOf found
  complete : ∀ cluster ∈ clusters, ∀ resource ∈ listable cluster, ∃ found ∈ apiDiscovery answers, pairOf found = pairOf resource
  sound : ∀ found ∈ apiDiscovery answers, ∃ cluster ∈ clusters, ∃ resource ∈ listable cluster, Same found resource

/-- However the clusters answer, the same is found. -/
structure Faithful (surfaces : List Surface) : Prop where
  agree : ∀ surface ∈ surfaces, ∀ first second, Serves surface first → Serves surface second →
    ∀ resource ∈ apiDiscovery [first], ∃ other ∈ apiDiscovery [second], Same resource other
  union : ∀ clusters answers, clusters ⊆ surfaces → List.Forall₂ Serves clusters answers → Union clusters answers

def subresourcesOf (groupName : Option String) (version : Version) : List ApiResource :=
  version.resources.flatMap fun resource => resource.subresources.filterMap fun subresource =>
    apiResource groupName version.version (some subresource.verbs) (some (resource.pluralName ++ "/" ++ subresource.name))
      subresource.kind subresource.singularName resource.namespaced

/-- Only the first version of the core group has anything to list, and no subresource can
be listed. -/
structure Simple (surface : Surface) : Prop where
  core : ∀ version ∈ surface.core.tail, versionResources none version = []
  coreSubresources : ∀ version ∈ surface.core, subresourcesOf none version = []
  subresources : ∀ group ∈ surface.groups, ∀ version ∈ group.versions.head?, subresourcesOf (some group.name) version = []

/-- Different group versions and plural names are different when they are written together. -/
def ToldApart (surfaces : List Surface) : Prop :=
  ∀ surface ∈ surfaces, ∀ other ∈ surfaces, ∀ resource ∈ listable surface, ∀ another ∈ listable other,
    mapKey resource = mapKey another → pairOf resource = pairOf another

theorem truthy_some {text : String} (present : text ≠ "") : truthy (some text) = some text := by
  simp [truthy, present]

theorem apiResource_some {groupName pluralName kind singularName : Option String} {version : String} {verbs : Option (List String)}
    {isNamespaced : Bool} {resource : ApiResource}
    (made : apiResource groupName version verbs pluralName kind singularName isNamespaced = some resource) :
    resource.apiVersion = apiVersionOf groupName version ∧ pluralName = some resource.pluralName ∧ resource.groupName = groupName := by
  unfold apiResource at made
  split at made
  next plural kind plurals kinds =>
    split at made
    · cases made
      exact ⟨rfl, (Option.filter_eq_some_iff.mp plurals).1, rfl⟩
    · cases made
  next => cases made

theorem apiResource_blank {groupName pluralName kind singularName : Option String} {version : String} {verbs : Option (List String)}
    {isNamespaced : Bool} (blank : truthy groupName = none) :
    apiResource groupName version verbs pluralName kind singularName isNamespaced =
      (apiResource none version verbs pluralName kind singularName isNamespaced).map fun resource =>
        { resource with groupName := groupName } := by
  have core : apiVersionOf groupName version = apiVersionOf none version := by
    rw [apiVersionOf, blank]
    rfl
  unfold apiResource
  split
  · split
    · rw [core]
      rfl
    · rfl
  · rfl

theorem Same.refl (resource : ApiResource) : Same resource resource := rfl

theorem Same.symm {resource other : ApiResource} (same : Same resource other) : Same other resource := Eq.symm same

theorem Same.trans {resource other third : ApiResource} (first : Same resource other) (second : Same other third) :
    Same resource third := Eq.trans first second

theorem Same.pair {resource other : ApiResource} (same : Same resource other) : pairOf resource = pairOf other := by
  unfold Same at same
  simp only [ApiResource.mk.injEq] at same
  simp [pairOf, same.1, same.2.2.2.1]

theorem mapKey_of_pair {resource other : ApiResource} (same : pairOf resource = pairOf other) : mapKey resource = mapKey other := by
  simp only [pairOf, Prod.mk.injEq] at same
  rw [mapKey, mapKey, same.1, same.2]

/-! The readers on the descriptions of an API. -/

theorem aggregatedGroups_eq (groups : List Group) : processAggregatedDiscoveryItems (groups.map aggregatedGroup) =
    groups.flatMap fun group => group.versions.head?.toList.flatMap (versionResources (some group.name)) := by
  unfold processAggregatedDiscoveryItems
  rw [List.flatMap_map]
  congr 1
  funext group
  cases versions : group.versions with
  | nil => simp [aggregatedGroup, versions]
  | cons version rest =>
    simp [aggregatedGroup, versions, aggregatedVersion, versionResources, List.filterMap_map]

theorem aggregatedCore_eq {name : Option String} (blank : truthy name = none) (core : List Version) :
    processAggregatedDiscoveryItems [⟨name, some (core.map aggregatedVersion)⟩] =
      (core.head?.toList.flatMap (versionResources none)).map fun resource => { resource with groupName := name } := by
  cases core with
  | nil => rfl
  | cons version rest =>
    have scope (namespaced : Bool) : decide ((if namespaced then "Namespaced" else "Cluster") = "Namespaced") = namespaced := by
      cases namespaced <;> decide
    simp only [processAggregatedDiscoveryItems, List.flatMap_singleton, List.map_cons, aggregatedVersion, Option.getD_some,
      List.filterMap_map, Function.comp_def, apiResource_blank blank, Option.join_some, Option.some.injEq, scope, List.head?_cons,
      Option.toList_some, versionResources, List.map_filterMap]

theorem mem_legacy {groupName : Option String} {version : Version} {resource : ApiResource} :
    resource ∈ processLegacyApiResourceList (legacyResources version) groupName version.version ↔
      resource ∈ versionResources groupName version ∨ resource ∈ subresourcesOf groupName version := by
  simp only [processLegacyApiResourceList, legacyResources, versionResources, subresourcesOf, List.mem_filterMap, List.mem_flatMap,
    List.mem_cons, List.mem_map]
  constructor
  · rintro ⟨entry, ⟨resource, inside, rfl | ⟨subresource, below, rfl⟩⟩, made⟩
    · exact Or.inl ⟨resource, inside, by simpa using made⟩
    · exact Or.inr ⟨resource, inside, subresource, below, by simpa using made⟩
  · rintro (⟨resource, inside, made⟩ | ⟨resource, inside, subresource, below, made⟩)
    · exact ⟨_, ⟨resource, inside, Or.inl rfl⟩, by simpa using made⟩
    · exact ⟨_, ⟨resource, inside, Or.inr ⟨subresource, below, rfl⟩⟩, by simpa using made⟩

/-! The map. -/

theorem merged (found : List ApiResource) : Keyed.Unique (found.foldl set []) ∧
    (∀ row ∈ found.foldl set [], row.1 = mapKey row.2 ∧ row.2 ∈ found) ∧
    ∀ resource ∈ found, mapKey resource ∈ (found.foldl set []).map Prod.fst := by
  induction found using List.reverseRecOn with
  | nil => simp [Keyed.Unique]
  | append_singleton found last ih =>
    rw [List.foldl_append, List.foldl_cons, List.foldl_nil]
    refine ⟨Keyed.unique_upsert ih.1, ?_, ?_⟩
    · intro row member
      rcases Keyed.mem_upsert member with old | rfl | ⟨_, _, rfl⟩
      · have before := ih.2.1 row old
        exact ⟨before.1, by simp [before.2]⟩
      · exact ⟨rfl, by simp⟩
      · exact ⟨rfl, by simp⟩
    · intro resource member
      apply Keyed.mem_upsert_keys.mpr
      rcases List.mem_append.mp member with old | new
      · exact Or.inl (ih.2.2 resource old)
      · exact Or.inr (by rw [List.mem_singleton.mp new])

section
variable {answers : List Answers}

theorem mem_discovered {resource : ApiResource} (member : resource ∈ apiDiscovery answers) : resource ∈ answers.flatMap discovered := by
  obtain ⟨row, inside, rfl⟩ := List.mem_map.mp member
  exact ((merged _).2.1 row inside).2

theorem keys_nodup : ((apiDiscovery answers).map mapKey).Nodup := by
  obtain ⟨unique, rows, _⟩ := merged (answers.flatMap discovered)
  unfold apiDiscovery
  rw [List.map_map]
  have same : ((answers.flatMap discovered).foldl set []).map (mapKey ∘ Prod.snd) =
      ((answers.flatMap discovered).foldl set []).map Prod.fst := by
    apply List.map_congr_left
    exact fun row inside => (rows row inside).1.symm
  rw [same]
  exact unique

theorem same_key {resource other : ApiResource} (member : resource ∈ apiDiscovery answers) (there : other ∈ apiDiscovery answers)
    (key : mapKey resource = mapKey other) : resource = other := List.inj_on_of_nodup_map keys_nodup member there key

theorem found_key {resource : ApiResource} (found : resource ∈ answers.flatMap discovered) :
    ∃ other ∈ apiDiscovery answers, mapKey other = mapKey resource := by
  obtain ⟨row, inside, key⟩ := List.mem_map.mp ((merged _).2.2 resource found)
  refine ⟨row.2, List.mem_map.mpr ⟨row, inside, rfl⟩, ?_⟩
  rw [← ((merged _).2.1 row inside).1, key]

theorem pairs_nodup : ((apiDiscovery answers).map pairOf).Nodup := by
  have keys : ((apiDiscovery answers).map mapKey).Nodup := keys_nodup
  have split : (apiDiscovery answers).map mapKey = ((apiDiscovery answers).map pairOf).map fun pair => pair.1 ++ pair.2 := by
    rw [List.map_map]
    rfl
  rw [split] at keys
  exact keys.of_map

end

/-! The documents of a cluster. -/

section
variable {surface : Surface} {answers : Answers} {resource : ApiResource}

theorem mem_listable : resource ∈ listable surface ↔
    (∃ version ∈ surface.core.head?, resource ∈ versionResources none version) ∨
      ∃ group ∈ surface.groups, ∃ version ∈ group.versions.head?, resource ∈ versionResources (some group.name) version := by
  simp [listable]

theorem groupVersion_legacyGroup (told : Group → Bool) (group : Group) :
    groupVersion (legacyGroup told group) = group.versions.head?.map Version.version := by
  cases versions : group.versions with
  | nil => cases told group <;> simp [groupVersion, legacyGroup, versions, truthy]
  | cons version rest =>
    have present : truthy (some version.version) = some version.version := truthy_some version.present
    cases shown : told group with
    | true => simp [groupVersion, legacyGroup, versions, shown, present]
    | false => simp [groupVersion, legacyGroup, versions, shown, present, show truthy none = none from rfl]

theorem mem_legacyCore (serves : Serves surface answers) : resource ∈ legacyCore answers ↔
    ∃ version ∈ surface.core, resource ∈ versionResources none version ∨ resource ∈ subresourcesOf none version := by
  obtain ⟨versions, listed, perm⟩ := serves.coreVersions
  rw [legacyCore, listed, Option.getD_some, List.mem_flatMap]
  constructor
  · rintro ⟨name, member, inside⟩
    obtain ⟨version, there, rfl⟩ := List.mem_map.mp (perm.mem_iff.mp member)
    rw [truthy_some version.present] at inside
    simp only [serves.coreResources version there, Option.getD_some] at inside
    exact ⟨version, there, mem_legacy.mp inside⟩
  · rintro ⟨version, there, inside⟩
    refine ⟨some version.version, perm.mem_iff.mpr (List.mem_map.mpr ⟨version, there, rfl⟩), ?_⟩
    rw [truthy_some version.present]
    simp only [serves.coreResources version there, Option.getD_some]
    exact mem_legacy.mpr inside

theorem mem_legacyGroups (serves : Serves surface answers) : resource ∈ legacyGroups answers ↔
    ∃ group ∈ surface.groups, ∃ version ∈ group.versions.head?,
      resource ∈ versionResources (some group.name) version ∨ resource ∈ subresourcesOf (some group.name) version := by
  obtain ⟨groups, told, listed, perm⟩ := serves.groups
  rw [legacyGroups, listed, Option.getD_some, List.mem_flatMap]
  constructor
  · rintro ⟨entry, member, inside⟩
    obtain ⟨group, there, rfl⟩ := List.mem_map.mp (perm.mem_iff.mp member)
    rw [groupVersion_legacyGroup, show truthy (legacyGroup told group).name = some group.name from truthy_some group.present] at inside
    cases first : group.versions.head? with
    | none => simp [first] at inside
    | some version =>
      simp only [first, Option.map_some, serves.groupResources group there version (List.mem_of_head? first), Option.getD_some] at inside
      exact ⟨group, there, version, first, mem_legacy.mp inside⟩
  · rintro ⟨group, there, version, first, inside⟩
    refine ⟨legacyGroup told group, perm.mem_iff.mpr (List.mem_map.mpr ⟨group, there, rfl⟩), ?_⟩
    rw [groupVersion_legacyGroup, show truthy (legacyGroup told group).name = some group.name from truthy_some group.present]
    have versions : group.versions.head? = some version := first
    simp only [versions, Option.map_some, serves.groupResources group there version (List.mem_of_head? versions), Option.getD_some]
    exact mem_legacy.mpr inside

theorem discovered_sound (serves : Serves surface answers) (simple : Simple surface) (found : resource ∈ discovered answers) :
    ∃ other ∈ listable surface, Same resource other := by
  have parts : (resource ∈ processAggregatedDiscoveryItems (answers.apiAggregated.getD []) ∨
      resource ∈ processAggregatedDiscoveryItems (answers.apisAggregated.getD [])) ∨ resource ∈ legacyCore answers ∨
        resource ∈ legacyGroups answers := by
    unfold discovered at found
    split at found
    · exact Or.inl (List.mem_append.mp found)
    · simpa only [List.mem_append] using found
  rcases parts with (api | apis) | core | groups
  · rcases serves.api with none | ⟨name, blank, some⟩
    · simp [none, processAggregatedDiscoveryItems] at api
    · rw [some, Option.getD_some, aggregatedCore_eq blank] at api
      obtain ⟨other, inside, rfl⟩ := List.mem_map.mp api
      obtain ⟨version, first, made⟩ := List.mem_flatMap.mp inside
      obtain ⟨_, _, entry⟩ := List.mem_filterMap.mp made
      refine ⟨other, mem_listable.mpr (Or.inl ⟨version, by simpa using first, made⟩), ?_⟩
      have unnamed := (apiResource_some entry).2.2
      simp [Same, blank, unnamed, show truthy none = none from rfl]
  · rcases serves.apis with none | some
    · simp [none, processAggregatedDiscoveryItems] at apis
    · rw [some, Option.getD_some, aggregatedGroups_eq] at apis
      exact ⟨resource, List.mem_append_right _ apis, Same.refl resource⟩
  · obtain ⟨version, member, inside⟩ := (mem_legacyCore serves).mp core
    rw [simple.coreSubresources version member] at inside
    have made := inside.resolve_right List.not_mem_nil
    refine ⟨resource, mem_listable.mpr (Or.inl ⟨version, ?_, made⟩), Same.refl resource⟩
    have later := simple.core version
    cases versions : surface.core with
    | nil => simp [versions] at member
    | cons first rest =>
      rw [versions] at member later
      rcases List.mem_cons.mp member with rfl | behind
      · exact rfl
      · rw [later behind] at made
        cases made
  · obtain ⟨group, member, version, first, inside⟩ := (mem_legacyGroups serves).mp groups
    rw [simple.subresources group member version first] at inside
    exact ⟨resource, mem_listable.mpr (Or.inr ⟨group, member, version, first, inside.resolve_right List.not_mem_nil⟩),
      Same.refl resource⟩

theorem discovered_complete (serves : Serves surface answers) (member : resource ∈ listable surface) :
    ∃ other ∈ discovered answers, Same other resource := by
  unfold discovered
  split
  next both =>
    rcases mem_listable.mp member with ⟨version, first, made⟩ | groups
    · rcases serves.api with none | ⟨name, blank, some⟩
      · simp [none] at both
      · refine ⟨{ resource with groupName := name }, List.mem_append_left _ ?_, ?_⟩
        · rw [some, Option.getD_some, aggregatedCore_eq blank]
          exact List.mem_map.mpr ⟨resource, List.mem_flatMap.mpr ⟨version, by simpa using first, made⟩, rfl⟩
        · obtain ⟨_, _, entry⟩ := List.mem_filterMap.mp made
          have unnamed := (apiResource_some entry).2.2
          simp [Same, blank, unnamed, show truthy none = none from rfl]
    · rcases serves.apis with none | some
      · simp [none] at both
      · refine ⟨resource, List.mem_append_right _ ?_, Same.refl resource⟩
        rw [some, Option.getD_some, aggregatedGroups_eq]
        simpa using groups
  next =>
    rcases mem_listable.mp member with ⟨version, first, made⟩ | ⟨group, there, version, first, made⟩
    · refine ⟨resource, List.mem_append_right _ (List.mem_append_left _ ?_), Same.refl resource⟩
      exact (mem_legacyCore serves).mpr ⟨version, List.mem_of_head? first, Or.inl made⟩
    · refine ⟨resource, List.mem_append_right _ (List.mem_append_right _ ?_), Same.refl resource⟩
      exact (mem_legacyGroups serves).mpr ⟨group, there, version, first, Or.inl made⟩

theorem versionResources_pair {groupName : Option String} {version : Version} (made : resource ∈ versionResources groupName version) :
    resource.apiVersion = apiVersionOf groupName version.version ∧ '/' ∉ resource.pluralName.toList := by
  obtain ⟨entry, inside, made⟩ := List.mem_filterMap.mp made
  have shape := apiResource_some made
  have plural : entry.pluralName = resource.pluralName := Option.some.inj shape.2.1
  exact ⟨shape.1, plural ▸ version.plain entry inside⟩

theorem versionResources_unique {groupName : Option String} {version : Version} {other : ApiResource}
    (made : resource ∈ versionResources groupName version) (there : other ∈ versionResources groupName version)
    (plural : resource.pluralName = other.pluralName) : resource = other := by
  obtain ⟨entry, inside, made⟩ := List.mem_filterMap.mp made
  obtain ⟨another, also, there⟩ := List.mem_filterMap.mp there
  have first : entry.pluralName = resource.pluralName := Option.some.inj (apiResource_some made).2.1
  have second : another.pluralName = other.pluralName := Option.some.inj (apiResource_some there).2.1
  have same : entry = another := by
    apply List.inj_on_of_nodup_map version.distinct inside also
    rw [first, second, plural]
  subst same
  exact Option.some.inj (made.symm.trans there)

theorem apiVersionOf_group (group : Group) (version : Version) :
    apiVersionOf (some group.name) version.version = Text.join '/' [group.name, version.version] := by
  rw [apiVersionOf, truthy_some group.present, ← Text.join_pair]

theorem apiVersionOf_none (version : String) : apiVersionOf none version = version := rfl

theorem apiVersionOf_injective {group other : Group} {version another : Version}
    (same : apiVersionOf (some group.name) version.version = apiVersionOf (some other.name) another.version) : group.name = other.name := by
  rw [apiVersionOf_group, apiVersionOf_group] at same
  exact (Text.join_cons_injective (List.cons_ne_nil _ _) (List.cons_ne_nil _ _) group.free other.free same).1

theorem apiVersionOf_core {group : Group} {version another : Version} :
    apiVersionOf (some group.name) version.version ≠ apiVersionOf none another.version := by
  intro same
  apply another.free
  rw [← apiVersionOf_none another.version, ← same, apiVersionOf_group, Text.join_cons (List.cons_ne_nil _ _)]
  simp

theorem listable_unique {other : ApiResource} (member : resource ∈ listable surface) (there : other ∈ listable surface)
    (same : pairOf resource = pairOf other) : resource = other := by
  rw [pairOf, pairOf, Prod.mk.injEq] at same
  rcases mem_listable.mp member with ⟨version, first, made⟩ | ⟨group, inside, version, first, made⟩
  · rcases mem_listable.mp there with ⟨another, second, also⟩ | ⟨group, inside, another, second, also⟩
    · obtain rfl : version = another := Option.some.inj (first.symm.trans second)
      exact versionResources_unique made also same.2
    · rw [(versionResources_pair made).1, (versionResources_pair also).1] at same
      exact absurd same.1.symm apiVersionOf_core
  · rcases mem_listable.mp there with ⟨another, second, also⟩ | ⟨otherGroup, inside', another, second, also⟩
    · rw [(versionResources_pair made).1, (versionResources_pair also).1] at same
      exact absurd same.1 apiVersionOf_core
    · have versions := same.1
      rw [(versionResources_pair made).1, (versionResources_pair also).1] at versions
      obtain rfl : group = otherGroup := List.inj_on_of_nodup_map surface.distinct inside inside' (apiVersionOf_injective versions)
      obtain rfl : version = another := Option.some.inj (first.symm.trans second)
      exact versionResources_unique made also same.2

end

section
variable {clusters surfaces : List Surface} {answers : List Answers}

theorem served_answer {answer : Answers} (all : List.Forall₂ Serves clusters answers) (member : answer ∈ answers) :
    ∃ cluster ∈ clusters, Serves cluster answer := by
  induction all with
  | nil => cases member
  | cons serves _ ih =>
    rcases List.mem_cons.mp member with rfl | later
    · exact ⟨_, List.mem_cons_self, serves⟩
    · obtain ⟨cluster, there, serves⟩ := ih later
      exact ⟨cluster, List.mem_cons_of_mem _ there, serves⟩

theorem served_cluster {cluster : Surface} (all : List.Forall₂ Serves clusters answers) (member : cluster ∈ clusters) :
    ∃ answer ∈ answers, Serves cluster answer := by
  induction all with
  | nil => cases member
  | cons serves _ ih =>
    rcases List.mem_cons.mp member with rfl | later
    · exact ⟨_, List.mem_cons_self, serves⟩
    · obtain ⟨answer, there, serves⟩ := ih later
      exact ⟨answer, List.mem_cons_of_mem _ there, serves⟩

theorem union_of_simple (simple : ∀ surface ∈ surfaces, Simple surface) (apart : ToldApart surfaces) (known : clusters ⊆ surfaces)
    (all : List.Forall₂ Serves clusters answers) : Union clusters answers := by
  have origin (found : ApiResource) (member : found ∈ answers.flatMap discovered) :
      ∃ cluster ∈ clusters, ∃ resource ∈ listable cluster, Same found resource := by
    obtain ⟨answer, there, inside⟩ := List.mem_flatMap.mp member
    obtain ⟨cluster, inClusters, serves⟩ := served_answer all there
    obtain ⟨resource, listed, same⟩ := discovered_sound serves (simple cluster (known inClusters)) inside
    exact ⟨cluster, inClusters, resource, listed, same⟩
  have unmerged (found : ApiResource) (member : found ∈ answers.flatMap discovered) :
      ∃ resource ∈ apiDiscovery answers, pairOf resource = pairOf found := by
    obtain ⟨other, there, key⟩ := found_key member
    obtain ⟨first, inFirst, resource, listed, same⟩ := origin found member
    obtain ⟨second, inSecond, another, alsoListed, alsoSame⟩ := origin other (mem_discovered there)
    refine ⟨other, there, ?_⟩
    rw [same.pair, alsoSame.pair]
    apply apart second (known inSecond) first (known inFirst) another alsoListed resource listed
    rw [← mapKey_of_pair alsoSame.pair, key, mapKey_of_pair same.pair]
  refine ⟨pairs_nodup, unmerged, ?_, ?_⟩
  · intro cluster inside resource listed
    obtain ⟨answer, there, serves⟩ := served_cluster all inside
    obtain ⟨found, member, same⟩ := discovered_complete serves listed
    obtain ⟨other, result, pair⟩ := unmerged found (List.mem_flatMap.mpr ⟨answer, there, member⟩)
    exact ⟨other, result, pair.trans same.pair⟩
  · intro found member
    exact origin found (mem_discovered member)

theorem faithful_of_simple (simple : ∀ surface ∈ surfaces, Simple surface) (apart : ToldApart surfaces) : Faithful surfaces := by
  refine ⟨?_, fun clusters answers known all => union_of_simple simple apart known all⟩
  intro surface member first second serves alsoServes resource found
  have known : [surface] ⊆ surfaces := by simpa using member
  obtain ⟨cluster, only, listed, inside, same⟩ := (union_of_simple simple apart known (.cons serves .nil)).sound resource found
  obtain rfl := List.mem_singleton.mp only
  have other := union_of_simple simple apart known (.cons alsoServes .nil)
  obtain ⟨result, there, pair⟩ := other.complete _ only listed inside
  obtain ⟨cluster, again, another, also, alsoSame⟩ := other.sound result there
  obtain rfl := List.mem_singleton.mp again
  obtain rfl : another = listed := listable_unique also inside (alsoSame.pair.symm.trans pair)
  exact ⟨result, there, same.trans alsoSame.symm⟩

/-- A cluster that answers everything, or everything but the aggregated documents. -/
def answersOf (aggregated : Bool) (surface : Surface) : Answers where
  apiAggregated := if aggregated then some [⟨none, some (surface.core.map aggregatedVersion)⟩] else none
  apisAggregated := if aggregated then some (surface.groups.map aggregatedGroup) else none
  coreVersions := some (surface.core.map fun version => some version.version)
  groups := some (surface.groups.map (legacyGroup fun _ => true))
  coreResources := fun name => (surface.core.find? (·.version = name)).map legacyResources
  groupResources := fun groupName name =>
    (surface.groups.find? (·.name = groupName)).bind fun group => (group.versions.find? (·.version = name)).map legacyResources

theorem find?_distinct {α : Type} {name : α → String} {items : List α} (distinct : (items.map name).Nodup) {item : α}
    (member : item ∈ items) : items.find? (fun other => name other = name item) = some item := by
  cases found : items.find? (fun other => name other = name item) with
  | none => simpa using List.find?_eq_none.mp found item member
  | some other =>
    have same : name other = name item := by simpa using List.find?_some found
    rw [List.inj_on_of_nodup_map distinct (List.mem_of_find?_eq_some found) member same]

theorem answersOf_serves (aggregated : Bool) (surface : Surface) : Serves surface (answersOf aggregated surface) where
  api := by
    cases aggregated with
    | true => exact Or.inr ⟨none, rfl, rfl⟩
    | false => exact Or.inl rfl
  apis := by
    cases aggregated with
    | true => exact Or.inr rfl
    | false => exact Or.inl rfl
  coreVersions := ⟨_, rfl, List.Perm.refl _⟩
  groups := ⟨_, _, rfl, List.Perm.refl _⟩
  coreResources := by
    intro version member
    simp only [answersOf, find?_distinct surface.distinctCore member, Option.map_some]
  groupResources := by
    intro group member version inside
    simp only [answersOf, find?_distinct surface.distinct member, Option.bind_some, find?_distinct group.distinct inside, Option.map_some]

theorem answersOf_all (aggregated : Bool) (clusters : List Surface) :
    List.Forall₂ Serves clusters (clusters.map (answersOf aggregated)) := by
  induction clusters with
  | nil => exact .nil
  | cons cluster clusters ih => exact .cons (answersOf_serves aggregated cluster) ih

theorem toldApart_of_faithful (faithful : Faithful surfaces) : ToldApart surfaces := by
  intro surface inside other also resource listed another alsoListed key
  have known : [surface, other] ⊆ surfaces := by simp [inside, also]
  have union := faithful.union _ _ known (answersOf_all true [surface, other])
  obtain ⟨first, found, pair⟩ := union.complete surface (by simp) resource listed
  obtain ⟨second, alsoFound, alsoPair⟩ := union.complete other (by simp) another alsoListed
  have same : first = second := by
    apply same_key found alsoFound
    rw [mapKey_of_pair pair, mapKey_of_pair alsoPair, key]
  rw [← pair, ← alsoPair, same]

theorem legacy_pair (faithful : Faithful surfaces) {surface : Surface} (inside : surface ∈ surfaces) {resource : ApiResource}
    (found : resource ∈ legacyCore (answersOf false surface) ∨ resource ∈ legacyGroups (answersOf false surface)) :
    ∃ other ∈ listable surface, pairOf other = pairOf resource := by
  have known : [surface] ⊆ surfaces := by simpa using inside
  have union := faithful.union _ _ known (answersOf_all false [surface])
  have member : resource ∈ ([surface].map (answersOf false)).flatMap discovered := by
    rw [List.map_singleton, List.flatMap_singleton, discovered, if_neg (by simp [answersOf])]
    exact List.mem_append_right _ (List.mem_append.mpr found)
  obtain ⟨result, there, pair⟩ := union.unmerged resource member
  obtain ⟨cluster, only, other, listed, same⟩ := union.sound result there
  obtain rfl := List.mem_singleton.mp only
  exact ⟨other, listed, same.pair.symm.trans pair⟩

theorem plain_of_listable {surface : Surface} {resource : ApiResource} (listed : resource ∈ listable surface) :
    '/' ∉ resource.pluralName.toList := by
  rcases mem_listable.mp listed with ⟨version, _, made⟩ | ⟨group, _, version, _, made⟩
  · exact (versionResources_pair made).2
  · exact (versionResources_pair made).2

theorem subresourcesOf_pair {groupName : Option String} {version : Version} {resource : ApiResource}
    (made : resource ∈ subresourcesOf groupName version) : '/' ∈ resource.pluralName.toList := by
  obtain ⟨entry, _, made⟩ := List.mem_flatMap.mp made
  obtain ⟨subresource, _, made⟩ := List.mem_filterMap.mp made
  rw [← Option.some.inj (apiResource_some made).2.1]
  simp

theorem simple_of_faithful (faithful : Faithful surfaces) {surface : Surface} (inside : surface ∈ surfaces) : Simple surface := by
  have serves := answersOf_serves false surface
  have slash (resource : ApiResource) (found : resource ∈ legacyCore (answersOf false surface) ∨
      resource ∈ legacyGroups (answersOf false surface)) : '/' ∉ resource.pluralName.toList := by
    obtain ⟨other, listed, pair⟩ := legacy_pair faithful inside found
    have plural : other.pluralName = resource.pluralName := (Prod.mk.inj pair).2
    exact plural ▸ plain_of_listable listed
  refine ⟨?_, ?_, ?_⟩
  · intro version later
    apply List.eq_nil_iff_forall_not_mem.mpr
    intro resource made
    have member := List.mem_of_mem_tail later
    have found := (mem_legacyCore serves).mpr ⟨version, member, Or.inl made⟩
    obtain ⟨other, listed, pair⟩ := legacy_pair faithful inside (Or.inl found)
    have versions : other.apiVersion = apiVersionOf none version.version :=
      (Prod.mk.inj pair).1.trans (versionResources_pair made).1
    rcases mem_listable.mp listed with ⟨first, head, also⟩ | ⟨group, _, another, _, also⟩
    · rw [(versionResources_pair also).1, apiVersionOf_none, apiVersionOf_none] at versions
      have distinct := surface.distinctCore
      cases core : surface.core with
      | nil => simp [core] at member
      | cons front rest =>
        rw [core] at head later distinct
        obtain rfl : front = first := Option.some.inj head
        rw [List.map_cons, List.nodup_cons] at distinct
        exact distinct.1 (List.mem_map.mpr ⟨version, later, versions.symm⟩)
    · rw [(versionResources_pair also).1] at versions
      exact apiVersionOf_core versions
  · intro version member
    apply List.eq_nil_iff_forall_not_mem.mpr
    intro resource made
    exact slash resource (Or.inl ((mem_legacyCore serves).mpr ⟨version, member, Or.inr made⟩)) (subresourcesOf_pair made)
  · intro group member version first
    apply List.eq_nil_iff_forall_not_mem.mpr
    intro resource made
    have found := (mem_legacyGroups serves).mpr ⟨group, member, version, first, Or.inr made⟩
    exact slash resource (Or.inr found) (subresourcesOf_pair made)

/-- All ways to discover the resources of some clusters agree, and merge none of them,
exactly if the APIs are simple and their resources are told apart by the keys of the map. -/
theorem discovery_faithful_iff : Faithful surfaces ↔ (∀ surface ∈ surfaces, Simple surface) ∧ ToldApart surfaces := by
  constructor
  · intro faithful
    exact ⟨fun surface inside => simple_of_faithful faithful inside, toldApart_of_faithful faithful⟩
  · intro ⟨simple, apart⟩
    exact faithful_of_simple simple apart

end

section
def listed (pluralName kind : String) : Resource := ⟨pluralName, none, some kind, true, ["get", "list"], []⟩

def only (version : String) (resource : Resource) (present : version ≠ "") (free : '/' ∉ version.toList)
    (plain : '/' ∉ resource.pluralName.toList) : Surface where
  core := []
  groups := [⟨"example.com", [⟨version, [resource], present, free, by simpa using plain, by simp⟩], by decide, by decide, by simp⟩]
  distinctCore := by simp
  distinct := by simp

def one : Surface := only "v1" (listed "alpha1jobs" "Alpha1Job") (by decide) (by decide) (by decide)

def two : Surface := only "v1alpha1" (listed "jobs" "Job") (by decide) (by decide) (by decide)

def alphaJobs : ApiResource := ⟨"example.com/v1", "v1", some "example.com", "alpha1jobs", "", "Alpha1Job", true⟩

def jobs : ApiResource := ⟨"example.com/v1alpha1", "v1alpha1", some "example.com", "jobs", "", "Job", true⟩

/-- Two versions of a group whose resources have the same key. -/
theorem versions_merged : ¬∀ surfaces : List Surface, Faithful surfaces := by
  intro faithful
  have apart : ToldApart [one, two] := toldApart_of_faithful (faithful [one, two])
  have first : alphaJobs ∈ listable one := by decide +kernel
  have second : jobs ∈ listable two := by decide +kernel
  have key : mapKey alphaJobs = mapKey jobs := by decide +kernel
  have same : pairOf alphaJobs = pairOf jobs := apart one (by simp) two (by simp) alphaJobs first jobs second key
  exact absurd same (by decide)

end

end K8Sense.Frontend.ApiDiscovery
