import K8Sense.Kubeconfig.Load
import Mathlib.Data.String.Basic

/-! The kubeconfig file to which clusters are added, and what is read of it at the next
start. -/

namespace K8Sense.Kubeconfig
open Cache (Store CacheValue)

structure Files (Bytes : Type) extends Packages Bytes where
  /-- `clientcmd.Write`. -/
  write : Config → Except String Bytes
  /-- The loading rules with two files, of which the first takes precedence. -/
  loadMerged : Bytes → Bytes → Except String Config

/-- What goes wrong with the files in a request. -/
structure Disk (Bytes : Type) where
  directory : Option String
  lock : Option String
  temporary : Option String
  /-- With what the file has after a failed write. -/
  writing : Option (String × Option Bytes)

/-- A context with the path of its file and its cluster id. -/
def placedAt (kubeConfigPath : String) (context : Context) : Context :=
  { context with kubeConfigPath, clusterID := kubeConfigPath ++ "+" ++ context.name }

section
variable {Bytes : Type} (files : Files Bytes) (disk : Disk Bytes)

def mergeWithExisting (config : Config) (existing : Bytes) : Except String Config :=
  match disk.temporary with
  | some err => .error ("failed to create temp kubeconfig file: " ++ err)
  | none =>
    match files.write config with
    | .error err => .error ("failed to serialize kubeconfig: " ++ err)
    | .ok data =>
      match files.loadMerged existing data with
      | .error err => .error ("failed to load merged kubeconfig: " ++ err)
      | .ok merged => .ok merged

/-- The error, and what the file has afterwards. -/
def writeToFile (config : Config) (file : Option Bytes) : Option String × Option Bytes :=
  match disk.lock with
  | some err => (some ("locking kubeconfig file: " ++ err), file)
  | none =>
    let merged : Except String Config :=
      match file with
      | none => .ok config
      | some existing => mergeWithExisting files disk config existing
    match merged with
    | .error err => (some err, file)
    | .ok config =>
      match files.write config with
      | .error err => (some err, file)
      | .ok content =>
        match disk.writing with
        | some (err, left) => (some err, left)
        | none => (none, some content)

def loadContextsFromFile (kubeConfigPath : String) (data : Bytes) (source : Nat) :
    Option (Except String (List Context × List ContextLoadError)) :=
  (loadContextsFromData files.toPackages data source (source ≠ kubeConfigSource)).map fun loaded =>
    match loaded with
    | .error err => .error ("error loading contexts from file: " ++ err)
    | .ok (contexts, contextErrors) =>
      .ok (contexts.map (placedAt kubeConfigPath), contextErrors)

/-- The contexts that can be stored, one after another. -/
def addContexts (contexts : List Context) (store : Store Context) : Store Context :=
  contexts.foldl (fun store context => (addContext context store).toOption.getD store) store

/-- The store only, as the errors are logged. Nothing where it panics. -/
def loadAndStoreKubeConfigs (kubeConfigPath : String) (data : Bytes) (source : Nat) (store : Store Context) :
    Option (Store Context) :=
  (loadContextsFromFile files kubeConfigPath data source).map fun loaded =>
    match loaded with
    | .error _ => store
    | .ok (contexts, _) => addContexts contexts store

end

/-! What other packages promise. -/

/-- How the paths in a file become absolute when it is merged. -/
structure Paths where
  cluster : Cluster → Cluster
  authInfo : AuthInfo → AuthInfo

/-- An entry of the existing file stays. -/
def mergedConfig (paths : Paths) (existing config : Config) : Config where
  contexts key := (existing.contexts key).or (config.contexts key)
  clusters key := ((existing.clusters key).or (config.clusters key)).map paths.cluster
  authInfos key := ((existing.authInfos key).or (config.authInfos key)).map paths.authInfo

/-- The entry of a context, with its name and those of its cluster and its user. -/
structure Describes (config : Config) (key : String) (rawContext : Yaml) (contextMap : Fields) (context : ApiContext) : Prop where
  info : extractContextInfo rawContext = .ok (contextMap, key)
  names : extractClusterAndUserNames contextMap key = .ok (context.cluster, context.authInfo)
  loaded : config.contexts key = some context

/-- The lists of a document have the entries of a config, in the order of their names. -/
structure Lists (document : Document) (config : Config) (order : List String) : Prop where
  sorted : order.Pairwise fun first second => first < second
  mem : ∀ key, key ∈ order ↔ config.contexts key ≠ none
  contexts : ∃ rawContexts, Keyed.lookup "contexts" document = some (.items rawContexts) ∧
    List.Forall₂ (fun key rawContext => ∃ contextMap context, Describes config key rawContext contextMap context) order rawContexts
  clusters : ∀ name, (∃ rows, getCluster document name = .ok rows) ↔ config.clusters name ≠ none
  authInfos : ∀ name, (∃ rows, getUser document name = .ok rows) ↔ config.authInfos name ≠ none

/-- A document in which one context stands with its cluster and its user, or with
nothing in the place of one that is missing. -/
def aloneIn (document : Document) (contextName clusterName userName : String) (contextMap : Fields) : Document :=
  createKubeConfig contextName (toStringKeyMap contextMap)
    (toStringKeyMap (orElse [] (getCluster document clusterName)).1) (toStringKeyMap (orElse [] (getUser document userName)).1)

section
variable {Bytes : Type}

structure Documented (files : Files Bytes) (paths : Paths) : Prop where
  /-- An entry of a kubeconfig that loads is loaded alone as with the others. -/
  alone : ∀ data document config rawContexts rawContext contextMap contextName clusterName userName,
    files.unmarshal data = .ok document → files.load data = .ok config →
    Keyed.lookup "contexts" document = some (.items rawContexts) → rawContext ∈ rawContexts →
    extractContextInfo rawContext = .ok (contextMap, contextName) →
    extractClusterAndUserNames contextMap contextName = .ok (clusterName, userName) →
    ∃ yamlData single, files.marshal (aloneIn document contextName clusterName userName contextMap) = .ok yamlData ∧
      files.load yamlData = .ok single ∧
      single.contexts contextName = config.contexts contextName ∧
      ((∃ rows, getCluster document clusterName = .ok rows) → single.clusters clusterName = config.clusters clusterName) ∧
      ((∃ rows, getUser document userName = .ok rows) → single.authInfos userName = config.authInfos userName)
  /-- A config with contexts that is written is read back. -/
  written : ∀ config data, files.write config = .ok data → (∃ key, config.contexts key ≠ none) →
    ∃ document order, files.unmarshal data = .ok document ∧ files.load data = .ok config ∧ Lists document config order
  /-- The first file to have a key wins, and paths are made absolute. -/
  merged : ∀ existing data config, files.loadMerged existing data = .ok config →
    ∃ old new, files.load existing = .ok old ∧ files.load data = .ok new ∧ config = mergedConfig paths old new

/-- The context that an entry gives when the file is read, where there are a cluster and
a user for it. -/
def usable (config : Config) (key : String) : Option Context :=
  (config.contexts key).bind fun context =>
    (config.clusters context.cluster).bind fun cluster =>
      (config.authInfos context.authInfo).map fun authInfo =>
        ⟨makeDNSFriendly key, some context, cluster, some authInfo, dynamicClusterSource, false, "", ""⟩

variable {files : Files Bytes} {paths : Paths} {config : Config} {document : Document} {data : Bytes}

theorem missing_iff {α : Type} {found : Except LoadFault Fields} {entry : Option α}
    (same : (∃ rows, found = .ok rows) ↔ entry ≠ none) {fault : LoadFault} (fails : found = .error fault) : entry = none := by
  by_contra there
  obtain ⟨rows, is⟩ := same.mpr there
  cases fails.symm.trans is

theorem processContext_usable (documented : Documented files paths) (unmarshals : files.unmarshal data = .ok document)
    (loads : files.load data = .ok config) {order : List String} (lists : Lists document config order)
    {rawContexts : List Yaml} (found : Keyed.lookup "contexts" document = some (.items rawContexts)) {rawContext : Yaml}
    (member : rawContext ∈ rawContexts) {key : String} {contextMap : Fields} {context : ApiContext}
    (describes : Describes config key rawContext contextMap context) :
    ∃ processed, processContext files.toPackages rawContext document dynamicClusterSource true = some processed ∧
      processed.toOption = usable config key := by
  obtain ⟨yamlData, single, marshals, alone, contexts, clusters, users⟩ := documented.alone data document config rawContexts
    rawContext contextMap key context.cluster context.authInfo unmarshals loads found member describes.info describes.names
  have validates : createAndValidateConfig files.toPackages key contextMap
      (orElse [] (getCluster document context.cluster)).1 (orElse [] (getUser document context.authInfo)).1 document =
        some (.ok single) := by
    unfold aloneIn at marshals
    simp only [createAndValidateConfig, marshals, alone]
  simp only [processContext, describes.info, describes.names, orElse, List.nil_append]
  simp only [orElse] at validates
  rw [validates]
  dsimp only
  rw [describes.loaded] at contexts
  have entry : usable config key = (config.clusters context.cluster).bind fun cluster =>
      (config.authInfos context.authInfo).map fun authInfo =>
        ⟨makeDNSFriendly key, some context, cluster, some authInfo, dynamicClusterSource, false, "", ""⟩ := by
    rw [usable, describes.loaded, Option.bind_some]
  cases cluster : getCluster document context.cluster with
  | error fault =>
    rw [entry, missing_iff (lists.clusters context.cluster) cluster]
    cases convertToContext files.toPackages key single dynamicClusterSource true <;> exact ⟨_, rfl, rfl⟩
  | ok clusterRows =>
    obtain ⟨server, has⟩ := Option.ne_none_iff_exists'.mp ((lists.clusters context.cluster).mp ⟨clusterRows, cluster⟩)
    have same := (clusters ⟨clusterRows, cluster⟩).trans has
    rw [entry, has]
    simp only [convertToContext, contexts, same]
    cases user : getUser document context.authInfo with
    | error fault =>
      rw [missing_iff (lists.authInfos context.authInfo) user]
      exact ⟨_, rfl, rfl⟩
    | ok userRows =>
      obtain ⟨credentials, holds⟩ := Option.ne_none_iff_exists'.mp ((lists.authInfos context.authInfo).mp ⟨userRows, user⟩)
      rw [(users ⟨userRows, user⟩).trans holds, holds]
      exact ⟨_, rfl, rfl⟩

theorem processContexts_usable {keys : List String} {rawContexts : List Yaml}
    (each : List.Forall₂ (fun key rawContext => ∃ processed, processContext files.toPackages rawContext document
      dynamicClusterSource true = some processed ∧ processed.toOption = usable config key) keys rawContexts) :
    ∃ errors, processContexts files.toPackages document dynamicClusterSource true rawContexts =
      some (keys.filterMap (usable config), errors) := by
  induction each with
  | nil => exact ⟨[], rfl⟩
  | cons here _ ih =>
    obtain ⟨processed, first, same⟩ := here
    obtain ⟨errors, rest⟩ := ih
    rw [processContexts, first, rest, List.filterMap_cons, ← same]
    cases processed with
    | error contextError => exact ⟨contextError :: errors, rfl⟩
    | ok context => exact ⟨errors, rfl⟩

theorem load_written (documented : Documented files paths) (writes : files.write config = .ok data)
    (nonempty : ∃ key, config.contexts key ≠ none) :
    ∃ (order : List String) (errors : List ContextLoadError), order.Pairwise (fun first second => first < second) ∧ (∀ key, key ∈ order ↔ config.contexts key ≠ none) ∧
      loadContextsFromData files.toPackages data dynamicClusterSource true =
        some (.ok (order.filterMap (usable config), errors)) := by
  obtain ⟨document, order, unmarshals, loads, lists⟩ := documented.written config data writes nonempty
  obtain ⟨rawContexts, found, described⟩ := lists.contexts
  have each : List.Forall₂ (fun key rawContext => ∃ processed, processContext files.toPackages rawContext document
      dynamicClusterSource true = some processed ∧ processed.toOption = usable config key) order rawContexts := by
    apply List.forall₂_iff_get.mpr
    obtain ⟨lengths, entries⟩ := List.forall₂_iff_get.mp described
    refine ⟨lengths, fun index left right => ?_⟩
    obtain ⟨contextMap, context, describes⟩ := entries index left right
    exact processContext_usable documented unmarshals loads lists found (List.get_mem _ _) describes
  obtain ⟨errors, processed⟩ := processContexts_usable each
  refine ⟨order, errors, lists.sorted, lists.mem, ?_⟩
  simp only [loadContextsFromData, unmarshals, found, processed]
  rfl

/-! The store. -/

theorem addContexts_writeAll (contexts : List Context) (store : Store Context) :
    addContexts contexts store = Keyed.writeAll (contexts.filterMap storedRow) store := by
  induction contexts generalizing store with
  | nil => rfl
  | cons context rest ih =>
    unfold addContexts at ih ⊢
    rw [List.foldl_cons, ih, List.filterMap_cons]
    cases named : context.storedName with
    | error err => simp [addContext, storedRow, named, Except.toOption]
    | ok name =>
      have row : storedRow context = some (name, ⟨{ context with name }, none⟩) := by rw [storedRow, named]; rfl
      rw [row]
      simp only [addContext, named]
      rfl

/-- The name under which an entry is stored when the file is read. -/
def storedAs (config : Config) (key : String) : Option String :=
  (usable config key).bind fun context => context.storedName.toOption

/-- Of the entries that are stored under the name, the last one. -/
structure LastStored (config : Config) (name key : String) : Prop where
  stored : storedAs config key = some name
  last : ∀ other, storedAs config other = some name → other ≤ key

/-- What the store has of an entry that is read from the file. -/
def storedValue (kubeConfigPath name : String) (context : Context) : CacheValue Context :=
  ⟨{ placedAt kubeConfigPath context with name }, none⟩

theorem reload_written (documented : Documented files paths) (writes : files.write config = .ok data)
    (nonempty : ∃ key, config.contexts key ≠ none) (kubeConfigPath : String) :
    ∃ store, loadAndStoreKubeConfigs files kubeConfigPath data dynamicClusterSource Store.empty = some store ∧
      ∀ name value, store name = some value ↔ ∃ key context, LastStored config name key ∧ usable config key = some context ∧
        value = storedValue kubeConfigPath name context := by
  obtain ⟨order, errors, sorted, mem, loaded⟩ := load_written documented writes nonempty
  let row key := (usable config key).bind fun context => storedRow (placedAt kubeConfigPath context)
  refine ⟨Keyed.writeAll (order.filterMap row) Store.empty, ?_, fun name value => ?_⟩
  · have rows : ((order.filterMap (usable config)).map (placedAt kubeConfigPath)).filterMap storedRow = order.filterMap row := by
      rw [List.filterMap_map, List.filterMap_filterMap]
      rfl
    rw [← rows, ← addContexts_writeAll]
    simp only [loadAndStoreKubeConfigs, loadContextsFromFile]
    rw [show decide (dynamicClusterSource ≠ kubeConfigSource) = true from rfl, loaded]
    rfl
  · have stored : ∀ key found, row key = some (name, found) ↔ ∃ context, usable config key = some context ∧
        storedAs config key = some name ∧ found = storedValue kubeConfigPath name context := by
      intro key found
      cases is : usable config key with
      | none => simp [row, is]
      | some context =>
        have same : (placedAt kubeConfigPath context).storedName = context.storedName := rfl
        cases named : context.storedName with
        | error err => simp [row, storedAs, is, storedRow, same, named, Except.toOption]
        | ok other =>
          simp only [row, storedAs, is, storedRow, same, named, Except.toOption, Option.bind_some, Option.map_some,
            Option.some.injEq, Prod.mk.injEq, exists_eq_left']
          constructor
          · rintro ⟨rfl, rfl⟩
            exact ⟨rfl, rfl⟩
          · rintro ⟨rfl, rfl⟩
            exact ⟨rfl, rfl⟩
    rw [Keyed.writeAll_apply, show Store.empty name = none from rfl, Option.or_none, Keyed.lookup_last sorted]
    constructor
    · intro found
      obtain ⟨key, _, given, last⟩ := found
      obtain ⟨context, is, named, rfl⟩ := (stored key value).mp given
      refine ⟨key, context, ⟨named, fun other under => ?_⟩, is, rfl⟩
      obtain ⟨found, there, _⟩ := Option.bind_eq_some_iff.mp under
      obtain ⟨entry, inside, _⟩ := Option.bind_eq_some_iff.mp there
      exact last other ((mem other).mpr (by rw [inside]; exact Option.some_ne_none _)) _
        ((stored other _).mpr ⟨found, there, under, rfl⟩)
    · intro found
      obtain ⟨key, context, ⟨named, last⟩, is, value_⟩ := found
      obtain ⟨entry, inside, _⟩ := Option.bind_eq_some_iff.mp is
      refine ⟨key, (mem key).mpr (by rw [inside]; exact Option.some_ne_none _), (stored key value).mpr ⟨context, is, named, value_⟩, ?_⟩
      intro other _ more given
      obtain ⟨_, _, under, _⟩ := (stored other more).mp given
      exact last other under

/-! What is read of a kubeconfig that loads as a whole. -/

theorem createAndValidateConfig_ok {contextName : String} {contextMap cluster user : Fields} {single : Config}
    (validates : createAndValidateConfig files.toPackages contextName contextMap cluster user document = some (.ok single)) :
    ∃ yamlData, files.marshal (createKubeConfig contextName (toStringKeyMap contextMap) (toStringKeyMap cluster)
      (toStringKeyMap user)) = .ok yamlData ∧ files.load yamlData = .ok single := by
  unfold createAndValidateConfig at validates
  split at validates
  next => cases validates
  next yamlData marshals =>
    split at validates
    next loaded loads =>
      cases validates
      exact ⟨yamlData, marshals, loads⟩
    next => simp at validates

theorem convertToContext_ok {contextName : String} {single : Config} {source : Nat} {skipProxySetup : Bool} {context : Context}
    (converts : convertToContext files.toPackages contextName single source skipProxySetup = .ok context) :
    ∃ apiContext cluster, single.contexts contextName = some apiContext ∧ single.clusters apiContext.cluster = some cluster ∧
      context = ⟨makeDNSFriendly contextName, some apiContext, cluster, single.authInfos apiContext.authInfo, source, false, "", ""⟩ := by
  unfold convertToContext at converts
  split at converts
  next => cases converts
  next apiContext there =>
    split at converts
    next => cases converts
    next cluster found =>
      refine ⟨apiContext, cluster, there, found, ?_⟩
      dsimp only at converts
      split at converts
      next => exact (Except.ok.inj converts).symm
      next =>
        split at converts
        next => cases converts
        next => exact (Except.ok.inj converts).symm

@[simp] theorem orElse_ok {α : Type} (instead value : α) : orElse instead (.ok value) = (value, []) := rfl

theorem orElse_clean {α : Type} {instead : α} {found : Except LoadFault α} (clean : (orElse instead found).2 = []) :
    ∃ value, found = .ok value := by
  cases found with
  | error fault => cases clean
  | ok value => exact ⟨value, rfl⟩

/-- What is known of an entry that is read without an error. -/
structure Processed (files : Files Bytes) (document : Document) (source : Nat) (rawContext : Yaml) (contextMap : Fields)
    (contextName clusterName userName : String) (yamlData : Bytes) (single : Config) (context : Context) : Prop where
  info : extractContextInfo rawContext = .ok (contextMap, contextName)
  names : extractClusterAndUserNames contextMap contextName = .ok (clusterName, userName)
  cluster : ∃ rows, getCluster document clusterName = .ok rows
  user : ∃ rows, getUser document userName = .ok rows
  marshals : files.marshal (aloneIn document contextName clusterName userName contextMap) = .ok yamlData
  loads : files.load yamlData = .ok single
  made : ∃ apiContext cluster, single.contexts contextName = some apiContext ∧ single.clusters apiContext.cluster = some cluster ∧
    context = ⟨makeDNSFriendly contextName, some apiContext, cluster, single.authInfos apiContext.authInfo, source, false, "", ""⟩

theorem processContext_ok {rawContext : Yaml} {source : Nat} {skipProxySetup : Bool} {context : Context}
    (processed : processContext files.toPackages rawContext document source skipProxySetup = some (.ok context)) :
    ∃ contextMap contextName clusterName userName yamlData single,
      Processed files document source rawContext contextMap contextName clusterName userName yamlData single context := by
  unfold processContext at processed
  dsimp only at processed
  split at processed
  next => cases processed
  next => cases processed
  next single validates =>
    split at processed
    next => cases processed
    next converted converts clean =>
      cases processed
      simp only [List.append_eq_nil_iff] at clean
      obtain ⟨⟨⟨info, names⟩, cluster⟩, user⟩ := clean
      obtain ⟨⟨contextMap, contextName⟩, extracted⟩ := orElse_clean info
      simp only [extracted, orElse_ok] at names cluster user validates converts
      obtain ⟨⟨clusterName, userName⟩, both⟩ := orElse_clean names
      simp only [both, orElse_ok] at cluster user validates
      obtain ⟨yamlData, marshals, loads⟩ := createAndValidateConfig_ok validates
      exact ⟨contextMap, contextName, clusterName, userName, yamlData, single, extracted, both, orElse_clean cluster,
        orElse_clean user, marshals, loads, convertToContext_ok converts⟩
    next => cases processed

theorem processContexts_some {rawContexts : List Yaml} {source : Nat} {skipProxySetup : Bool} {contexts : List Context}
    {errors : List ContextLoadError}
    (processed : processContexts files.toPackages document source skipProxySetup rawContexts = some (contexts, errors)) :
    ∀ context ∈ contexts, ∃ rawContext ∈ rawContexts,
      processContext files.toPackages rawContext document source skipProxySetup = some (.ok context) := by
  induction rawContexts generalizing contexts errors with
  | nil =>
    cases processed
    exact List.forall_mem_nil _
  | cons rawContext rest ih =>
    rw [processContexts] at processed
    split at processed
    next => cases processed
    next here is =>
      obtain ⟨⟨later, more⟩, all, made⟩ := Option.map_eq_some_iff.mp processed
      have inside := ih all
      intro context member
      cases here with
      | error contextError =>
        cases made
        obtain ⟨raw, there, ok⟩ := inside context member
        exact ⟨raw, List.mem_cons_of_mem _ there, ok⟩
      | ok first =>
        cases made
        rcases List.mem_cons.mp member with rfl | behind
        · exact ⟨rawContext, List.mem_cons_self, is⟩
        · obtain ⟨raw, there, ok⟩ := inside context behind
          exact ⟨raw, List.mem_cons_of_mem _ there, ok⟩

theorem load_nonempty (documented : Documented files paths) {kubeConfig : String} {source : Nat} {contexts : List Context}
    {errors : List ContextLoadError} (decodes : files.decodeString kubeConfig = .ok data) (loads : files.load data = .ok config)
    (read : loadContextsFromBase64String files.toPackages kubeConfig source = some (.ok (contexts, errors)))
    (some : contexts ≠ []) : ∃ key, config.contexts key ≠ none := by
  simp only [loadContextsFromBase64String, decodes, loadContextsFromData] at read
  split at read
  next => cases read
  next document unmarshals =>
    split at read
    next rawContexts found =>
      obtain ⟨all, processed, made⟩ := Option.map_eq_some_iff.mp read
      cases made
      obtain ⟨first, rest, rfl⟩ := List.exists_cons_of_ne_nil some
      obtain ⟨rawContext, member, ok⟩ := processContexts_some processed first List.mem_cons_self
      obtain ⟨contextMap, contextName, clusterName, userName, yamlData, single, read⟩ := processContext_ok ok
      obtain ⟨other, again, marshals, alone, same, -⟩ := documented.alone data document config rawContexts rawContext contextMap
        contextName clusterName userName unmarshals loads found member read.info read.names
      cases read.marshals.symm.trans marshals
      cases read.loads.symm.trans alone
      obtain ⟨apiContext, cluster, there, -⟩ := read.made
      exact ⟨contextName, by rw [← same, there]; exact Option.some_ne_none _⟩
    next => cases read

theorem usable_parts {key : String} {context : Context} (is : usable config key = some context) :
    clusterOf config key = some context.cluster ∧ authInfoOf config key = context.authInfo := by
  obtain ⟨entry, there, made⟩ := Option.bind_eq_some_iff.mp is
  obtain ⟨cluster, found, made⟩ := Option.bind_eq_some_iff.mp made
  obtain ⟨authInfo, holds, rfl⟩ := Option.map_eq_some_iff.mp made
  simp [clusterOf, authInfoOf, there, found, holds]

end

end K8Sense.Kubeconfig
