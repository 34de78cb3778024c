import K8Sense.Kubeconfig.Sync

/-! Deleting a cluster: its context leaves the store, and then the file that it came from,
with the cluster and the user that no other context of the file names. -/

namespace K8Sense.Kubeconfig.DeleteCluster
open Cache (Store)
open Sync (Entry Named)

variable {Bytes : Type}

/-- What the interface is told of a context, as far as a request to delete it needs it. -/
structure Cluster where
  name : String
  server : String
  source : String
  kubeconfig : String
  originalName : String
  clusterID : String
deriving DecidableEq

def sourceStr (source : Nat) : String :=
  if source = kubeConfigSource then "kubeconfig"
  else if source = dynamicClusterSource then "dynamic_cluster"
  else if source = 3 then "incluster"
  else if source = 4 then "cluster_inventory"
  else "unknown"

def clusterInfo (context : Context) : Option Cluster :=
  if context.internal then none
  else context.kubeContext.map fun _ =>
    ⟨context.name, context.cluster.server, sourceStr context.source, context.kubeConfigPath, context.name, context.clusterID⟩

def getClusters (listing : List String) (now : Nat) (store : Store Context) : List Cluster :=
  (Sync.getContexts listing now store).filterMap clusterInfo

structure DeleteRequest where
  name : String
  removeKubeConfig : String
  configPath : String
  originalName : String
  clusterID : String

/-- The request to remove a cluster from its kubeconfig, too. -/
def requestFor (cluster : Cluster) : DeleteRequest :=
  ⟨cluster.name, "true", cluster.kubeconfig, cluster.originalName, cluster.clusterID⟩

section
variable (order : List String) (config : Config)

/-- Some context names the cluster; the order is that of the loop over the contexts. -/
def clusterUsed (cluster : String) : Bool := order.any fun key => (config.contexts key).any fun context => context.cluster = cluster

def userUsed (user : String) : Bool := order.any fun key => (config.contexts key).any fun context => context.authInfo = user

def removeOrphanedClusterAndUser (clusterToRemove userToRemove : String) : Config :=
  { config with
    clusters := if clusterUsed order config clusterToRemove then config.clusters else Function.update config.clusters clusterToRemove none
    authInfos := if userUsed order config userToRemove then config.authInfos else Function.update config.authInfos userToRemove none }

def deleteContext (contextName : String) : Config :=
  { config with contexts := Function.update config.contexts contextName none }

end

/-- The error, and what the files have afterwards. -/
def removeContextFromFile (files : Files Bytes) (disk : Disk Bytes) (order : List String) (contextName path : String)
    (kubeconfigs : String → Option Bytes) : Option String × (String → Option Bytes) :=
  match if path = "" then some "kubeconfig path is empty" else disk.lock with
  | some err => (some ("locking kubeconfig file " ++ path.quote ++ ": " ++ err), kubeconfigs)
  | none =>
    match kubeconfigs path with
    | none => (some ("kubeconfig file " ++ path.quote ++ " does not exist"), kubeconfigs)
    | some data =>
      match files.load data with
      | .error err => (some ("failed to load kubeconfig file: " ++ err), kubeconfigs)
      | .ok config =>
        match config.contexts contextName with
        | none => (some "context not found in kubeconfig", kubeconfigs)
        | some context =>
          match files.write (removeOrphanedClusterAndUser order (deleteContext config contextName) context.cluster context.authInfo) with
          | .error err => (some err, kubeconfigs)
          | .ok content =>
            match disk.writing with
            | some (err, left) => (some err, Function.update kubeconfigs path left)
            | none => (none, Function.update kubeconfigs path (some content))

structure State (Bytes : Type) where
  kubeconfigs : String → Option Bytes
  store : Store Context

def handleRemoveKubeConfig (files : Files Bytes) (disk : Disk Bytes) (order : List String) (request : DeleteRequest)
    (kubeconfigs : String → Option Bytes) : Option String × (String → Option Bytes) :=
  let configName := if request.originalName ≠ "" ∧ request.clusterID ≠ "" then request.originalName else request.name
  removeContextFromFile files disk order configName request.configPath kubeconfigs

/-- The error that the request reports, and what it leaves. -/
def deleteCluster (files : Files Bytes) (disk : Disk Bytes) (order : List String) (authorised : Bool) (request : DeleteRequest)
    (state : State Bytes) : Option String × State Bytes :=
  if authorised = false then (some "access denied", state)
  else
    let store := removeContext request.name state.store
    if request.removeKubeConfig = "true" then
      let (err, kubeconfigs) := handleRemoveKubeConfig files disk order request state.kubeconfigs
      (err, ⟨kubeconfigs, store⟩)
    else (none, ⟨state.kubeconfigs, store⟩)

/-! What a deletion is meant to do. -/

/-- Of the contexts with the cluster, the entry is the only one. -/
def OnlyCluster (config : Config) (key cluster : String) : Prop :=
  (config.contexts key).map ApiContext.cluster = some cluster ∧
    ∀ other, other ≠ key → (config.contexts other).map ApiContext.cluster ≠ some cluster

def OnlyUser (config : Config) (key user : String) : Prop :=
  (config.contexts key).map ApiContext.authInfo = some user ∧
    ∀ other, other ≠ key → (config.contexts other).map ApiContext.authInfo ≠ some user

/-- The context is gone, with the cluster and the user that it does not share. -/
structure Without (config : Config) (key : String) (left : Config) : Prop where
  context : left.contexts key = none
  contexts : ∀ other, other ≠ key → left.contexts other = config.contexts other
  cluster : ∀ name, OnlyCluster config key name → left.clusters name = none
  clusters : ∀ name, ¬OnlyCluster config key name → left.clusters name = config.clusters name
  user : ∀ name, OnlyUser config key name → left.authInfos name = none
  users : ∀ name, ¬OnlyUser config key name → left.authInfos name = config.authInfos name
  resolves : ∀ other, other ≠ key → clusterOf left other = clusterOf config other ∧ authInfoOf left other = authInfoOf config other

structure Deleted (files : Files Bytes) (entry : Entry) (name : String) (before : State Bytes)
    (answer : Option String × State Bytes) : Prop where
  file : answer.1 = none → ∃ data left, answer.2.kubeconfigs entry.path = some data ∧ files.load data = .ok left ∧
    Without entry.config entry.key left
  files : answer.1 = none → ∀ path, path ≠ entry.path → answer.2.kubeconfigs path = before.kubeconfigs path
  store : answer.1 = none → answer.2.store name = none ∧ ∀ other, other ≠ name → answer.2.store other = before.store other
  failed : answer.1 ≠ none → answer.2 = before

/-- The interface has been told of a context that came from an entry of a file. -/
structure Reported (files : Files Bytes) (state : State Bytes) (listing : List String) (now : Nat) (cluster : Cluster)
    (entry : Entry) : Prop where
  listed : cluster ∈ getClusters listing now state.store
  named : Named state.store
  stored : ∃ loaded source, entry.loaded = some loaded ∧
    state.store.get cluster.name now = some { loaded with name := entry.name, source }
  file : ∃ data, state.kubeconfigs entry.path = some data ∧ files.load data = .ok entry.config

/-- The file of the entry can be locked and written. -/
def Writable (files : Files Bytes) (disk : Disk Bytes) (order : List String) (entry : Entry) : Prop :=
  entry.path ≠ "" ∧ disk.lock = none ∧ disk.writing = none ∧ ∀ context, entry.config.contexts entry.key = some context →
    ∃ content, files.write (removeOrphanedClusterAndUser order (deleteContext entry.config entry.key) context.cluster context.authInfo) =
      .ok content

/-- What is written is read back. -/
def RoundTrip (files : Files Bytes) : Prop := ∀ config data, files.write config = .ok data → files.load data = .ok config

/-! The orphans. -/

section
variable {order : List String} {config : Config} {key : String} {context : ApiContext}

@[simp] theorem deleteContext_self : (deleteContext config key).contexts key = none := Function.update_self _ _ _

theorem deleteContext_other {other : String} (different : other ≠ key) :
    (deleteContext config key).contexts other = config.contexts other := Function.update_of_ne different _ _

theorem used_iff (part : ApiContext → String) (visited : ∀ other, config.contexts other ≠ none → other ∈ order) {name : String} :
    (order.any fun other => ((deleteContext config key).contexts other).any fun context => part context = name) = true ↔
      ∃ other, other ≠ key ∧ (config.contexts other).map part = some name := by
  rw [List.any_eq_true]
  constructor
  · rintro ⟨other, -, used⟩
    rw [Option.any_eq_true] at used
    obtain ⟨found, is, same⟩ := used
    by_cases here : other = key
    · rw [here, deleteContext_self] at is
      cases is
    · rw [deleteContext_other here] at is
      exact ⟨other, here, by rw [is, Option.map_some, of_decide_eq_true same]⟩
  · rintro ⟨other, different, is⟩
    obtain ⟨found, there, same⟩ := Option.map_eq_some_iff.mp is
    refine ⟨other, visited other (by rw [there]; exact Option.some_ne_none _), ?_⟩
    rw [Option.any_eq_true]
    exact ⟨found, by rw [deleteContext_other different, there], decide_eq_true same⟩

theorem orphan_apply {α : Type} (table : String → Option α) {used : Bool} {part : ApiContext → String}
    (there : config.contexts key = some context)
    (is : used = true ↔ ∃ other, other ≠ key ∧ (config.contexts other).map part = some (part context)) (name : String) :
    let left := if used then table else Function.update table (part context) none
    (((config.contexts key).map part = some name ∧ ∀ other, other ≠ key → (config.contexts other).map part ≠ some name) →
      left name = none) ∧
    (¬((config.contexts key).map part = some name ∧ ∀ other, other ≠ key → (config.contexts other).map part ≠ some name) →
      left name = table name) := by
  rw [there, Option.map_some, Option.some.injEq]
  dsimp only
  constructor
  · rintro ⟨rfl, alone⟩
    have free : ¬used = true := fun shared => by
      obtain ⟨other, different, same⟩ := is.mp shared
      exact alone other different same
    rw [if_neg free, Function.update_self]
  · intro kept
    split
    next => rfl
    next free =>
      apply Function.update_of_ne
      rintro rfl
      exact kept ⟨rfl, fun other different same => free (is.mpr ⟨other, different, same⟩)⟩

theorem without_removed (visited : ∀ other, config.contexts other ≠ none → other ∈ order) (there : config.contexts key = some context) :
    Without config key (removeOrphanedClusterAndUser order (deleteContext config key) context.cluster context.authInfo) := by
  have cluster := orphan_apply config.clusters there (used_iff ApiContext.cluster visited)
  have user := orphan_apply config.authInfos there (used_iff ApiContext.authInfo visited)
  have others {other : String} (different : other ≠ key) : (removeOrphanedClusterAndUser order (deleteContext config key)
      context.cluster context.authInfo).contexts other = config.contexts other := deleteContext_other different
  refine ⟨deleteContext_self, fun other different => others different, fun name => (cluster name).1, fun name => (cluster name).2,
    fun name => (user name).1, fun name => (user name).2, fun other different => ?_⟩
  rw [clusterOf, authInfoOf, clusterOf, authInfoOf, others different]
  cases is : config.contexts other with
  | none => exact ⟨rfl, rfl⟩
  | some found =>
    refine ⟨(cluster found.cluster).2 fun alone => ?_, (user found.authInfo).2 fun alone => ?_⟩
    · exact alone.2 other different (by rw [is, Option.map_some])
    · exact alone.2 other different (by rw [is, Option.map_some])

end

/-! The request. -/

section
variable {files : Files Bytes} {disk : Disk Bytes} {order : List String} {state : State Bytes} {listing : List String} {now : Nat}
  {cluster : Cluster} {entry : Entry}

theorem reported_request (reported : Reported files state listing now cluster entry) :
    cluster.name = entry.name ∧ cluster.originalName = entry.name ∧ cluster.kubeconfig = entry.path := by
  obtain ⟨loaded, source, is, found⟩ := reported.stored
  obtain ⟨expiresAt, holds⟩ := Store.holds_of_get found
  have name : entry.name = cluster.name := reported.named cluster.name _ holds
  obtain ⟨context, member, info⟩ := List.mem_filterMap.mp reported.listed
  obtain ⟨key, -, there⟩ := List.mem_filterMap.mp member
  obtain ⟨until_, stored⟩ := Store.holds_of_get there
  have own : context.name = key := reported.named key _ stored
  rw [clusterInfo] at info
  split at info
  · cases info
  · obtain ⟨kubeContext, -, rfl⟩ := Option.map_eq_some_iff.mp info
    rw [← own] at there
    cases found.symm.trans there
    refine ⟨rfl, rfl, ?_⟩
    obtain ⟨apiContext, -, made⟩ := Option.bind_eq_some_iff.mp is
    obtain ⟨server, -, rfl⟩ := Option.map_eq_some_iff.mp made
    rfl

theorem deleteCluster_reported (reported : Reported files state listing now cluster entry) :
    deleteCluster files disk order true (requestFor cluster) state =
      ((removeContextFromFile files disk order entry.name entry.path state.kubeconfigs).1,
        ⟨(removeContextFromFile files disk order entry.name entry.path state.kubeconfigs).2, removeContext entry.name state.store⟩) := by
  obtain ⟨name, originalName, path⟩ := reported_request reported
  simp only [deleteCluster, requestFor, handleRemoveKubeConfig, Bool.true_eq_false, if_false, if_true, name, originalName, path, ite_self]

theorem removeContextFromFile_ok {contextName path : String} {kubeconfigs after : String → Option Bytes} {data : Bytes} {config : Config}
    (there : kubeconfigs path = some data) (loads : files.load data = .ok config) :
    removeContextFromFile files disk order contextName path kubeconfigs = (none, after) ↔
      path ≠ "" ∧ disk.lock = none ∧ disk.writing = none ∧ ∃ context content, config.contexts contextName = some context ∧
        files.write (removeOrphanedClusterAndUser order (deleteContext config contextName) context.cluster context.authInfo) =
          .ok content ∧ Function.update kubeconfigs path (some content) = after := by
  by_cases empty : path = ""
  · simp [removeContextFromFile, empty]
  · cases locked : disk.lock with
    | some err => simp [removeContextFromFile, empty, locked]
    | none =>
      simp only [removeContextFromFile, locked, there, loads, ne_eq, empty, not_false_eq_true, true_and]
      cases config.contexts contextName with
      | none => simp
      | some context =>
        dsimp only
        cases written : files.write (removeOrphanedClusterAndUser order (deleteContext config contextName) context.cluster
            context.authInfo) with
        | error err => simp [written]
        | ok content =>
          cases disk.writing with
          | none => simp [written]
          | some fault => simp

/-- A deletion is right exactly when it is refused, or the file can be written and has the
context under the very name under which it is stored. -/
theorem deleted_iff (roundTrip : RoundTrip files) (visited : ∀ key, entry.config.contexts key ≠ none → key ∈ order)
    (reported : Reported files state listing now cluster entry) (authorised : Bool) :
    Deleted files entry cluster.name state (deleteCluster files disk order authorised (requestFor cluster) state) ↔
      (authorised = true → entry.name = entry.key ∧ Writable files disk order entry) := by
  cases authorised with
  | false =>
    refine iff_of_true ?_ nofun
    exact ⟨nofun, nofun, nofun, fun _ => rfl⟩
  | true =>
    obtain ⟨loaded, source, is, found⟩ := reported.stored
    obtain ⟨data, there, loads⟩ := reported.file
    obtain ⟨context, present, -⟩ := Option.bind_eq_some_iff.mp is
    obtain ⟨name, -, -⟩ := reported_request reported
    rw [deleteCluster_reported reported, name]
    rw [name] at found
    constructor
    · intro deleted _
      cases err : (removeContextFromFile files disk order entry.name entry.path state.kubeconfigs).1 with
      | some message =>
        -- The context has left the store though the request has failed.
        have same := congrArg State.store (deleted.failed (by rw [err]; exact Option.some_ne_none _))
        have gone : state.store entry.name = none := by
          rw [← same]
          exact Function.update_self _ _ _
        rw [Store.get, gone] at found
        cases found
      | none =>
        obtain ⟨path, locks, writes, found, content, has, written, after⟩ :=
          (removeContextFromFile_ok there loads).mp (Prod.ext err rfl)
        obtain ⟨left, config, stored, reads, without⟩ := deleted.file err
        simp only [← after, Function.update_self, Option.some.injEq] at stored
        subst stored
        cases (roundTrip _ _ written).symm.trans reads
        have key : entry.name = entry.key := by
          by_contra different
          have kept := without.context
          rw [removeOrphanedClusterAndUser] at kept
          dsimp only at kept
          rw [deleteContext_other (Ne.symm different), present] at kept
          cases kept
        refine ⟨key, path, locks, writes, fun other isContext => ?_⟩
        rw [key] at has written
        cases has.symm.trans isContext
        exact ⟨content, written⟩
    · intro clean
      obtain ⟨key, path, locks, writes, writable⟩ := clean rfl
      obtain ⟨content, written⟩ := writable context present
      have removed : removeContextFromFile files disk order entry.name entry.path state.kubeconfigs =
          (none, Function.update state.kubeconfigs entry.path (some content)) :=
        (removeContextFromFile_ok there loads).mpr
          ⟨path, locks, writes, context, content, by rw [key, present], by rw [key, written], rfl⟩
      rw [removed]
      refine ⟨fun _ => ⟨content, _, Function.update_self _ _ _, roundTrip _ _ written, without_removed visited present⟩,
        fun _ other different => Function.update_of_ne different _ _,
        fun _ => ⟨Function.update_self _ _ _, fun other different => Function.update_of_ne different _ _⟩,
        fun failed => absurd rfl failed⟩

end

/-- Files that are kubeconfigs already. -/
private def configFiles : Files Config where
  decodeString _ := .error "no text"
  unmarshal _ := .error "no document"
  marshal _ := .error "no document"
  load config := .ok config
  setupProxy _ := .ok ()
  write config := .ok config
  loadMerged existing _ := .ok existing

private theorem configFiles_roundTrip : RoundTrip configFiles := by
  intro config data written
  cases written
  rfl

private def writableDisk : Disk Config := ⟨none, none, none, none⟩

/-- A kubeconfig with one context, which has the name. -/
private def oneContext (name : String) : Entry :=
  ⟨"config", ⟨fun key => if key = name then some ⟨"prod", "admin", none⟩ else none,
    fun key => if key = "prod" then some ⟨"https://prod", "", false, "", "", ""⟩ else none,
    fun key => if key = "admin" then some ⟨"", "", "", "", "secret", "", "", "", "", none, none⟩ else none⟩, name⟩

private def storedContext (friendly : String) : Context :=
  ⟨friendly, some ⟨"prod", "admin", none⟩, ⟨"https://prod", "", false, "", "", ""⟩,
    some ⟨"", "", "", "", "secret", "", "", "", "", none, none⟩, kubeConfigSource, false, "config", "config+" ++ friendly⟩

private def loadedState (name friendly : String) : State Config where
  kubeconfigs path := if path = "config" then some (oneContext name).config else none
  store := Store.empty.set friendly (storedContext friendly)

private def reportedCluster (friendly : String) : Cluster :=
  ⟨friendly, "https://prod", "kubeconfig", "config", friendly, "config+" ++ friendly⟩

private theorem oneContext_contexts (name : String) : (oneContext name).config.contexts name = some ⟨"prod", "admin", none⟩ := if_pos rfl

private theorem oneContext_name (name : String) : (oneContext name).name = makeDNSFriendly name := by
  rw [Entry.name, nameOf, customNameOf, show (oneContext name).key = name from rfl, oneContext_contexts]
  rfl

private theorem oneContext_visited (name key : String) (present : (oneContext name).config.contexts key ≠ none) : key ∈ [name] := by
  by_contra other
  exact present (if_neg fun same => other (List.mem_singleton.mpr same))

private theorem oneContext_reported {name friendly : String} (is : makeDNSFriendly name = friendly) :
    Reported configFiles (loadedState name friendly) [friendly] 0 (reportedCluster friendly) (oneContext name) := by
  have found : (loadedState name friendly).store.get friendly 0 = some (storedContext friendly) := by
    rw [loadedState, Store.get_set]
  have empty : Named Store.empty := by
    intro key value is
    cases is
  refine ⟨?_, ?_, ⟨storedContext friendly, kubeConfigSource, ?_, ?_⟩, ⟨(oneContext name).config, rfl, rfl⟩⟩
  · simp only [getClusters, Sync.getContexts, List.filterMap_cons, found]
    exact List.mem_singleton.mpr rfl
  · exact Sync.named_setWithTTL empty (storedContext friendly) friendly 0 0
  · rw [Entry.loaded, show (oneContext name).key = name from rfl, oneContext_contexts, is]
    rfl
  · rw [oneContext_name, is]
    exact found

theorem plain_name_deleted : Deleted configFiles (oneContext "prod") "prod" (loadedState "prod" "prod")
    (deleteCluster configFiles writableDisk ["prod"] true (requestFor (reportedCluster "prod")) (loadedState "prod" "prod")) := by
  apply (deleted_iff configFiles_roundTrip (oneContext_visited "prod") (oneContext_reported (by decide)) true).mpr
  intro _
  refine ⟨?_, by decide, rfl, rfl, fun context _ => ⟨_, rfl⟩⟩
  rw [oneContext_name]
  decide

/-- A context with a blank in its name leaves the store and stays in the file. -/
theorem blank_name_stays : ¬∀ (Bytes : Type) (files : Files Bytes) (disk : Disk Bytes) (order : List String) (state : State Bytes)
    (listing : List String) (now : Nat) (cluster : Cluster) (entry : Entry) (authorised : Bool), RoundTrip files →
      (∀ key, entry.config.contexts key ≠ none → key ∈ order) → Reported files state listing now cluster entry →
      Deleted files entry cluster.name state (deleteCluster files disk order authorised (requestFor cluster) state) := by
  intro every
  have reported : Reported configFiles (loadedState "my prod" "my__prod") ["my__prod"] 0 (reportedCluster "my__prod")
      (oneContext "my prod") := oneContext_reported (by decide)
  have deleted := every Config configFiles writableDisk ["my prod"] _ _ 0 _ _ true configFiles_roundTrip
    (oneContext_visited "my prod") reported
  have name := ((deleted_iff configFiles_roundTrip (oneContext_visited "my prod") reported true).mp deleted rfl).1
  rw [oneContext_name] at name
  exact absurd name (by decide)

end K8Sense.Kubeconfig.DeleteCluster
