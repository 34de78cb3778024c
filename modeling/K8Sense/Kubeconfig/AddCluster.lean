import K8Sense.Kubeconfig.Persist

/-! Adding the clusters of a kubeconfig to the store and to the file. -/

namespace K8Sense.Kubeconfig.AddCluster
open Cache (Store CacheValue)

structure ClusterReq where
  name : Option String
  server : Option String
  insecureSkipTLSVerify : Bool
  certificateAuthorityData : String
  kubeConfig : Option String

inductive SetupError where
  | text (err : String)
  | context (contextError : ContextLoadError)

structure State (Bytes : Type) where
  store : Store Context
  file : Option Bytes

/-- A panic ends the request without an answer. -/
inductive Answer where
  | created
  | failed (status : Nat) (text : String)
  | aborted
deriving DecidableEq

section
variable {Bytes : Type} (files : Files Bytes) (disk : Disk Bytes)

/-- The error, and what the file has afterwards. -/
def writeKubeConfig (kubeConfigBase64 : String) (file : Option Bytes) : Option String × Option Bytes :=
  match files.decodeString kubeConfigBase64 with
  | .error err => (some ("decoding kubeconfig: " ++ err), file)
  | .ok kubeConfigByte =>
    match files.load kubeConfigByte with
    | .error err => (some ("loading kubeconfig: " ++ err), file)
    | .ok config =>
      match disk.directory with
      | some err => (some ("getting default kubeconfig persistence dir: " ++ err), file)
      | none => writeToFile files disk config file

def handleLoadErrors (err : Option String) (contextLoadErrors : List ContextLoadError) : List SetupError :=
  (err.map SetupError.text).toList ++ contextLoadErrors.map SetupError.context

/-- The contexts and the errors, and what the file has afterwards. -/
def processKubeConfig (kubeConfig : String) (file : Option Bytes) :
    Option (List Context × List SetupError × Option Bytes) :=
  (loadContextsFromBase64String files.toPackages kubeConfig dynamicClusterSource).map fun loaded =>
    let (contexts, contextLoadErrors, err) :=
      match loaded with
      | .error err => ([], [], some err)
      | .ok (contexts, contextLoadErrors) => (contexts, contextLoadErrors, none)
    let setupErrors := handleLoadErrors err contextLoadErrors
    match contextLoadErrors with
    | [] =>
      let (writeErr, file) := writeKubeConfig files disk kubeConfig file
      (contexts, setupErrors ++ (writeErr.map SetupError.text).toList, file)
    | _ => (contexts, setupErrors, file)

def processManualConfig (clusterReq : ClusterReq) (name server : String) : List Context × List SetupError :=
  let cluster : Cluster := ⟨server, "", clusterReq.insecureSkipTLSVerify, "", clusterReq.certificateAuthorityData, ""⟩
  let conf : Config := {
    clusters := fun key => if key = name then some cluster else none
    contexts := fun key => if key = name then some ⟨name, "", none⟩ else none
    authInfos := fun _ => none }
  let (contexts, errs) := loadContextsFromAPIConfig files.setupProxy conf false [name]
  (contexts, errs.map SetupError.text)

def addContextsToStore : List Context → Store Context → List SetupError × Store Context
  | [], store => ([], store)
  | context :: rest, store =>
    match addContext { context with source := dynamicClusterSource } store with
    | .error err =>
      let (setupErrors, store) := addContextsToStore rest store
      (.text err :: setupErrors, store)
    | .ok store => addContextsToStore rest store

def processClusterRequest (clusterReq : ClusterReq) (file : Option Bytes) :
    Option (List Context × List SetupError × Option Bytes) :=
  match clusterReq.kubeConfig with
  | some kubeConfig => processKubeConfig files disk kubeConfig file
  | none =>
    let (contexts, setupErrors) := processManualConfig files clusterReq (clusterReq.name.getD "") (clusterReq.server.getD "")
    some (contexts, setupErrors, file)

def addCluster (authorised : Bool) (clusterReq : ClusterReq) (state : State Bytes) : Answer × State Bytes :=
  if authorised = false then (.failed 403 "access denied", state)
  else if clusterReq.kubeConfig = none ∧ (clusterReq.name = none ∨ clusterReq.server = none) then
    (.failed 400 "please provide a 'name' and 'server' fields at least", state)
  else
    match processClusterRequest files disk clusterReq state.file with
    | none => (.aborted, state)
    | some ([], _, file) => (.failed 400 "getting contexts from kubeconfig", { state with file })
    | some (contexts, setupErrors, file) =>
      let (more, store) := addContextsToStore contexts state.store
      match setupErrors ++ more with
      | [] => (.created, ⟨store, file⟩)
      | _ => (.failed 400 "setting up contexts from kubeconfig", ⟨store, file⟩)

/-- The rows under which the contexts are stored. -/
def added (contexts : List Context) : List (String × CacheValue Context) :=
  contexts.filterMap fun context => storedRow { context with source := dynamicClusterSource }

/-- After a success the file gives the next start the same clusters and users under the
added names, and a failure leaves everything as it was. -/
structure Kept (configFile : String) (kubeConfig : String) (before : State Bytes) (result : Answer × State Bytes) : Prop where
  durable : result.1 = .created → ∀ contexts errors,
    loadContextsFromBase64String files.toPackages kubeConfig dynamicClusterSource = some (.ok (contexts, errors)) →
      ∃ content again, result.2.file = some content ∧
        loadAndStoreKubeConfigs files configFile content dynamicClusterSource Store.empty = some again ∧
        ∀ name ∈ (added contexts).map Prod.fst, ∃ context reloaded, result.2.store name = some context ∧
          again name = some reloaded ∧ reloaded.value.cluster = context.value.cluster ∧
          reloaded.value.authInfo = context.value.authInfo
  unchanged : result.1 ≠ .created → result.2 = before

/-- What the file would be written with. -/
inductive Writes (kubeConfig : String) : Option Bytes → Bytes → Prop where
  | fresh {data content : Bytes} {config : Config} : files.decodeString kubeConfig = .ok data → files.load data = .ok config →
      disk.directory = none → disk.lock = none → files.write config = .ok content → Writes kubeConfig none content
  | merged {data part existing content : Bytes} {config merged : Config} : files.decodeString kubeConfig = .ok data →
      files.load data = .ok config → disk.directory = none → disk.lock = none → disk.temporary = none →
      files.write config = .ok part → files.loadMerged existing part = .ok merged → files.write merged = .ok content →
      Writes kubeConfig (some existing) content

/-- There are contexts, all of them load and can be stored, and the file can be
written. -/
structure Clean (kubeConfig : String) (file : Option Bytes) (contexts : List Context) : Prop where
  loads : loadContextsFromBase64String files.toPackages kubeConfig dynamicClusterSource = some (.ok (contexts, []))
  nonempty : contexts ≠ []
  named : ∀ context ∈ contexts, storedRow context ≠ none
  writes : ∃ content, Writes files disk kubeConfig file content
  written : disk.writing = none

/-- What the file says when a config is added to it. -/
inductive Adds (paths : Paths) (config : Config) : Option Bytes → Config → Prop where
  | fresh : Adds paths config none config
  | merged {existing : Bytes} {old : Config} : files.load existing = .ok old →
      Adds paths config (some existing) (mergedConfig paths old config)

/-- Under each added name the file has, as the last entry of that name, one with the
cluster and the user that the store gets. -/
def Agreeing (paths : Paths) (kubeConfig : String) (file : Option Bytes) (contexts : List Context) : Prop :=
  ∀ data config saved, files.decodeString kubeConfig = .ok data → files.load data = .ok config →
    Adds files paths config file saved → ∀ name context, Keyed.lookup name (added contexts).reverse = some context →
      ∃ key, LastStored saved name key ∧ clusterOf saved key = some context.value.cluster ∧
        authInfoOf saved key = context.value.authInfo

/-- A failure finds the contexts that load in the store already, and the file as it
would be written. -/
structure Idle (kubeConfig : String) (before : State Bytes) : Prop where
  store : ∀ contexts errors,
    loadContextsFromBase64String files.toPackages kubeConfig dynamicClusterSource = some (.ok (contexts, errors)) →
      ∀ name context, Keyed.lookup name (added contexts).reverse = some context → before.store name = some context
  file : (∀ contexts first more,
      loadContextsFromBase64String files.toPackages kubeConfig dynamicClusterSource ≠ some (.ok (contexts, first :: more))) →
    loadContextsFromBase64String files.toPackages kubeConfig dynamicClusterSource ≠ none →
      ∀ content, Writes files disk kubeConfig before.file content →
        before.file = match disk.writing with
          | some (_, left) => left
          | none => some content

end

section
variable {Bytes : Type} {files : Files Bytes} {disk : Disk Bytes} {kubeConfig : String}

theorem writeKubeConfig_writes {file : Option Bytes} {content : Bytes} (writes : Writes files disk kubeConfig file content) :
    writeKubeConfig files disk kubeConfig file =
      match disk.writing with
      | some (err, left) => (some err, left)
      | none => (none, some content) := by
  cases writes with
  | fresh decodes loads directory lock writes =>
    cases writing : disk.writing <;>
      simp only [writeKubeConfig, decodes, loads, directory, writeToFile, lock, writes, writing]
  | merged decodes loads directory lock temporary part merges writes =>
    cases writing : disk.writing <;>
      simp only [writeKubeConfig, decodes, loads, directory, writeToFile, lock, mergeWithExisting, temporary, part, merges,
        writes, writing]

theorem writeKubeConfig_fails {file : Option Bytes} (never : ∀ content, ¬Writes files disk kubeConfig file content) :
    ∃ err, writeKubeConfig files disk kubeConfig file = (some err, file) := by
  unfold writeKubeConfig
  cases decodes : files.decodeString kubeConfig with
  | error err => exact ⟨_, rfl⟩
  | ok data =>
    dsimp only
    cases loads : files.load data with
    | error err => exact ⟨_, rfl⟩
    | ok config =>
      dsimp only
      cases directory : disk.directory with
      | some err => exact ⟨_, rfl⟩
      | none =>
        dsimp only
        unfold writeToFile
        cases lock : disk.lock with
        | some err => exact ⟨_, rfl⟩
        | none =>
          cases file with
          | none =>
            dsimp only
            cases writes : files.write config with
            | error err => exact ⟨_, rfl⟩
            | ok content => exact absurd (.fresh decodes loads directory lock writes) (never content)
          | some existing =>
            dsimp only
            unfold mergeWithExisting
            cases temporary : disk.temporary with
            | some err => exact ⟨_, rfl⟩
            | none =>
              dsimp only
              cases part : files.write config with
              | error err => exact ⟨_, rfl⟩
              | ok data =>
                dsimp only
                cases merges : files.loadMerged existing data with
                | error err => exact ⟨_, rfl⟩
                | ok merged =>
                  dsimp only
                  cases writes : files.write merged with
                  | error err => exact ⟨_, rfl⟩
                  | ok content =>
                    exact absurd (.merged decodes loads directory lock temporary part merges writes) (never content)

theorem storedRow_source (context : Context) :
    storedRow { context with source := dynamicClusterSource } = none ↔ storedRow context = none := by
  simp [storedRow, Context.storedName]

theorem addContextsToStore_store (contexts : List Context) (store : Store Context) :
    (addContextsToStore contexts store).2 = Keyed.writeAll (added contexts) store := by
  induction contexts generalizing store with
  | nil => rfl
  | cons context rest ih =>
    rw [addContextsToStore, added, List.filterMap_cons]
    cases named : ({ context with source := dynamicClusterSource } : Context).storedName with
    | error err =>
      have row : storedRow { context with source := dynamicClusterSource } = none := by rw [storedRow, named]; rfl
      rw [row]
      simp only [addContext, named]
      exact ih store
    | ok name =>
      have row : storedRow { context with source := dynamicClusterSource } =
          some (name, ⟨{ context with source := dynamicClusterSource, name }, none⟩) := by rw [storedRow, named]; rfl
      rw [row]
      simp only [addContext, named]
      exact ih _

theorem addContextsToStore_errors (contexts : List Context) (store : Store Context) :
    (addContextsToStore contexts store).1 = [] ↔ ∀ context ∈ contexts, storedRow context ≠ none := by
  induction contexts generalizing store with
  | nil => simp [addContextsToStore]
  | cons context rest ih =>
    rw [addContextsToStore, List.forall_mem_cons, ne_eq, ← storedRow_source context]
    cases named : ({ context with source := dynamicClusterSource } : Context).storedName with
    | error err => simp [addContext, storedRow, named, Except.toOption]
    | ok name => simp [addContext, storedRow, named, Except.toOption, ih]

theorem addCluster_processed {clusterReq : ClusterReq} {state : State Bytes} (carries : clusterReq.kubeConfig = some kubeConfig)
    {contexts : List Context} {setupErrors : List SetupError} {file : Option Bytes}
    (processed : processKubeConfig files disk kubeConfig state.file = some (contexts, setupErrors, file)) :
    (addCluster files disk true clusterReq state).2 = ⟨Keyed.writeAll (added contexts) state.store, file⟩ ∧
      ((addCluster files disk true clusterReq state).1 = .created ↔
        contexts ≠ [] ∧ setupErrors = [] ∧ ∀ context ∈ contexts, storedRow context ≠ none) := by
  have request : ¬(clusterReq.kubeConfig = none ∧ (clusterReq.name = none ∨ clusterReq.server = none)) := by
    rw [carries]
    exact fun missing => absurd missing.1 (Option.some_ne_none _)
  have same : processClusterRequest files disk clusterReq state.file = some (contexts, setupErrors, file) := by
    rw [processClusterRequest, carries]
    exact processed
  rw [addCluster, if_neg (by decide), if_neg request, same]
  cases contexts with
  | nil => exact ⟨rfl, by simp⟩
  | cons first rest =>
    have store := addContextsToStore_store (first :: rest) state.store
    have errors := addContextsToStore_errors (first :: rest) state.store
    dsimp only
    cases all : setupErrors ++ (addContextsToStore (first :: rest) state.store).1 with
    | nil =>
      obtain ⟨none, clean⟩ := List.append_eq_nil_iff.mp all
      exact ⟨by rw [store], iff_of_true rfl ⟨List.cons_ne_nil _ _, none, errors.mp clean⟩⟩
    | cons err more =>
      refine ⟨by rw [store], iff_of_false (by simp) ?_⟩
      rintro ⟨-, rfl, named⟩
      rw [List.nil_append, errors.mpr named] at all
      cases all

theorem writeKubeConfig_unchanged {file : Option Bytes} : (writeKubeConfig files disk kubeConfig file).2 = file ↔
    ∀ content, Writes files disk kubeConfig file content →
      file = match disk.writing with
        | some (_, left) => left
        | none => some content := by
  by_cases never : ∀ content, ¬Writes files disk kubeConfig file content
  · obtain ⟨err, fails⟩ := writeKubeConfig_fails never
    rw [fails]
    exact iff_of_true rfl fun content writes => absurd writes (never content)
  · simp only [not_forall, not_not] at never
    obtain ⟨content, writes⟩ := never
    have all : ∀ other, Writes files disk kubeConfig file other → writeKubeConfig files disk kubeConfig file = _ :=
      fun other writes => writeKubeConfig_writes writes
    constructor
    · intro same other is
      rw [all other is] at same
      cases fault : disk.writing with
      | none =>
        rw [fault] at same
        exact same.symm
      | some pair =>
        rw [fault] at same
        exact same.symm
    · intro each
      rw [all content writes, each content writes]
      cases disk.writing <;> rfl

theorem writeAll_unchanged {rows : List (String × CacheValue Context)} {store : Store Context} :
    Keyed.writeAll rows store = store ↔
      ∀ name value, Keyed.lookup name rows.reverse = some value → store name = some value := by
  constructor
  · intro same name value found
    rw [← same, Keyed.writeAll_apply, found]
    rfl
  · intro each
    funext name
    rw [Keyed.writeAll_apply]
    cases found : Keyed.lookup name rows.reverse with
    | none => rfl
    | some value => exact (each name value found).symm

theorem processKubeConfig_error (disk : Disk Bytes) (file : Option Bytes) {err : String}
    (loads : loadContextsFromBase64String files.toPackages kubeConfig dynamicClusterSource = some (.error err)) :
    ∃ setupErrors, processKubeConfig files disk kubeConfig file =
      some ([], setupErrors, (writeKubeConfig files disk kubeConfig file).2) := by
  rw [processKubeConfig, loads]
  exact ⟨_, rfl⟩

theorem processKubeConfig_partial (disk : Disk Bytes) (file : Option Bytes) {contexts : List Context} {first : ContextLoadError}
    {more : List ContextLoadError}
    (loads : loadContextsFromBase64String files.toPackages kubeConfig dynamicClusterSource = some (.ok (contexts, first :: more))) :
    processKubeConfig files disk kubeConfig file = some (contexts, (first :: more).map SetupError.context, file) := by
  rw [processKubeConfig, loads]
  rfl

theorem processKubeConfig_full (disk : Disk Bytes) (file : Option Bytes) {contexts : List Context}
    (loads : loadContextsFromBase64String files.toPackages kubeConfig dynamicClusterSource = some (.ok (contexts, []))) :
    processKubeConfig files disk kubeConfig file = some (contexts,
      ((writeKubeConfig files disk kubeConfig file).1.map SetupError.text).toList,
      (writeKubeConfig files disk kubeConfig file).2) := by
  rw [processKubeConfig, loads]
  rfl

theorem writeKubeConfig_succeeds {file : Option Bytes} : (writeKubeConfig files disk kubeConfig file).1 = none ↔
    (∃ content, Writes files disk kubeConfig file content) ∧ disk.writing = none := by
  by_cases never : ∀ content, ¬Writes files disk kubeConfig file content
  · obtain ⟨err, fails⟩ := writeKubeConfig_fails never
    rw [fails]
    exact iff_of_false (Option.some_ne_none _) fun ⟨⟨content, writes⟩, _⟩ => never content writes
  · simp only [not_forall, not_not] at never
    obtain ⟨content, writes⟩ := never
    rw [writeKubeConfig_writes writes]
    cases disk.writing with
    | none => exact iff_of_true rfl ⟨⟨content, writes⟩, rfl⟩
    | some pair => exact iff_of_false (Option.some_ne_none _) fun both => Option.some_ne_none _ both.2

variable {paths : Paths} {clusterReq : ClusterReq} {state : State Bytes} {configFile : String}

theorem writes_saved (documented : Documented files paths) {contexts : List Context} {errors : List ContextLoadError}
    (read : loadContextsFromBase64String files.toPackages kubeConfig dynamicClusterSource = some (.ok (contexts, errors)))
    (some : contexts ≠ []) {file : Option Bytes} {content : Bytes} (writes : Writes files disk kubeConfig file content) :
    ∃ data config saved, files.decodeString kubeConfig = .ok data ∧ files.load data = .ok config ∧
      Adds files paths config file saved ∧ files.write saved = .ok content ∧ ∃ key, saved.contexts key ≠ none := by
  cases writes with
  | fresh decodes loads _ _ writes =>
    exact ⟨_, _, _, decodes, loads, .fresh, writes, load_nonempty documented decodes loads read some⟩
  | merged decodes loads _ _ _ part merges writes =>
    obtain ⟨key, has⟩ := load_nonempty documented decodes loads read some
    obtain ⟨old, new, older, newer, rfl⟩ := documented.merged _ _ _ merges
    obtain ⟨_, _, _, again, _⟩ := documented.written _ _ part ⟨key, has⟩
    cases newer.symm.trans again
    refine ⟨_, _, _, decodes, loads, .merged older, writes, key, ?_⟩
    intro missing
    exact has (Option.or_eq_none_iff.mp missing).2

theorem adds_unique {config saved other : Config} {file : Option Bytes} (first : Adds files paths config file saved)
    (second : Adds files paths config file other) : other = saved := by
  cases first with
  | fresh =>
    cases second
    rfl
  | merged loads =>
    cases second with
    | merged again =>
      cases loads.symm.trans again
      rfl

theorem added_name {contexts : List Context} {name : String} :
    name ∈ (added contexts).map Prod.fst ↔ ∃ value, Keyed.lookup name (added contexts).reverse = some value := by
  rw [← Option.ne_none_iff_exists', ne_eq, Keyed.lookup_none]
  simp

theorem durable_iff (documented : Documented files paths) (carries : clusterReq.kubeConfig = some kubeConfig) {contexts : List Context}
    (clean : Clean files disk kubeConfig state.file contexts) :
    Kept files configFile kubeConfig state (addCluster files disk true clusterReq state) ↔
      Agreeing files paths kubeConfig state.file contexts := by
  obtain ⟨content, writes⟩ := clean.writes
  obtain ⟨data, config, saved, decodes, loads, adds, written, nonempty⟩ :=
    writes_saved documented clean.loads clean.nonempty writes
  obtain ⟨again, reloads, holds⟩ := reload_written documented written nonempty configFile
  have wrote := writeKubeConfig_writes writes
  rw [clean.written] at wrote
  have processed := processKubeConfig_full disk state.file clean.loads
  rw [wrote] at processed
  obtain ⟨after, answer⟩ := addCluster_processed carries processed
  have created : (addCluster files disk true clusterReq state).1 = .created := answer.mpr ⟨clean.nonempty, rfl, clean.named⟩
  have stored {name : String} {value : CacheValue Context} (found : Keyed.lookup name (added contexts).reverse = some value) :
      Keyed.writeAll (added contexts) state.store name = some value := by
    rw [Keyed.writeAll_apply, found]
    rfl
  constructor
  · intro kept data' config' saved' decodes' loads' adds' name value found
    cases decodes.symm.trans decodes'
    cases loads.symm.trans loads'
    cases adds_unique adds adds'
    obtain ⟨content', again', file, reloads', durable⟩ := kept.durable created contexts [] clean.loads
    rw [after] at file durable
    cases file
    cases reloads.symm.trans reloads'
    obtain ⟨context, reloaded, here, there, cluster, user⟩ := durable name (added_name.mpr ⟨value, found⟩)
    cases here.symm.trans (stored found)
    obtain ⟨key, entry, last, is, rfl⟩ := (holds name reloaded).mp there
    obtain ⟨server, credentials⟩ := usable_parts is
    exact ⟨key, last, server.trans (congrArg some cluster), credentials.trans user⟩
  · intro agreeing
    refine ⟨?_, fun failed => absurd created failed⟩
    intro _ contexts' errors read
    cases clean.loads.symm.trans read
    refine ⟨content, again, by rw [after], reloads, fun name member => ?_⟩
    obtain ⟨value, found⟩ := added_name.mp member
    obtain ⟨key, last, cluster, user⟩ := agreeing data config saved decodes loads adds name value found
    obtain ⟨entry, is, _⟩ := Option.bind_eq_some_iff.mp last.stored
    obtain ⟨server, credentials⟩ := usable_parts is
    refine ⟨value, storedValue configFile name entry, by rw [after]; exact stored found,
      (holds name _).mpr ⟨key, entry, last, is, rfl⟩, ?_, ?_⟩
    · exact Option.some.inj (server.symm.trans cluster)
    · exact credentials.symm.trans user

/-- A failure that gets to the file or the store leaves both alone exactly when there
was nothing to change. -/
theorem unchanged_iff {contexts : List Context} {file : Option Bytes}
    (after : (addCluster files disk true clusterReq state).2 = ⟨Keyed.writeAll (added contexts) state.store, file⟩)
    (failed : (addCluster files disk true clusterReq state).1 ≠ .created) :
    Kept files configFile kubeConfig state (addCluster files disk true clusterReq state) ↔
      (∀ name value, Keyed.lookup name (added contexts).reverse = some value → state.store name = some value) ∧
        file = state.file := by
  rw [← writeAll_unchanged]
  constructor
  · intro kept
    have same := kept.unchanged failed
    rw [after] at same
    exact ⟨congrArg State.store same, congrArg State.file same⟩
  · intro ⟨store, same⟩
    refine ⟨fun created => absurd created failed, fun _ => ?_⟩
    rw [after, store, same]

theorem idle_iff {contexts : List Context} {errors : List ContextLoadError}
    (read : loadContextsFromBase64String files.toPackages kubeConfig dynamicClusterSource = some (.ok (contexts, errors))) :
    Idle files disk kubeConfig state ↔
      (∀ name value, Keyed.lookup name (added contexts).reverse = some value → state.store name = some value) ∧
        (errors = [] → (writeKubeConfig files disk kubeConfig state.file).2 = state.file) := by
  rw [writeKubeConfig_unchanged]
  constructor
  · intro idle
    refine ⟨idle.store contexts errors read, ?_⟩
    rintro rfl
    apply idle.file
    · intro contexts first more partly
      cases read.symm.trans partly
    · rw [read]
      exact Option.some_ne_none _
  · intro ⟨store, file⟩
    refine ⟨?_, fun whole _ => ?_⟩
    · intro contexts' errors' again
      cases read.symm.trans again
      exact store
    · cases errors with
      | nil => exact file rfl
      | cons first more => exact absurd read (whole contexts first more)

theorem kept_failed (carries : clusterReq.kubeConfig = some kubeConfig)
    (unclean : ¬∃ contexts, Clean files disk kubeConfig state.file contexts) :
    Kept files configFile kubeConfig state (addCluster files disk true clusterReq state) ↔
      Idle files disk kubeConfig state := by
  cases read : loadContextsFromBase64String files.toPackages kubeConfig dynamicClusterSource with
  | none =>
    have nothing : addCluster files disk true clusterReq state = (.aborted, state) := by
      have request : ¬(clusterReq.kubeConfig = none ∧ (clusterReq.name = none ∨ clusterReq.server = none)) := by
        rw [carries]
        exact fun missing => absurd missing.1 (Option.some_ne_none _)
      rw [addCluster, if_neg (by decide), if_neg request, processClusterRequest, carries]
      dsimp only
      rw [processKubeConfig, read]
      rfl
    rw [nothing]
    refine iff_of_true ⟨nofun, fun _ => rfl⟩ ⟨?_, fun _ some => absurd read some⟩
    intro contexts errors is
    cases read.symm.trans is
  | some loaded =>
    cases loaded with
    | error err =>
      obtain ⟨setupErrors, processed⟩ := processKubeConfig_error disk state.file read
      obtain ⟨after, answer⟩ := addCluster_processed carries processed
      rw [unchanged_iff after fun created => (answer.mp created).1 rfl, writeKubeConfig_unchanged]
      constructor
      · intro ⟨_, file⟩
        refine ⟨?_, fun _ _ => file⟩
        intro contexts errors is
        cases read.symm.trans is
      · intro idle
        refine ⟨fun _ _ found => absurd found (Option.some_ne_none _).symm, idle.file ?_ ?_⟩
        · intro contexts first more is
          cases read.symm.trans is
        · rw [read]
          exact Option.some_ne_none _
    | ok found =>
      obtain ⟨contexts, errors⟩ := found
      rw [idle_iff read]
      cases errors with
      | cons first more =>
        have processed := processKubeConfig_partial disk state.file read
        obtain ⟨after, answer⟩ := addCluster_processed carries processed
        rw [unchanged_iff after fun created => absurd (answer.mp created).2.1 (List.cons_ne_nil _ _)]
        exact and_congr_right fun _ => iff_of_true rfl nofun
      | nil =>
        have processed := processKubeConfig_full disk state.file read
        obtain ⟨after, answer⟩ := addCluster_processed carries processed
        have failed : (addCluster files disk true clusterReq state).1 ≠ .created := by
          intro created
          obtain ⟨nonempty, clean, named⟩ := answer.mp created
          have wrote : (writeKubeConfig files disk kubeConfig state.file).1 = none := by simpa using clean
          obtain ⟨writes, written⟩ := writeKubeConfig_succeeds.mp wrote
          exact unclean ⟨contexts, read, nonempty, named, writes, written⟩
        rw [unchanged_iff after failed]
        exact and_congr_right fun _ => ⟨fun same _ => same, fun same => same rfl⟩

end

/-- A request keeps the store and the file in step exactly when, with nothing wrong, the
file comes to agree with the store, and, otherwise, there is nothing to change. -/
theorem kept_iff {Bytes : Type} {files : Files Bytes} {paths : Paths} {disk : Disk Bytes} {configFile kubeConfig : String}
    {authorised : Bool} {clusterReq : ClusterReq} {state : State Bytes} (documented : Documented files paths)
    (carries : clusterReq.kubeConfig = some kubeConfig) :
    Kept files configFile kubeConfig state (addCluster files disk authorised clusterReq state) ↔ (authorised = true →
      (∀ contexts, Clean files disk kubeConfig state.file contexts → Agreeing files paths kubeConfig state.file contexts) ∧
        ((¬∃ contexts, Clean files disk kubeConfig state.file contexts) → Idle files disk kubeConfig state)) := by
  cases authorised with
  | false =>
    have denied : addCluster files disk false clusterReq state = (.failed 403 "access denied", state) := rfl
    rw [denied]
    exact iff_of_true ⟨nofun, fun _ => rfl⟩ nofun
  | true =>
    by_cases clean : ∃ contexts, Clean files disk kubeConfig state.file contexts
    · obtain ⟨contexts, clean⟩ := clean
      rw [durable_iff documented carries clean]
      constructor
      · intro agreeing _
        refine ⟨fun others again => ?_, fun never => absurd ⟨contexts, clean⟩ never⟩
        cases clean.loads.symm.trans again.loads
        exact agreeing
      · exact fun holds => (holds rfl).1 contexts clean
    · rw [kept_failed carries clean]
      exact ⟨fun idle _ => ⟨fun contexts is => absurd ⟨contexts, is⟩ clean, fun _ => idle⟩, fun holds => (holds rfl).2 clean⟩

open Classical in
/-- Files with kubeconfigs that differ in the token only. -/
private noncomputable def tokenFiles : Files String where
  toPackages := tokenPackages
  write config :=
    match config.authInfos "admin" with
    | some user => if config = tokenConfig user.token then .ok user.token else .error "another kubeconfig"
    | none => .error "no token"
  loadMerged existing _ := .ok (tokenConfig existing)

private def samePaths : Paths := ⟨id, id⟩

private theorem tokenFiles_write (token : String) : tokenFiles.write (tokenConfig token) = .ok token := if_pos rfl

private theorem tokenFiles_written {config : Config} {data : String} (writes : tokenFiles.write config = .ok data) :
    config = tokenConfig data := by
  simp only [tokenFiles] at writes
  split at writes
  next user _ =>
    split at writes
    next same =>
      cases writes
      exact same
    next => cases writes
  next => cases writes

private theorem getEntry_singleton {field name entryName : String} {document : Document} {entry : Yaml} {rows : Fields}
    (found : Keyed.lookup field document = some (.items [entry])) (is : entry = .fields rows)
    (named : Fields.get "name" rows = some (.text entryName)) :
    (∃ rows, getEntry field document name = .ok rows) ↔ entryName = name := by
  subst is
  by_cases same : entryName = name <;> simp [getEntry, found, Yaml.named, named, same]

private theorem tokenFiles_documented : Documented tokenFiles samePaths := by
  refine ⟨?_, ?_, ?_⟩
  · intro data document config rawContexts rawContext contextMap contextName clusterName userName unmarshals loads found member
      info names
    cases unmarshals
    cases loads
    cases found
    rw [List.mem_singleton] at member
    subst member
    cases info
    cases names
    exact ⟨data, tokenConfig data, rfl, rfl, rfl, fun _ => rfl, fun _ => rfl⟩
  · intro config data writes _
    obtain rfl := tokenFiles_written writes
    refine ⟨tokenDocument data, ["prod"], rfl, rfl, List.pairwise_singleton _ _, ?_, ?_, ?_, ?_⟩
    · intro key
      by_cases same : key = "prod" <;> simp [tokenConfig, same]
    · exact ⟨_, rfl, .cons ⟨_, _, rfl, rfl, rfl⟩ .nil⟩
    · intro name
      rw [getCluster, getEntry_singleton rfl rfl rfl]
      by_cases same : name = "prod" <;> simp [tokenConfig, same, eq_comm]
    · intro name
      rw [getUser, getEntry_singleton rfl rfl rfl]
      by_cases same : name = "admin" <;> simp [tokenConfig, same, eq_comm]
  · intro existing data config merges
    cases merges
    refine ⟨tokenConfig existing, tokenConfig data, rfl, rfl, ?_⟩
    simp only [tokenConfig, mergedConfig, samePaths, Config.mk.injEq]
    refine ⟨?_, ?_, ?_⟩
    all_goals
      funext key
      split <;> rfl

private def noFaults : Disk String := ⟨none, none, none, none⟩

private def addToken (token : String) : ClusterReq := ⟨none, none, false, "", some token⟩

private theorem tokenFiles_read (token : String) :
    loadContextsFromBase64String tokenFiles.toPackages token dynamicClusterSource =
      some (.ok ((usable (tokenConfig token) "prod").toList, [])) := rfl

private theorem tokenFiles_clean {token : String} {file : Option String} :
    Clean tokenFiles noFaults token file (usable (tokenConfig token) "prod").toList := by
  refine ⟨tokenFiles_read token, List.cons_ne_nil _ _, ?_, ?_, rfl⟩
  · intro context member
    rw [List.mem_singleton.mp member]
    exact Option.some_ne_none _
  · cases file with
    | none => exact ⟨token, .fresh rfl rfl rfl rfl (tokenFiles_write token)⟩
    | some existing =>
      exact ⟨existing, .merged rfl rfl rfl rfl rfl (tokenFiles_write token) rfl (tokenFiles_write existing)⟩

private def staging : Context :=
  ⟨"staging", none, ⟨"https://staging", "", false, "", "", ""⟩, none, kubeConfigSource, false, "", "staging"⟩

/-- A cluster that the file has already is added again, beside another one in the store. -/
theorem known_cluster_kept : Kept tokenFiles "config" "new" ⟨Store.empty.set "staging" staging, some "new"⟩
    (addCluster tokenFiles noFaults true (addToken "new") ⟨Store.empty.set "staging" staging, some "new"⟩) := by
  apply (kept_iff tokenFiles_documented rfl).mpr
  intro _
  refine ⟨?_, fun never => absurd ⟨_, tokenFiles_clean⟩ never⟩
  intro contexts clean data config saved decodes loads adds name context found
  cases (tokenFiles_read "new").symm.trans clean.loads
  cases decodes
  cases loads
  cases adds with
  | merged known =>
    cases known
    have row : ∃ value, added (usable (tokenConfig "new") "prod").toList = [("prod", value)] ∧
        clusterOf (mergedConfig samePaths (tokenConfig "new") (tokenConfig "new")) "prod" = some value.value.cluster ∧
        authInfoOf (mergedConfig samePaths (tokenConfig "new") (tokenConfig "new")) "prod" = value.value.authInfo := ⟨_, rfl, rfl, rfl⟩
    obtain ⟨value, rows, cluster, user⟩ := row
    rw [rows, List.reverse_singleton, Keyed.lookup_cons] at found
    split at found
    next same =>
      cases found
      subst same
      refine ⟨"prod", ⟨rfl, fun other under => ?_⟩, cluster, user⟩
      by_cases here : other = "prod"
      · exact here.le
      · simp [storedAs, usable, mergedConfig, tokenConfig, here] at under
    next => cases found

/-- The file keeps the user that it has under the name. -/
theorem known_user_lost : ¬∀ (Bytes : Type) (files : Files Bytes) (paths : Paths) (disk : Disk Bytes)
    (configFile kubeConfig : String) (authorised : Bool) (clusterReq : ClusterReq) (state : State Bytes),
    Documented files paths → clusterReq.kubeConfig = some kubeConfig →
      Kept files configFile kubeConfig state (addCluster files disk authorised clusterReq state) := by
  intro kept
  have agreeing := (durable_iff tokenFiles_documented rfl tokenFiles_clean).mp
    (kept String tokenFiles samePaths noFaults "config" "new" true (addToken "new") ⟨Store.empty, some "old"⟩
      tokenFiles_documented rfl)
  obtain ⟨key, -, -, user⟩ := agreeing "new" (tokenConfig "new") (mergedConfig samePaths (tokenConfig "old") (tokenConfig "new"))
    rfl rfl (.merged rfl) "prod" _ rfl
  have token := congrArg (Option.map AuthInfo.token) user
  by_cases here : key = "prod"
  · subst here
    revert token
    decide
  · simp [authInfoOf, mergedConfig, tokenConfig, here] at user

end K8Sense.Kubeconfig.AddCluster
