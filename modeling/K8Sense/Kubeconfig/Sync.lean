import K8Sense.Kubeconfig.Persist
import K8Sense.Library.Transition

/-! Watching the kubeconfig files. When they change, the contexts of the store that came
from them are compared by name with those that are read, and what is read is stored. -/

namespace K8Sense.Kubeconfig.Sync
open Cache (Store CacheValue)
open Transition

variable {Bytes : Type}

def splitKubeConfigPath (windows : Bool) (path : String) : List String := Text.split (if windows then ';' else ':') path

/-- Nothing where it panics. -/
def loadContextsFromMultipleFiles (files : Files Bytes) (disk : String → Option Bytes) (source : Nat) :
    List String → Option (Except String (List Context × List ContextLoadError))
  | [] => some (.ok ([], []))
  | kubeConfigPath :: rest =>
    match disk kubeConfigPath with
    | none => some (.error ("error reading kubeconfig file: open " ++ kubeConfigPath))
    | some data =>
      match loadContextsFromFile files kubeConfigPath data source with
      | none => none
      | some (.error err) => some (.error err)
      | some (.ok (contexts, contextErrors)) =>
        (loadContextsFromMultipleFiles files disk source rest).map fun loaded =>
          match loaded with
          | .error err => .error err
          | .ok (others, errors) => .ok (contexts ++ others, contextErrors ++ errors)

/-- Add the contexts that are not skipped, with the errors. -/
def storeContexts (ignoreFunc : Context → Bool) : List Context → Store Context → List String × Store Context
  | [], store => ([], store)
  | context :: rest, store =>
    if ignoreFunc context then storeContexts ignoreFunc rest store
    else match addContext context store with
      | .error err => let (errs, store) := storeContexts ignoreFunc rest store; (err :: errs, store)
      | .ok store => storeContexts ignoreFunc rest store

inductive Fault where
  | files (err : String)
  | contexts (errs : List String) (contextErrors : List ContextLoadError)

/-- The error, if there is one, and the store. -/
def loadAndStoreKubeConfigs (files : Files Bytes) (disk : String → Option Bytes) (kubeConfigs : List String) (source : Nat)
    (ignoreFunc : Context → Bool) (store : Store Context) : Option (Option Fault × Store Context) :=
  (loadContextsFromMultipleFiles files disk source kubeConfigs).map fun loaded =>
    match loaded with
    | .error err => (some (.files ("error loading kubeconfig files: " ++ err)), store)
    | .ok (kubeConfigContexts, contextErrors) =>
      match storeContexts ignoreFunc kubeConfigContexts store, contextErrors with
      | ([], store), [] => (none, store)
      | (errs, store), contextErrors => (some (.contexts errs contextErrors), store)

/-- The contexts that have not expired, in the order in which the map of the store is
gone through. -/
def getContexts (listing : List String) (now : Nat) (store : Store Context) : List Context :=
  listing.filterMap fun key => store.get key now

/-- Remove the contexts from kubeconfigs that have the name of none that is read. -/
def removeMissing (newContexts : List Context) : List Context → Store Context → Store Context
  | [], store => store
  | existingCtx :: rest, store =>
    if existingCtx.source ≠ kubeConfigSource then removeMissing newContexts rest store
    else if newContexts.any fun newCtx => existingCtx.name = newCtx.name then removeMissing newContexts rest store
    else removeMissing newContexts rest (removeContext existingCtx.name store)

def syncContexts (files : Files Bytes) (disk : String → Option Bytes) (paths : List String) (source : Nat)
    (ignoreFunc : Context → Bool) (listing : List String) (now : Nat) (store : Store Context) :
    Option (Option Fault × Store Context) :=
  match loadContextsFromMultipleFiles files disk source paths with
  | none => none
  | some (.error err) => some (some (.files ("error reading kubeconfig files: " ++ err)), store)
  | some (.ok (newContexts, _)) =>
    loadAndStoreKubeConfigs files disk paths source ignoreFunc (removeMissing newContexts (getContexts listing now store) store)

/-! Runs. -/

/-- What becomes of the files and of the store: an edit, the methods of the store as
others call them, and the two ways in which the watcher reads the files. -/
inductive Event (Bytes : Type) where
  | edit (path : String) (content : Option Bytes)
  | addContext (headlampContext : Context)
  | addContextWithKeyAndTTL (headlampContext : Context) (key : String) (ttl now : Nat)
  | updateTTL (key : String) (ttl now : Nat)
  | removeContext (name : String)
  | load
  | sync (listing : List String) (now : Nat)

structure State (Bytes : Type) where
  disk : String → Option Bytes
  store : Store Context

/-- How the watcher has been started. -/
structure Watcher (Bytes : Type) where
  files : Files Bytes
  windows : Bool
  kubeConfigs : String
  ignoreFunc : Context → Bool

def Watcher.paths (watcher : Watcher Bytes) : List String := splitKubeConfigPath watcher.windows watcher.kubeConfigs

def Watcher.sync (watcher : Watcher Bytes) (listing : List String) (now : Nat) (state : State Bytes) :
    Option (Option Fault × Store Context) :=
  syncContexts watcher.files state.disk watcher.paths kubeConfigSource watcher.ignoreFunc listing now state.store

def step (watcher : Watcher Bytes) (state : State Bytes) : Event Bytes → Option (State Bytes)
  | .edit path content => some { state with disk := Function.update state.disk path content }
  | .addContext headlampContext => some { state with store := (addContext headlampContext state.store).toOption.getD state.store }
  | .addContextWithKeyAndTTL headlampContext key ttl now =>
    some { state with store := addContextWithKeyAndTTL headlampContext key ttl now state.store }
  | .updateTTL key ttl now => some { state with store := (state.store.updateTTL key ttl now).toOption.getD state.store }
  | .removeContext name => some { state with store := removeContext name state.store }
  | .load =>
    (loadAndStoreKubeConfigs watcher.files state.disk watcher.paths kubeConfigSource watcher.ignoreFunc state.store).map
      fun (_, store) => { state with store }
  | .sync listing now => (watcher.sync listing now state).map fun (_, store) => { state with store }

/-! What the files have. -/

structure Entry where
  path : String
  config : Config
  key : String

namespace Entry

/-- The custom name, or else the DNS-friendly name. -/
def name (entry : Entry) : String := nameOf entry.config entry.key

/-- The context that is read for the entry, where it has a cluster. -/
def loaded (entry : Entry) : Option Context :=
  (entry.config.contexts entry.key).bind fun context =>
    (entry.config.clusters context.cluster).map fun cluster =>
      placedAt entry.path ⟨makeDNSFriendly entry.key, some context, cluster, entry.config.authInfos context.authInfo,
        kubeConfigSource, false, "", ""⟩

end Entry

/-- The files with the kubeconfigs that they are. -/
abbrev Contents := List (String × Config)

def Contents.Has (contents : Contents) (entry : Entry) : Prop :=
  (entry.path, entry.config) ∈ contents ∧ entry.config.contexts entry.key ≠ none

structure Watcher.Reads (watcher : Watcher Bytes) (disk : String → Option Bytes) (contents : Contents) : Prop where
  paths : contents.map Prod.fst = watcher.paths
  loads : ∀ path config, (path, config) ∈ contents → ∃ data, disk path = some data ∧ watcher.files.load data = .ok config

/-- The entry is in the files and its context is not skipped. -/
def Watcher.Wanted (watcher : Watcher Bytes) (contents : Contents) (entry : Entry) : Prop :=
  contents.Has entry ∧ ∀ context, entry.loaded = some context → watcher.ignoreFunc context = false

structure Converged (watcher : Watcher Bytes) (contents : Contents) (now : Nat) (before after : Store Context) : Prop where
  exact : ∀ name, (∃ context, after.get name now = some context ∧ context.source = kubeConfigSource) ↔
    ∃ entry, watcher.Wanted contents entry ∧ entry.name = name
  current : ∀ entry, watcher.Wanted contents entry → ∃ context, after.get entry.name now = some context ∧
    context.name = entry.name ∧ clusterOf entry.config entry.key = some context.cluster ∧
      authInfoOf entry.config entry.key = context.authInfo
  untouched : ∀ name context, before.get name now = some context → context.source ≠ kubeConfigSource →
    (∀ entry, watcher.Wanted contents entry → entry.name ≠ name) → after name = before name

/-- The sync succeeds, and no two contexts in the files have the same name. -/
structure Watcher.Succeeds (watcher : Watcher Bytes) (state : State Bytes) (listing : List String) (now : Nat)
    (contents : Contents) (after : Store Context) : Prop where
  listed : listing.Nodup ∧ ∀ key, key ∈ listing ↔ state.store.get key now ≠ none
  synced : watcher.sync listing now state = some (none, after)
  reads : watcher.Reads state.disk contents
  distinct : ∀ entry other, contents.Has entry → contents.Has other → entry.name = other.name → entry = other

def Converges (watcher : Watcher Bytes) (state : State Bytes) : Event Bytes → Prop
  | .sync listing now => ∀ contents after, watcher.Succeeds state listing now contents after →
    Converged watcher contents now state.store after
  | _ => True

/-- No context from a kubeconfig is stored under the DNS-friendly name of a context in the
files that is no name under which one of them is to be stored. -/
def Fresh (watcher : Watcher Bytes) (contents : Contents) (now : Nat) (store : Store Context) : Prop :=
  ∀ name context, store.get name now = some context → context.source = kubeConfigSource →
    (∃ entry, contents.Has entry ∧ makeDNSFriendly entry.key = name) → ∃ entry, watcher.Wanted contents entry ∧ entry.name = name

def Allowed (watcher : Watcher Bytes) (state : State Bytes) : Event Bytes → Prop
  | .sync listing now => ∀ contents after, watcher.Succeeds state listing now contents after →
    Fresh watcher contents now state.store
  | _ => True

/-- What the readers of YAML and of kubeconfigs promise of a file that both can read. -/
structure Agree (files : Files Bytes) : Prop where
  /-- The entries of the list are the contexts, with the clusters and users that they name. -/
  listed : ∀ data document config rawContexts, files.unmarshal data = .ok document → files.load data = .ok config →
    Keyed.lookup "contexts" document = some (.items rawContexts) →
    (∀ key, config.contexts key ≠ none → ∃ rawContext ∈ rawContexts, ∃ contextMap, extractContextInfo rawContext = .ok (contextMap, key)) ∧
    ∀ rawContext ∈ rawContexts, ∀ contextMap key names, extractContextInfo rawContext = .ok (contextMap, key) →
      extractClusterAndUserNames contextMap key = .ok names →
      ∃ context, config.contexts key = some context ∧ names = (context.cluster, context.authInfo)
  /-- An entry is loaded alone, with its cluster and its user, as with the others. -/
  alone : ∀ data document config rawContexts rawContext contextMap contextName clusterName userName yamlData single,
    files.unmarshal data = .ok document → files.load data = .ok config →
    Keyed.lookup "contexts" document = some (.items rawContexts) → rawContext ∈ rawContexts →
    extractContextInfo rawContext = .ok (contextMap, contextName) →
    extractClusterAndUserNames contextMap contextName = .ok (clusterName, userName) →
    (∃ rows, getCluster document clusterName = .ok rows) → (∃ rows, getUser document userName = .ok rows) →
    files.marshal (aloneIn document contextName clusterName userName contextMap) = .ok yamlData → files.load yamlData = .ok single →
    single.contexts contextName = config.contexts contextName ∧ single.clusters clusterName = config.clusters clusterName ∧
      single.authInfos userName = config.authInfos userName

/-! What is read. -/

section
variable {files : Files Bytes} {document : Document} {source : Nat} {skipProxySetup : Bool}

theorem processContexts_clean {rawContexts : List Yaml} {contexts : List Context}
    (processed : processContexts files.toPackages document source skipProxySetup rawContexts = some (contexts, [])) :
    List.Forall₂ (fun rawContext context => processContext files.toPackages rawContext document source skipProxySetup =
      some (.ok context)) rawContexts contexts := by
  induction rawContexts generalizing contexts with
  | nil =>
    cases processed
    exact .nil
  | cons rawContext rest ih =>
    rw [processContexts] at processed
    split at processed
    next => cases processed
    next here is =>
      obtain ⟨⟨later, more⟩, all, made⟩ := Option.map_eq_some_iff.mp processed
      cases here with
      | error contextError => cases made
      | ok first =>
        cases made
        exact .cons is (ih all)

theorem agree_loaded (agree : Agree files) {data : Bytes} {config : Config} {rawContexts : List Yaml}
    (unmarshals : files.unmarshal data = .ok document) (loads : files.load data = .ok config)
    (found : Keyed.lookup "contexts" document = some (.items rawContexts)) {rawContext : Yaml} (member : rawContext ∈ rawContexts)
    {contextMap : Fields} {contextName clusterName userName : String} {yamlData : Bytes} {single : Config} {context : Context}
    (processed : Processed files document kubeConfigSource rawContext contextMap contextName clusterName userName yamlData single
      context) (path : String) :
    config.contexts contextName ≠ none ∧ Entry.loaded ⟨path, config, contextName⟩ = some (placedAt path context) := by
  obtain ⟨apiContext, there, names⟩ := (agree.listed data document config rawContexts unmarshals loads found).2 rawContext member
    contextMap contextName (clusterName, userName) processed.info processed.names
  cases names
  obtain ⟨sameContext, sameCluster, sameUser⟩ := agree.alone data document config rawContexts rawContext contextMap contextName
    apiContext.cluster apiContext.authInfo yamlData single unmarshals loads found member processed.info processed.names
    processed.cluster processed.user processed.marshals processed.loads
  obtain ⟨entry, cluster, is, has, rfl⟩ := processed.made
  cases (sameContext.trans there).symm.trans is
  refine ⟨by rw [there]; exact Option.some_ne_none _, ?_⟩
  rw [Entry.loaded]
  simp only [there, Option.bind_some, sameCluster.symm.trans has, Option.map_some, sameUser]

/-- What is read is what the files have. -/
structure Read (contents : Contents) (contexts : List Context) : Prop where
  sound : ∀ context ∈ contexts, ∃ entry, contents.Has entry ∧ entry.loaded = some context
  complete : ∀ entry, contents.Has entry → ∃ context ∈ contexts, entry.loaded = some context

theorem read_file (agree : Agree files) {data : Bytes} {config : Config} (loads : files.load data = .ok config) {path : String}
    {contexts : List Context} (reads : loadContextsFromFile files path data kubeConfigSource = some (.ok (contexts, []))) :
    Read [(path, config)] contexts := by
  simp only [loadContextsFromFile, loadContextsFromData] at reads
  obtain ⟨loaded, all, placed⟩ := Option.map_eq_some_iff.mp reads
  split at all
  next => cases all; cases placed
  next document unmarshals =>
    split at all
    next rawContexts found =>
      obtain ⟨⟨unplaced, errors⟩, processed, made⟩ := Option.map_eq_some_iff.mp all
      subst made
      simp only [Except.ok.injEq, Prod.mk.injEq] at placed
      obtain ⟨rfl, rfl⟩ := placed
      have each := List.forall₂_iff_get.mp (processContexts_clean processed)
      have entry_of (index : Nat) (left : index < rawContexts.length) (right : index < unplaced.length) :
          ∃ contextMap contextName, extractContextInfo (rawContexts.get ⟨index, left⟩) = .ok (contextMap, contextName) ∧
            config.contexts contextName ≠ none ∧
            Entry.loaded ⟨path, config, contextName⟩ = some (placedAt path (unplaced.get ⟨index, right⟩)) := by
        obtain ⟨contextMap, contextName, clusterName, userName, yamlData, single, read⟩ := processContext_ok (each.2 index left right)
        exact ⟨contextMap, contextName, read.info,
          agree_loaded agree unmarshals loads found (List.get_mem _ _) read path⟩
      constructor
      · intro context member
        obtain ⟨bare, there, rfl⟩ := List.mem_map.mp member
        obtain ⟨index, rfl⟩ := List.get_of_mem there
        obtain ⟨contextMap, contextName, -, present, is⟩ := entry_of index.1 (index.2.trans_eq each.1.symm) index.2
        exact ⟨⟨path, config, contextName⟩, ⟨List.mem_singleton.mpr rfl, present⟩, is⟩
      · rintro ⟨listed, own, key⟩ ⟨inside, present⟩
        obtain ⟨rfl, rfl⟩ : path = listed ∧ config = own := by simpa [eq_comm] using inside
        obtain ⟨rawContext, member, contextMap, info⟩ :=
          (agree.listed data document config rawContexts unmarshals loads found).1 key present
        obtain ⟨index, rfl⟩ := List.get_of_mem member
        obtain ⟨otherMap, contextName, same, -, is⟩ := entry_of index.1 index.2 (index.2.trans_eq each.1)
        cases info.symm.trans same
        exact ⟨_, List.mem_map_of_mem (List.get_mem _ _), is⟩
    next => cases all; cases placed

theorem read_files (agree : Agree files) {disk : String → Option Bytes} {contents : Contents}
    (loads : ∀ path config, (path, config) ∈ contents → ∃ data, disk path = some data ∧ files.load data = .ok config)
    {contexts : List Context}
    (reads : loadContextsFromMultipleFiles files disk kubeConfigSource (contents.map Prod.fst) = some (.ok (contexts, []))) :
    Read contents contexts := by
  induction contents generalizing contexts with
  | nil =>
    cases reads
    exact ⟨fun _ member => absurd member List.not_mem_nil, fun _ has => absurd has.1 List.not_mem_nil⟩
  | cons file rest ih =>
    obtain ⟨path, config⟩ := file
    obtain ⟨data, there, is⟩ := loads path config List.mem_cons_self
    rw [List.map_cons, loadContextsFromMultipleFiles, there] at reads
    dsimp only at reads
    split at reads
    next => cases reads
    next => cases reads
    next first errors here =>
      obtain ⟨loaded, later, made⟩ := Option.map_eq_some_iff.mp reads
      cases loaded with
      | error err => cases made
      | ok found =>
        obtain ⟨others, more⟩ := found
        simp only [Except.ok.injEq, Prod.mk.injEq, List.append_eq_nil_iff] at made
        obtain ⟨rfl, rfl, rfl⟩ := made
        have front := read_file agree is here
        have back := ih (fun path config member => loads path config (List.mem_cons_of_mem _ member)) later
        constructor
        · intro context member
          rcases List.mem_append.mp member with inside | inside
          · obtain ⟨entry, has, is⟩ := front.sound context inside
            exact ⟨entry, ⟨List.mem_cons.mpr (.inl (List.mem_singleton.mp has.1)), has.2⟩, is⟩
          · obtain ⟨entry, has, is⟩ := back.sound context inside
            exact ⟨entry, ⟨List.mem_cons_of_mem _ has.1, has.2⟩, is⟩
        · intro entry has
          rcases List.mem_cons.mp has.1 with here | behind
          · obtain ⟨context, inside, is⟩ := front.complete entry ⟨List.mem_singleton.mpr here, has.2⟩
            exact ⟨context, List.mem_append_left _ inside, is⟩
          · obtain ⟨context, inside, is⟩ := back.complete entry ⟨behind, has.2⟩
            exact ⟨context, List.mem_append_right _ inside, is⟩

end

/-! The store. -/

/-- Every context is stored under its own name. -/
def Named (store : Store Context) : Prop := ∀ key value, store key = some value → value.value.name = key

theorem storedName_entry {entry : Entry} {context : Context} (is : entry.loaded = some context) {name : String}
    (stored : context.storedName = .ok name) : name = entry.name := by
  obtain ⟨apiContext, there, made⟩ := Option.bind_eq_some_iff.mp is
  obtain ⟨cluster, -, rfl⟩ := Option.map_eq_some_iff.mp made
  simp only [Context.storedName, placedAt, Option.bind_some, nameIn] at stored
  rw [Entry.name, nameOf, customNameOf, there, Option.bind_some]
  split at stored
  next none => rw [none]; exact (Except.ok.inj stored).symm
  next => cases stored
  next customName custom =>
    rw [custom]
    dsimp only
    split at stored
    next given => rw [if_pos given]; exact (Except.ok.inj stored).symm
    next blank => rw [if_neg blank]; exact (Except.ok.inj stored).symm

theorem entry_parts {entry : Entry} {context : Context} (is : entry.loaded = some context) :
    context.name = makeDNSFriendly entry.key ∧ context.source = kubeConfigSource ∧
      clusterOf entry.config entry.key = some context.cluster ∧ authInfoOf entry.config entry.key = context.authInfo := by
  obtain ⟨apiContext, there, made⟩ := Option.bind_eq_some_iff.mp is
  obtain ⟨cluster, has, rfl⟩ := Option.map_eq_some_iff.mp made
  exact ⟨rfl, rfl, by rw [clusterOf, there, Option.bind_some, has]; rfl, by rw [authInfoOf, there]; rfl⟩

theorem storeContexts_clean {ignoreFunc : Context → Bool} {contexts : List Context} {store after : Store Context}
    (stores : storeContexts ignoreFunc contexts store = ([], after)) :
    (∀ context ∈ contexts, ignoreFunc context = false → ∃ name, context.storedName = .ok name) ∧
      after = Keyed.writeAll ((contexts.filter fun context => !ignoreFunc context).filterMap storedRow) store := by
  induction contexts generalizing store with
  | nil =>
    cases stores
    exact ⟨List.forall_mem_nil _, rfl⟩
  | cons context rest ih =>
    rw [storeContexts] at stores
    by_cases skipped : ignoreFunc context = true
    · rw [if_pos skipped] at stores
      obtain ⟨named, is⟩ := ih stores
      refine ⟨fun other member kept => ?_, by rw [is, List.filter_cons_of_neg (by simp [skipped])]⟩
      rcases List.mem_cons.mp member with rfl | inside
      · cases skipped.symm.trans kept
      · exact named other inside kept
    · have kept : ignoreFunc context = false := by simpa using skipped
      rw [if_neg skipped] at stores
      split at stores
      next => simp at stores
      next next added =>
        obtain ⟨named, is⟩ := ih stores
        unfold addContext at added
        split at added
        next => cases added
        next name under =>
          cases added
          have row : storedRow context = some (name, ⟨{ context with name }, none⟩) := by rw [storedRow, under]; rfl
          refine ⟨fun other member unskipped => ?_, ?_⟩
          · rcases List.mem_cons.mp member with rfl | inside
            · exact ⟨name, under⟩
            · exact named other inside unskipped
          · rw [is, List.filter_cons_of_pos (by simp [kept]), List.filterMap_cons, row]
            rfl

theorem removeMissing_apply (newContexts existing : List Context) (store : Store Context) (name : String) :
    removeMissing newContexts existing store name =
      if ∃ context ∈ existing, context.name = name ∧ context.source = kubeConfigSource ∧
        ∀ newCtx ∈ newContexts, newCtx.name ≠ name then none else store name := by
  induction existing generalizing store with
  | nil => simp [removeMissing]
  | cons context rest ih =>
    rw [removeMissing]
    simp only [List.exists_mem_cons_iff]
    by_cases other : context.source ≠ kubeConfigSource
    · rw [if_pos other, ih]
      simp [other]
    · rw [if_neg other]
      have source : context.source = kubeConfigSource := not_not.mp other
      by_cases known : newContexts.any fun newCtx => context.name = newCtx.name
      · rw [if_pos known, ih]
        obtain ⟨newCtx, member, same⟩ := List.any_eq_true.mp known
        have same := of_decide_eq_true same
        have stays : ¬(context.name = name ∧ context.source = kubeConfigSource ∧ ∀ newCtx ∈ newContexts, newCtx.name ≠ name) := by
          rintro ⟨rfl, -, missing⟩
          exact missing newCtx member same.symm
        simp [stays]
      · rw [if_neg known, ih]
        have missing : ∀ newCtx ∈ newContexts, newCtx.name ≠ context.name := by
          intro newCtx member same
          exact known (List.any_eq_true.mpr ⟨newCtx, member, decide_eq_true same.symm⟩)
        by_cases here : context.name = name
        · subst here
          simp only [removeContext, Store.delete, Function.update_self, ite_self, true_and, source, if_pos (Or.inl missing)]
        · simp only [removeContext, Store.delete, Function.update_of_ne (Ne.symm here), here, false_and, false_or]

/-! One sync. -/

section
variable {watcher : Watcher Bytes} {state : State Bytes} {listing : List String} {now : Nat} {contents : Contents}
  {after : Store Context}

theorem loadAndStore_clean {files : Files Bytes} {disk : String → Option Bytes} {paths : List String} {source : Nat}
    {ignoreFunc : Context → Bool} {store : Store Context}
    (loads : loadAndStoreKubeConfigs files disk paths source ignoreFunc store = some (none, after)) :
    ∃ contexts, loadContextsFromMultipleFiles files disk source paths = some (.ok (contexts, [])) ∧
      storeContexts ignoreFunc contexts store = ([], after) := by
  obtain ⟨loaded, read, made⟩ := Option.map_eq_some_iff.mp loads
  cases loaded with
  | error err => cases made
  | ok found =>
    obtain ⟨contexts, errors⟩ := found
    dsimp only at made
    split at made
    next _ _ _ stores =>
      cases made
      exact ⟨contexts, read, stores⟩
    next => cases made

theorem sync_clean (agree : Agree watcher.files) (succeeds : watcher.Succeeds state listing now contents after) :
    ∃ contexts, Read contents contexts ∧ storeContexts watcher.ignoreFunc contexts
      (removeMissing contexts (getContexts listing now state.store) state.store) = ([], after) := by
  have synced := succeeds.synced
  simp only [Watcher.sync, syncContexts] at synced
  split at synced
  next => cases synced
  next => cases synced
  next contexts errors first =>
    obtain ⟨again, read, stores⟩ := loadAndStore_clean synced
    cases first.symm.trans read
    rw [← succeeds.reads.paths] at read
    exact ⟨contexts, read_files agree succeeds.reads.loads read, stores⟩

theorem after_wanted (agree : Agree watcher.files) (succeeds : watcher.Succeeds state listing now contents after) {entry : Entry}
    (wanted : watcher.Wanted contents entry) :
    ∃ context, entry.loaded = some context ∧ after entry.name = some ⟨{ context with name := entry.name }, none⟩ := by
  obtain ⟨contexts, read, stores⟩ := sync_clean agree succeeds
  obtain ⟨named, rfl⟩ := storeContexts_clean stores
  obtain ⟨context, member, is⟩ := read.complete entry wanted.1
  have kept := wanted.2 context is
  have row_of {other : Context} (inside : other ∈ contexts) (unskipped : watcher.ignoreFunc other = false) :
      ∃ owner, contents.Has owner ∧ owner.loaded = some other ∧
        storedRow other = some (owner.name, ⟨{ other with name := owner.name }, none⟩) := by
    obtain ⟨owner, has, loaded⟩ := read.sound other inside
    obtain ⟨name, stored⟩ := named other inside unskipped
    cases storedName_entry loaded stored
    exact ⟨owner, has, loaded, by rw [storedRow, stored]; rfl⟩
  have unskipped {other : Context} (inside : other ∈ contexts.filter fun context => !watcher.ignoreFunc context) :
      other ∈ contexts ∧ watcher.ignoreFunc other = false := by simpa using inside
  refine ⟨context, is, ?_⟩
  rw [Keyed.writeAll_apply]
  have present : Keyed.lookup entry.name ((contexts.filter fun context => !watcher.ignoreFunc context).filterMap storedRow).reverse ≠ none := by
    intro missing
    obtain ⟨owner, has, loaded, row⟩ := row_of member kept
    have same : owner = entry := by
      apply succeeds.distinct owner entry has wanted.1
      obtain ⟨name, stored⟩ := named context member kept
      rw [← storedName_entry loaded stored, ← storedName_entry is stored]
    subst same
    exact Keyed.lookup_none.mp missing _ (List.mem_reverse.mpr (List.mem_filterMap.mpr
      ⟨context, List.mem_filter.mpr ⟨member, by simp [kept]⟩, row⟩)) rfl
  obtain ⟨value, found⟩ := Option.ne_none_iff_exists'.mp present
  obtain ⟨other, inside, row⟩ := List.mem_filterMap.mp (List.mem_reverse.mp (Keyed.mem_of_lookup found))
  obtain ⟨within, spared⟩ := unskipped inside
  obtain ⟨owner, has, loaded, own⟩ := row_of within spared
  rw [own, Option.some.injEq, Prod.mk.injEq] at row
  obtain ⟨sameName, rfl⟩ := row
  have same : owner = entry := succeeds.distinct owner entry has wanted.1 sameName
  subst same
  cases loaded.symm.trans is
  rw [found]
  rfl

/-- Under the other names the store has what it had, less what came from a kubeconfig and
has the DNS-friendly name of no context in the files. -/
theorem after_other (agree : Agree watcher.files) (named : Named state.store)
    (succeeds : watcher.Succeeds state listing now contents after) {name : String}
    (other : ∀ entry, watcher.Wanted contents entry → entry.name ≠ name) :
    (∃ context, state.store.get name now = some context ∧ context.source = kubeConfigSource) ∧
        (∀ entry, contents.Has entry → makeDNSFriendly entry.key ≠ name) ∧ after name = none ∨
      ¬((∃ context, state.store.get name now = some context ∧ context.source = kubeConfigSource) ∧
        ∀ entry, contents.Has entry → makeDNSFriendly entry.key ≠ name) ∧ after name = state.store name := by
  obtain ⟨contexts, read, stores⟩ := sync_clean agree succeeds
  obtain ⟨stored, rfl⟩ := storeContexts_clean stores
  have unwritten : Keyed.lookup name ((contexts.filter fun context => !watcher.ignoreFunc context).filterMap storedRow).reverse = none := by
    rw [Keyed.lookup_none]
    intro row member same
    obtain ⟨context, inside, is⟩ := List.mem_filterMap.mp (List.mem_reverse.mp member)
    obtain ⟨within, spared⟩ : context ∈ contexts ∧ watcher.ignoreFunc context = false := by simpa using inside
    obtain ⟨entry, has, loaded⟩ := read.sound context within
    obtain ⟨own, under⟩ := stored context within spared
    rw [storedRow, under] at is
    cases is
    apply other entry ⟨has, fun found loads => ?_⟩
    · rw [← storedName_entry loaded under]
      exact same
    · cases loads.symm.trans loaded
      exact spared
  have listed (context : Context) : (context ∈ getContexts listing now state.store ∧ context.name = name) ↔
      state.store.get name now = some context := by
    constructor
    · rintro ⟨member, rfl⟩
      obtain ⟨key, -, found⟩ := List.mem_filterMap.mp member
      obtain ⟨expiresAt, holds⟩ := Store.holds_of_get found
      cases named key _ holds
      exact found
    · intro found
      obtain ⟨expiresAt, holds⟩ := Store.holds_of_get found
      refine ⟨List.mem_filterMap.mpr ⟨name, (succeeds.listed.2 name).mpr ?_, found⟩, named name _ holds⟩
      rw [found]
      exact Option.some_ne_none _
  have unread : (∀ newCtx ∈ contexts, newCtx.name ≠ name) ↔ ∀ entry, contents.Has entry → makeDNSFriendly entry.key ≠ name := by
    constructor
    · intro every entry has
      obtain ⟨context, member, is⟩ := read.complete entry has
      rw [← (entry_parts is).1]
      exact every context member
    · intro every context member
      obtain ⟨entry, has, is⟩ := read.sound context member
      rw [(entry_parts is).1]
      exact every entry has
  have removed : (∃ context ∈ getContexts listing now state.store, context.name = name ∧ context.source = kubeConfigSource ∧
      ∀ newCtx ∈ contexts, newCtx.name ≠ name) ↔
      (∃ context, state.store.get name now = some context ∧ context.source = kubeConfigSource) ∧
        ∀ entry, contents.Has entry → makeDNSFriendly entry.key ≠ name := by
    rw [← unread]
    constructor
    · rintro ⟨context, member, same, source, missing⟩
      exact ⟨⟨context, (listed context).mp ⟨member, same⟩, source⟩, missing⟩
    · rintro ⟨⟨context, found, source⟩, missing⟩
      obtain ⟨member, same⟩ := (listed context).mpr found
      exact ⟨context, member, same, source, missing⟩
  rw [Keyed.writeAll_apply, unwritten, Option.none_or, removeMissing_apply]
  split
  next gone => exact .inl ⟨(removed.mp gone).1, (removed.mp gone).2, rfl⟩
  next stays => exact .inr ⟨fun gone => stays (removed.mpr gone), rfl⟩

theorem get_endless {store : Store Context} {name : String} {context : Context} (is : store name = some ⟨context, none⟩) (now : Nat) :
    store.get name now = some context := by
  rw [Store.get, is]

theorem converged_iff (agree : Agree watcher.files) (named : Named state.store)
    (succeeds : watcher.Succeeds state listing now contents after) :
    Converged watcher contents now state.store after ↔ Fresh watcher contents now state.store := by
  have current {entry : Entry} (wanted : watcher.Wanted contents entry) : ∃ context, after.get entry.name now = some context ∧
      context.source = kubeConfigSource ∧ context.name = entry.name ∧ clusterOf entry.config entry.key = some context.cluster ∧
        authInfoOf entry.config entry.key = context.authInfo := by
    obtain ⟨context, is, stored⟩ := after_wanted agree succeeds wanted
    obtain ⟨-, source, cluster, user⟩ := entry_parts is
    exact ⟨_, get_endless stored now, source, rfl, cluster, user⟩
  constructor
  · intro converged name context found source known
    by_contra unwanted
    have other : ∀ entry, watcher.Wanted contents entry → entry.name ≠ name := fun entry wanted same =>
      unwanted ⟨entry, wanted, same⟩
    rcases after_other agree named succeeds other with ⟨-, missing, -⟩ | ⟨-, kept⟩
    · obtain ⟨entry, has, same⟩ := known
      exact missing entry has same
    · apply unwanted
      apply (converged.exact name).mp
      refine ⟨context, ?_, source⟩
      rw [Store.get, kept]
      exact found
  · intro fresh
    refine ⟨fun name => ⟨?_, ?_⟩, ?_, ?_⟩
    · rintro ⟨context, found, source⟩
      by_contra unwanted
      have other : ∀ entry, watcher.Wanted contents entry → entry.name ≠ name := fun entry wanted same =>
        unwanted ⟨entry, wanted, same⟩
      rcases after_other agree named succeeds other with ⟨-, -, gone⟩ | ⟨stays, kept⟩
      · rw [Store.get, gone] at found
        cases found
      · rw [Store.get, kept] at found
        apply stays
        refine ⟨⟨context, found, source⟩, fun entry has same => ?_⟩
        exact unwanted (fresh name context found source ⟨entry, has, same⟩)
    · rintro ⟨entry, wanted, rfl⟩
      obtain ⟨context, found, source, -⟩ := current wanted
      exact ⟨context, found, source⟩
    · intro entry wanted
      obtain ⟨context, found, -, name, cluster, user⟩ := current wanted
      exact ⟨context, found, name, cluster, user⟩
    · intro name context found source other
      rcases after_other agree named succeeds other with ⟨⟨stale, is, from_⟩, -, -⟩ | ⟨-, kept⟩
      · cases found.symm.trans is
        exact absurd from_ source
      · exact kept

end

/-! Runs. -/

theorem named_update {store : Store Context} (named : Named store) {context : Context} {key : String} (own : context.name = key)
    (expiresAt : Option Nat) : Named (Function.update store key (some ⟨context, expiresAt⟩)) := by
  intro other value is
  by_cases same : other = key
  · subst same
    rw [Function.update_self] at is
    cases is
    exact own
  · rw [Function.update_of_ne same] at is
    exact named other value is

theorem named_setWithTTL {store : Store Context} (named : Named store) (context : Context) (key : String) (ttl now : Nat) :
    Named (store.setWithTTL key { context with name := key } ttl now) := by
  refine named_update named ?_ _
  rfl

theorem named_delete {store : Store Context} (named : Named store) (key : String) : Named (store.delete key) := by
  intro other value is
  rw [Store.delete] at is
  by_cases same : other = key
  · subst same
    rw [Function.update_self] at is
    cases is
  · rw [Function.update_of_ne same] at is
    exact named other value is

theorem named_addContext {store next : Store Context} (named : Named store) {context : Context}
    (adds : addContext context store = .ok next) : Named next := by
  unfold addContext at adds
  split at adds
  next => cases adds
  next name _ =>
    cases adds
    exact named_setWithTTL named context name 0 0

theorem named_storeContexts (ignoreFunc : Context → Bool) (contexts : List Context) {store : Store Context} (named : Named store) :
    Named (storeContexts ignoreFunc contexts store).2 := by
  induction contexts generalizing store with
  | nil => exact named
  | cons context rest ih =>
    rw [storeContexts]
    split
    · exact ih named
    · split
      · exact ih named
      next next adds => exact ih (named_addContext named adds)

theorem named_removeMissing {newContexts existing : List Context} {store : Store Context} (named : Named store) :
    Named (removeMissing newContexts existing store) := by
  induction existing generalizing store with
  | nil => exact named
  | cons context rest ih =>
    rw [removeMissing]
    split
    · exact ih named
    · split
      · exact ih named
      · exact ih (named_delete named context.name)

theorem named_load {files : Files Bytes} {disk : String → Option Bytes} {paths : List String} {source : Nat}
    {ignoreFunc : Context → Bool} {store : Store Context} (named : Named store) {result : Option Fault × Store Context}
    (loads : loadAndStoreKubeConfigs files disk paths source ignoreFunc store = some result) : Named result.2 := by
  obtain ⟨loaded, -, rfl⟩ := Option.map_eq_some_iff.mp loads
  cases loaded with
  | error err => exact named
  | ok found =>
    obtain ⟨contexts, errors⟩ := found
    have stored := named_storeContexts ignoreFunc contexts named
    dsimp only
    split
    next is => rw [is] at stored; exact stored
    next is _ => rw [is] at stored; exact stored

theorem named_step {watcher : Watcher Bytes} {state next : State Bytes} {event : Event Bytes} (named : Named state.store)
    (taken : step watcher state event = some next) : Named next.store := by
  cases event with
  | edit path content => cases taken; exact named
  | addContext context =>
    cases taken
    cases adds : addContext context state.store with
    | error err => exact named
    | ok store => exact named_addContext named adds
  | addContextWithKeyAndTTL context key ttl now =>
    cases taken
    exact named_setWithTTL named context key ttl now
  | updateTTL key ttl now =>
    cases taken
    simp only [Store.updateTTL]
    split
    next => exact named
    next found is =>
      simp only [Except.toOption, Option.getD_some]
      split
      · exact named_update named (named key found is) _
      · exact named
  | removeContext name => cases taken; exact named_delete named name
  | load =>
    obtain ⟨result, loads, rfl⟩ := Option.map_eq_some_iff.mp taken
    exact named_load named loads
  | sync listing now =>
    obtain ⟨result, synced, rfl⟩ := Option.map_eq_some_iff.mp taken
    simp only [Watcher.sync, syncContexts] at synced
    split at synced
    next => cases synced
    next => cases synced; exact named
    next => exact named_load (named_removeMissing named) synced

/-- Every successful sync of a run converges exactly when none of them meets a context from
a kubeconfig under an abandoned name. -/
theorem converges_iff {watcher : Watcher Bytes} (agree : Agree watcher.files) {start : State Bytes} (named : Named start.store)
    (events : List (Event Bytes)) :
    Meets (step watcher) (Converges watcher) start events ↔ Meets (step watcher) (Allowed watcher) start events := by
  refine meets_congr (fun state => Named state.store) (fun _ _ _ named taken => named_step named taken) ?_ named events
  intro state event named
  cases event with
  | sync listing now =>
    exact forall_congr' fun contents => forall_congr' fun after => forall_congr' fun succeeds =>
      converged_iff agree named succeeds
  | edit path content => exact Iff.rfl
  | addContext context => exact Iff.rfl
  | addContextWithKeyAndTTL context key ttl now => exact Iff.rfl
  | updateTTL key ttl now => exact Iff.rfl
  | removeContext name => exact Iff.rfl
  | load => exact Iff.rfl

/-- A kubeconfig with one cluster, whose context has the label as its custom name. -/
private def labelDocument (label : String) : Document := [
  ("contexts", .items [.fields [(.text "name", .text "prod"), (.text "context",
    .fields [(.text "cluster", .text "prod"), (.text "user", .text "admin"), (.text "label", .text label)])]]),
  ("clusters", .items [.fields [(.text "name", .text "prod"),
    (.text "cluster", .fields [(.text "server", .text "https://prod")])]]),
  ("users", .items [.fields [(.text "name", .text "admin"), (.text "user", .fields [])]])]

private def labelConfig (label : String) : Config where
  contexts key := if key = "prod" then some ⟨"prod", "admin", some (.custom label)⟩ else none
  clusters key := if key = "prod" then some ⟨"https://prod", "", false, "", "", ""⟩ else none
  authInfos key := if key = "admin" then some ⟨"", "", "", "", "", "", "", "", "", none, none⟩ else none

/-- Kubeconfigs that differ in the label only, written as the label. -/
private def labelFiles : Files String where
  decodeString label := .ok label
  unmarshal label := .ok (labelDocument label)
  marshal document :=
    match Keyed.lookup "contexts" document with
    | some (.items [.fields rows]) =>
      match Fields.get "label" (partOf "context" (.ok rows)) with
      | some (.text label) => .ok label
      | _ => .error "no label"
    | _ => .error "no context"
  load label := .ok (labelConfig label)
  setupProxy _ := .ok ()
  write _ := .error "read only"
  loadMerged _ _ := .error "read only"

private theorem labelConfig_contexts {label key : String} (present : (labelConfig label).contexts key ≠ none) : key = "prod" := by
  by_contra other
  exact present (if_neg other)

private theorem labelFiles_agree : Agree labelFiles := by
  constructor
  · intro data document config rawContexts unmarshals loads found
    cases unmarshals
    cases loads
    cases found
    refine ⟨fun key present => ?_, ?_⟩
    · cases labelConfig_contexts present
      exact ⟨_, List.mem_singleton.mpr rfl, _, rfl⟩
    · intro rawContext member contextMap key names info both
      rw [List.mem_singleton] at member
      subst member
      cases info
      cases both
      exact ⟨_, rfl, rfl⟩
  · intro data document config rawContexts rawContext contextMap contextName clusterName userName yamlData single unmarshals loads
      found member info names _ _ marshals alone
    cases unmarshals
    cases loads
    cases found
    rw [List.mem_singleton] at member
    subst member
    cases info
    cases names
    cases marshals
    cases alone
    exact ⟨rfl, rfl, rfl⟩

private def labelWatcher : Watcher String := ⟨labelFiles, false, "config", fun _ => false⟩

private def noFiles : State String := ⟨fun _ => none, Store.empty⟩

private theorem noFiles_named : Named noFiles.store := by
  intro key value found
  exact absurd found (Option.some_ne_none value).symm

/-- A context changes its custom name between two syncs, and leaves the old one. -/
theorem relabeled_converges : Meets (step labelWatcher) (Converges labelWatcher) noFiles
    [.edit "config" (some "main"), .sync [] 0, .edit "config" (some "spare"), .sync ["main"] 0] := by
  apply (converges_iff labelFiles_agree noFiles_named _).mpr
  have prod {contents : Contents} {disk : String → Option String} (reads : labelWatcher.Reads disk contents) {entry : Entry}
      (has : contents.Has entry) : entry.key = "prod" := by
    obtain ⟨path, config, key⟩ := entry
    obtain ⟨data, _, loads⟩ := reads.loads _ _ has.1
    cases loads
    exact labelConfig_contexts has.2
  refine ⟨trivial, fun contents after succeeds => ?_, trivial, fun contents after succeeds => ?_, ?_⟩
  · intro name context found
    cases found
  · rintro _ context found - ⟨entry, has, rfl⟩
    rw [prod succeeds.reads has] at found
    cases found
  · split <;> trivial

/-- The context that is synced before it has a custom name. -/
private def unlabeled : Context :=
  ⟨"prod", some ⟨"prod", "admin", some (.custom "")⟩, ⟨"https://prod", "", false, "", "", ""⟩,
    some ⟨"", "", "", "", "", "", "", "", "", none, none⟩, kubeConfigSource, false, "config", "config+prod"⟩

/-- A context that is given a custom name stays under its old name, too. -/
theorem renamed_stays : ¬∀ (Bytes : Type) (watcher : Watcher Bytes) (start : State Bytes) (events : List (Event Bytes)),
    Agree watcher.files → Named start.store → Meets (step watcher) (Converges watcher) start events := by
  intro every
  have meets := (converges_iff labelFiles_agree noFiles_named _).mp (every String labelWatcher noFiles
    [.edit "config" (some ""), .sync [] 0, .edit "config" (some "main"), .sync ["prod"] 0] labelFiles_agree noFiles_named)
  have allowed : Allowed labelWatcher ⟨Function.update (Function.update (fun _ => none) "config" (some "")) "config" (some "main"),
      Store.empty.set "prod" unlabeled⟩ (.sync ["prod"] 0) := meets.2.2.2.1
  have path : labelWatcher.paths = ["config"] := by decide
  have reads : labelWatcher.Reads (Function.update (Function.update (fun _ => none) "config" (some "")) "config" (some "main"))
      [("config", labelConfig "main")] := by
    refine ⟨path.symm, fun path config member => ?_⟩
    cases List.mem_singleton.mp member
    exact ⟨"main", Function.update_self _ _ _, rfl⟩
  have only (entry : Entry) (has : Contents.Has [("config", labelConfig "main")] entry) :
      entry = ⟨"config", labelConfig "main", "prod"⟩ := by
    obtain ⟨path, config, key⟩ := entry
    obtain ⟨inside, present⟩ := has
    obtain ⟨rfl, rfl⟩ := Prod.mk.inj (List.mem_singleton.mp inside)
    cases labelConfig_contexts present
    rfl
  have listed (key : String) : key ∈ ["prod"] ↔ (Store.empty.set "prod" unlabeled).get key 0 ≠ none := by
    by_cases same : key = "prod"
    · simp [same, Store.get, Store.set, Store.setWithTTL]
    · simp [same, Store.get, Store.set, Store.setWithTTL, Store.empty]
  obtain ⟨entry, wanted, same⟩ := allowed [("config", labelConfig "main")] _
    ⟨⟨by decide, listed⟩, rfl, reads, fun entry other has more _ => (only entry has).trans (only other more).symm⟩
    "prod" unlabeled rfl rfl ⟨⟨"config", labelConfig "main", "prod"⟩, ⟨List.mem_singleton.mpr rfl, by decide⟩, by decide⟩
  rw [only entry wanted.1] at same
  exact absurd same (by decide)

end K8Sense.Kubeconfig.Sync
