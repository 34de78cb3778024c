import K8Sense.Library.Distinct
import K8Sense.Library.Grouping
import K8Sense.Library.Keyed
import K8Sense.Library.Ranked
import K8Sense.Plugins.Refresh

/-! Which of the plugins that the backend lists are run by the frontend. The settings remember a
package information of each plugin, which takes the place of the one that the backend sends
whenever the two lists look alike. -/

namespace K8Sense.Frontend.PluginLoading
open Grouping Keyed Ranked Plugins

structure PluginInfo where
  name : String
  folderName : Option String
  type : Option PluginType
  version : Option String
  isEnabled : Option Bool
  isLoaded : Option Bool
  overriddenBy : Option PluginType
  isCompatible : Option Bool
  devDependencies : Option (List (String × String))
deriving DecidableEq

/-- The answers of the backend about one plugin: its `main.js`, and its `package.json` unless it has none. -/
structure Fetched where
  metadata : PluginMetadata
  packageJson : Option PluginInfo
  source : String

def packageInfo (fetched : Fetched) : PluginInfo :=
  match fetched.packageJson with
  | some json => { json with type := some fetched.metadata.type, folderName := some fetched.metadata.name }
  | none =>
    { name := (fetched.metadata.path.splitOn "/").getLastD ""
      folderName := some fetched.metadata.name
      type := some fetched.metadata.type
      version := some "0.0.0"
      isEnabled := none
      isLoaded := none
      overriddenBy := none
      isCompatible := none
      devDependencies := none }

def PluginInfo.enabled (plugin : PluginInfo) : Bool := plugin.isEnabled ≠ some false

/-- The place in `priorityOrder`, from a `type` that may be missing. -/
def priority (type : Option PluginType) : Nat :=
  match type.getD .shipped with
  | .development => 0
  | .user => 1
  | .shipped => 2

def overridden (loaded : Option PluginInfo) (version : PluginInfo) : PluginInfo :=
  { version with isLoaded := some false, overriddenBy := loaded.bind (·.type) }

def markVersions (versions : List PluginInfo) : List PluginInfo :=
  match versions with
  | [version] => [{ version with isLoaded := some version.enabled }]
  | _ =>
    let sortedVersions := stableSort (fun version => priority version.type) versions
    let disabled := sortedVersions.takeWhile (!·.enabled)
    match sortedVersions.dropWhile (!·.enabled) with
    | [] => disabled.map (overridden none)
    | loadedVersion :: others =>
      disabled.map (overridden loadedVersion) ++ { loadedVersion with isLoaded := some true } :: others.map (overridden loadedVersion)

def applyPluginPriority (plugins : List PluginInfo) : List PluginInfo :=
  (firstSeen (·.name) plugins).flatMap fun name => markVersions (plugins.filter (·.name = name))

def typeText : Option PluginType → String
  | some .development => "development"
  | some .user => "user"
  | some .shipped => "shipped"
  | none => "unknown"

def getPluginKey (plugin : PluginInfo) : String := plugin.name ++ "@" ++ typeText plugin.type

def keysAndVersions (plugins : List PluginInfo) : String :=
  String.join (plugins.map fun plugin => getPluginKey plugin ++ plugin.version.getD "undefined")

def pluginsChanged (backendPlugins settingsPlugins : List PluginInfo) : Bool :=
  backendPlugins.length ≠ settingsPlugins.length ∨ keysAndVersions backendPlugins ≠ keysAndVersions settingsPlugins

def samePlugin (plugin other : PluginInfo) : Bool := other.name = plugin.name ∧ other.type = plugin.type

/-- What the package says stands before what the settings say, except for the choice of the user. -/
def merge (settings plugin : PluginInfo) : PluginInfo :=
  { name := plugin.name
    folderName := plugin.folderName.or settings.folderName
    type := plugin.type.or settings.type
    version := plugin.version.or settings.version
    isEnabled := settings.isEnabled
    isLoaded := plugin.isLoaded.or settings.isLoaded
    overriddenBy := plugin.overriddenBy.or settings.overriddenBy
    isCompatible := plugin.isCompatible.or settings.isCompatible
    devDependencies := plugin.devDependencies.or settings.devDependencies }

def updateSettingsPackages (backendPlugins settingsPlugins : List PluginInfo) : List PluginInfo :=
  if backendPlugins = [] then []
  else if pluginsChanged backendPlugins settingsPlugins then
    backendPlugins.map fun plugin =>
      match settingsPlugins.find? (samePlugin plugin) with
      | none => { plugin with isEnabled := some true }
      | some settings => merge settings plugin
  else settingsPlugins

/-- What the loader uses of the semver package, and of the app it runs in. -/
structure App where
  Version : Type
  coerce : String → Option Version
  /-- The version is in the range `>=0.8.0-alpha.3`. -/
  satisfies : Version → Bool
  isElectron : Bool
  /-- The package gets arguments, by its path and name. -/
  hasArgs : String → String → Bool

variable (app : App)

def isCompatible (devDependencies : Option (List (String × String))) : Bool :=
  match (devDependencies.bind (lookup "@kinvolk/headlamp-plugin")).bind app.coerce with
  | some version => app.satisfies version
  | none => false

structure Running where
  source : String
  pluginPath : String
  packageName : String
  packageVersion : String
deriving DecidableEq

def getInfoForRunningPlugins (source pluginPath packageName packageVersion : String) : Option Running :=
  if pluginPath = "" ∨ packageName = "" ∨ packageVersion = "" then none
  else some ⟨source ++ "\n//# sourceURL=//" ++ pluginPath ++ "/dist/main.js", pluginPath, packageName, packageVersion⟩

/-- From the parallel arrays, in which there must be an entry for the plugin. -/
def infoOf (sources pluginPaths : List String) (packageInfos : List PluginInfo) (plugin : PluginInfo) : Option (Option Running) := do
  let index ← packageInfos.findIdx? (samePlugin plugin)
  let source ← sources[index]?
  let pluginPath ← pluginPaths[index]?
  let package ← packageInfos[index]?
  return getInfoForRunningPlugins source pluginPath package.name (package.version.getD "")

/-- Those with arguments are run first. -/
def inRunningOrder (plugins : List Running) : List Running :=
  let first := fun plugin : Running => app.hasArgs plugin.pluginPath plugin.packageName
  plugins.filter first ++ plugins.filter (!first ·)

structure Loaded where
  /-- The list of the last `onSettingsChange`. -/
  settings : List PluginInfo
  /-- The list of `onIncompatible`. -/
  incompatible : List PluginInfo
  /-- The plugins in the order in which they are run. There is none when the loader fails, which it does when one of
  the plugins to execute is not in the list of the backend. -/
  executed : Option (List Running)

def withCompatibility (plugin : PluginInfo) : PluginInfo :=
  { plugin with isCompatible := some (isCompatible app plugin.devDependencies) }

def shouldExecute (plugin : PluginInfo) : Bool :=
  plugin.isLoaded = some true ∧ plugin.isCompatible = some true ∧ ¬(app.isElectron ∧ plugin.isEnabled = some false)

def fetchAndExecutePlugins (pluginList : List Fetched) (settingsPackages : List PluginInfo) : Loaded :=
  let sources := pluginList.map (·.source)
  let pluginPaths := pluginList.map (·.metadata.path)
  let packageInfos := pluginList.map packageInfo
  let updated := (applyPluginPriority (updateSettingsPackages packageInfos settingsPackages)).map (withCompatibility app)
  let pluginsToExecute := updated.filter (shouldExecute app)
  let infoForRunningPlugins := pluginsToExecute.mapM (infoOf sources pluginPaths packageInfos)
  { settings := updated
    incompatible := updated.filter (·.isCompatible ≠ some true)
    executed := infoForRunningPlugins.map fun infos => inRunningOrder app (infos.filterMap id) }

/-- What decides whether a plugin is run. -/
structure View where
  name : String
  type : Option PluginType
  isEnabled : Option Bool
  devDependencies : Option (List (String × String))
deriving DecidableEq

def PluginInfo.view (plugin : PluginInfo) : View := ⟨plugin.name, plugin.type, plugin.isEnabled, plugin.devDependencies⟩

def View.key (view : View) : String × Option PluginType := (view.name, view.type)

def View.enabled (view : View) : Bool := view.isEnabled ≠ some false

/-- No version of the plugin that the user has not disabled has a higher priority. -/
def Preferred (views : List View) (view : View) : Prop :=
  view.enabled ∧ ∀ other ∈ views, other.name = view.name → other.enabled → priority view.type ≤ priority other.type

instance (views : List View) (view : View) : Decidable (Preferred views view) := by
  unfold Preferred
  infer_instance

theorem Preferred.congr {views others : List View} (same : ∀ view, view ∈ views ↔ view ∈ others) (view : View) :
    Preferred views view ↔ Preferred others view := by
  simp only [Preferred, same]

section Priority

@[simp] theorem view_overridden (loaded : Option PluginInfo) (version : PluginInfo) : (overridden loaded version).view = version.view := rfl

theorem view_loaded (version : PluginInfo) : PluginInfo.view { version with isLoaded := some true } = version.view := rfl

theorem markVersions_perm (versions : List PluginInfo) : ((markVersions versions).map (·.view)).Perm (versions.map (·.view)) := by
  unfold markVersions
  split
  next => exact List.Perm.refl _
  next =>
    have sorted := stableSort_perm (fun version : PluginInfo => priority version.type) versions
    refine List.Perm.trans ?_ (sorted.map (·.view))
    dsimp only
    obtain ⟨dropped, taken, _⟩ | ⟨before, loaded, after, taken, dropped, parts, _⟩ :=
      split_first (·.enabled) (stableSort (fun version : PluginInfo => priority version.type) versions)
    · rw [dropped, taken]
      simp [List.map_map, Function.comp_def]
    · rw [dropped, taken, parts]
      simp [List.map_map, Function.comp_def, view_loaded]

theorem applyPluginPriority_perm (plugins : List PluginInfo) : ((applyPluginPriority plugins).map (·.view)).Perm (plugins.map (·.view)) := by
  have all := grouped_perm_of_subset (firstSeen_nodup (fun plugin : PluginInfo => plugin.name) plugins)
    (fun plugin member => mem_firstSeen.mpr (List.mem_map_of_mem member))
  rw [applyPluginPriority, List.map_flatMap]
  refine List.Perm.trans ?_ (all.map (·.view))
  rw [grouped, List.map_flatMap]
  exact List.Perm.flatMap_left _ fun name _ => markVersions_perm _

theorem markVersions_loaded {versions : List PluginInfo} (distinct : (versions.map fun version => priority version.type).Nodup)
    {marked : PluginInfo} (member : marked ∈ markVersions versions) : marked.isLoaded = some true ↔
      marked.enabled ∧ ∀ other ∈ versions, other.enabled → priority marked.type ≤ priority other.type := by
  unfold markVersions at member
  split at member
  next version =>
    obtain rfl := List.mem_singleton.mp member
    simp [PluginInfo.enabled]
  next =>
    have same := stableSort_perm (fun version : PluginInfo => priority version.type) versions
    have sorted := stableSort_sorted (fun version : PluginInfo => priority version.type) versions
    have disabled : ∀ loaded version, version.enabled = false → ((overridden loaded version).isLoaded = some true ↔
        (overridden loaded version).enabled ∧ ∀ other ∈ versions, other.enabled → priority (overridden loaded version).type ≤ priority other.type) := by
      intro loaded version off
      exact iff_of_false (by simp [overridden]) fun preferred => absurd preferred.1 (Bool.eq_false_iff.mp off)
    dsimp only at member
    obtain ⟨dropped, taken, none⟩ | ⟨before, loaded, after, taken, dropped, parts, none, on⟩ :=
      split_first (·.enabled) (stableSort (fun version : PluginInfo => priority version.type) versions)
    · rw [dropped, taken] at member
      obtain ⟨version, before, rfl⟩ := List.mem_map.mp member
      exact disabled _ version (none version before)
    · rw [dropped, taken, List.mem_append, List.mem_cons] at member
      rw [parts] at same sorted
      obtain member | rfl | member := member
      · obtain ⟨version, inside, rfl⟩ := List.mem_map.mp member
        exact disabled (some loaded) version (none version inside)
      · exact iff_of_true rfl ⟨on, fun other among enabled => first_least sorted none (same.mem_iff.mpr among) enabled⟩
      · obtain ⟨version, later, rfl⟩ := List.mem_map.mp member
        refine iff_of_false (by simp [overridden]) ?_
        intro preferred
        -- the loaded version comes first, and no other has its priority
        have apart : priority loaded.type ≠ priority version.type := by
          have unique := (same.map fun version => priority version.type).nodup_iff.mpr distinct
          rw [List.map_append, List.map_cons] at unique
          have fresh := (List.nodup_cons.mp (List.nodup_append.mp unique).2.1).1
          exact fun equal => fresh (equal ▸ List.mem_map_of_mem later)
        have above := preferred.2 loaded (same.mem_iff.mp (by simp)) on
        have below := (List.pairwise_cons.mp (List.pairwise_append.mp sorted).2.1).1 version later
        exact apart (Nat.le_antisymm below above)

theorem name_of_mem_markVersions {versions : List PluginInfo} {name : String} (same : ∀ version ∈ versions, version.name = name)
    {marked : PluginInfo} (member : marked ∈ markVersions versions) : marked.name = name := by
  have viewed := (markVersions_perm versions).mem_iff.mp (List.mem_map_of_mem member)
  obtain ⟨version, inside, equal⟩ := List.mem_map.mp viewed
  rw [← same version inside]
  exact (congrArg View.name equal).symm

theorem mem_markVersions_of_mem {plugins : List PluginInfo} {marked : PluginInfo} (member : marked ∈ applyPluginPriority plugins) :
    marked ∈ markVersions (plugins.filter (·.name = marked.name)) := by
  obtain ⟨name, _, inside⟩ := List.mem_flatMap.mp member
  have same := name_of_mem_markVersions (fun version among => of_decide_eq_true (List.mem_filter.mp among).2) inside
  rwa [same]

theorem priority_injective {type other : PluginType} (same : priority (some type) = priority (some other)) : type = other := by
  cases type <;> cases other <;> first | rfl | cases same

theorem applyPluginPriority_loaded {plugins : List PluginInfo} (typed : ∀ plugin ∈ plugins, plugin.type.isSome)
    (distinct : (plugins.map fun plugin => plugin.view.key).Nodup) {marked : PluginInfo} (member : marked ∈ applyPluginPriority plugins) :
    marked.isLoaded = some true ↔ Preferred (plugins.map (·.view)) marked.view := by
  have ranks : ((plugins.filter (·.name = marked.name)).map fun version => priority version.type).Nodup := by
    apply List.Nodup.map_on _ ((List.Nodup.of_map _ distinct).filter _)
    intro version left other right same
    obtain ⟨left, name⟩ := List.mem_filter.mp left
    obtain ⟨right, otherName⟩ := List.mem_filter.mp right
    apply List.inj_on_of_nodup_map distinct left right
    obtain ⟨type, isType⟩ := Option.isSome_iff_exists.mp (typed version left)
    obtain ⟨otherType, isOther⟩ := Option.isSome_iff_exists.mp (typed other right)
    rw [isType, isOther] at same
    refine Prod.ext ((of_decide_eq_true name).trans (of_decide_eq_true otherName).symm) ?_
    simp only [PluginInfo.view, View.key, isType, isOther, priority_injective same]
  rw [markVersions_loaded ranks (mem_markVersions_of_mem member)]
  refine and_congr Iff.rfl ⟨fun least => ?_, fun least => ?_⟩
  · intro other among name enabled
    obtain ⟨version, inside, rfl⟩ := List.mem_map.mp among
    exact least version (List.mem_filter.mpr ⟨inside, decide_eq_true name⟩) enabled
  · intro other among enabled
    obtain ⟨inside, name⟩ := List.mem_filter.mp among
    exact least other.view (List.mem_map_of_mem inside) (of_decide_eq_true name) enabled

end Priority

section Execution
variable {pluginList : List Fetched}

/-- A plugin of the backend as it is run. One without a path, a name or a version is not. -/
def Fetched.running (fetched : Fetched) : Option Running :=
  getInfoForRunningPlugins fetched.source fetched.metadata.path (packageInfo fetched).name ((packageInfo fetched).version.getD "")

theorem samePlugin_iff {plugin other : PluginInfo} : samePlugin plugin other = true ↔ other.view.key = plugin.view.key := by
  simp [samePlugin, PluginInfo.view, View.key]

theorem infoOf_eq (distinct : (pluginList.map fun fetched => (packageInfo fetched).view.key).Nodup) {fetched : Fetched}
    (member : fetched ∈ pluginList) {plugin : PluginInfo} (same : plugin.view.key = (packageInfo fetched).view.key) :
    infoOf (pluginList.map (·.source)) (pluginList.map (·.metadata.path)) (pluginList.map packageInfo) plugin = some fetched.running := by
  have unique : ((pluginList.map packageInfo).map fun plugin => plugin.view.key).Nodup := by
    rwa [List.map_map]
  have sought : samePlugin plugin = fun other => decide (other.view.key = (packageInfo fetched).view.key) := by
    funext other
    exact Bool.eq_iff_iff.mpr (samePlugin_iff.trans (by simp [same]))
  unfold infoOf
  rw [sought]
  cases found : (pluginList.map packageInfo).findIdx? fun other => decide (other.view.key = (packageInfo fetched).view.key) with
  | none =>
    refine absurd ?_ (Distinct.findIdx_none found)
    exact List.mem_map_of_mem (List.mem_map_of_mem member)
  | some index =>
    obtain ⟨inside, only⟩ := Distinct.findIdx_unique unique found
    obtain ⟨place, within, rfl⟩ := List.getElem_of_mem member
    obtain rfl : place = index := (only place (by simpa using within)).mp (by simp)
    simp [within, Fetched.running]

theorem mapM_some {α β : Type} {f : α → Option β} {g : α → β} {items : List α} (each : ∀ item ∈ items, f item = some (g item)) :
    items.mapM f = some (items.map g) := by
  induction items with
  | nil => rfl
  | cons item rest ih =>
    rw [List.mapM_cons, each item List.mem_cons_self, ih fun other member => each other (List.mem_cons_of_mem _ member)]
    rfl

theorem inRunningOrder_perm (plugins : List Running) : (inRunningOrder app plugins).Perm plugins :=
  List.filter_append_perm _ plugins

/-- The plugin is run when it is in the views and they are those of the settings. -/
def Chosen (views : List View) (view : View) : Prop := Preferred views view ∧ isCompatible app view.devDependencies = true

instance (views : List View) (view : View) : Decidable (Chosen app views view) := by
  unfold Chosen
  infer_instance

theorem shouldExecute_iff {plugins : List PluginInfo} (typed : ∀ plugin ∈ plugins, plugin.type.isSome)
    (distinct : (plugins.map fun plugin => plugin.view.key).Nodup) {marked : PluginInfo} (member : marked ∈ applyPluginPriority plugins) :
    shouldExecute app (withCompatibility app marked) = true ↔ Chosen app (plugins.map (·.view)) marked.view := by
  have loaded := applyPluginPriority_loaded typed distinct member
  simp only [shouldExecute, withCompatibility, decide_eq_true_eq, Option.some.injEq]
  constructor
  · intro runs
    exact ⟨loaded.mp runs.1, runs.2.1⟩
  · intro chosen
    refine ⟨loaded.mpr chosen.1, chosen.2, ?_⟩
    intro disabled
    exact of_decide_eq_true chosen.1.1 disabled.2

theorem executed_perm (distinct : (pluginList.map fun fetched => (packageInfo fetched).view.key).Nodup) {settings : List PluginInfo}
    {entry : Fetched → View} (keyed : ∀ fetched, (entry fetched).key = (packageInfo fetched).view.key)
    (describes : ((updateSettingsPackages (pluginList.map packageInfo) settings).map (·.view)).Perm (pluginList.map entry)) :
    ∃ executed, (fetchAndExecutePlugins app pluginList settings).executed = some executed ∧
      executed.Perm ((pluginList.filter fun fetched => Chosen app (pluginList.map entry) (entry fetched)).filterMap (·.running)) := by
  have typed : ∀ plugin ∈ updateSettingsPackages (pluginList.map packageInfo) settings, plugin.type.isSome := by
    intro plugin member
    obtain ⟨fetched, _, same⟩ := List.mem_map.mp (describes.mem_iff.mp (List.mem_map_of_mem member))
    have type : (packageInfo fetched).type = plugin.type := by
      have keys := (keyed fetched).symm.trans (congrArg View.key same)
      exact congrArg Prod.snd keys
    rw [← type]
    unfold packageInfo
    split <;> rfl
  have unique : ((updateSettingsPackages (pluginList.map packageInfo) settings).map fun plugin => plugin.view.key).Nodup := by
    have keys := describes.map View.key
    rw [List.map_map, List.map_map] at keys
    rw [show (fun plugin : PluginInfo => plugin.view.key) = View.key ∘ (·.view) from rfl, keys.nodup_iff]
    simpa only [Function.comp_def, keyed] using distinct
  have marked := (applyPluginPriority_perm (updateSettingsPackages (pluginList.map packageInfo) settings)).trans describes
  -- the plugin of a view, as it is run
  let run : View → Option Running := fun view =>
    (pluginList.find? fun fetched => (packageInfo fetched).view.key = view.key).bind (·.running)
  have runs : ∀ fetched ∈ pluginList, ∀ view : View, view.key = (packageInfo fetched).view.key → run view = fetched.running := by
    intro fetched member view same
    simp only [run, same, Distinct.find_unique distinct member, Option.bind_some]
  have viewed : ((((applyPluginPriority (updateSettingsPackages (pluginList.map packageInfo) settings)).map (withCompatibility app)).filter
      (shouldExecute app)).map (·.view)).Perm ((pluginList.map entry).filter fun view => Chosen app (pluginList.map entry) view) := by
    refine List.Perm.trans (List.Perm.of_eq ?_) (marked.filter _)
    rw [List.filter_map, List.filter_map, List.map_map]
    apply congrArg (List.map _)
    apply List.filter_congr
    intro plugin member
    refine Bool.eq_iff_iff.mpr ((shouldExecute_iff app typed unique member).trans ?_)
    refine Iff.trans (and_congr (Preferred.congr (fun view => ?_) plugin.view) Iff.rfl) (decide_eq_true_iff (p := Chosen _ _ _)).symm
    exact describes.mem_iff
  have infos : (((applyPluginPriority (updateSettingsPackages (pluginList.map packageInfo) settings)).map (withCompatibility app)).filter
      (shouldExecute app)).mapM (infoOf (pluginList.map (·.source)) (pluginList.map (·.metadata.path)) (pluginList.map packageInfo)) =
      some ((((applyPluginPriority (updateSettingsPackages (pluginList.map packageInfo) settings)).map (withCompatibility app)).filter
        (shouldExecute app)).map fun plugin => run plugin.view) := by
    apply mapM_some
    intro plugin member
    have among := (List.mem_filter.mp (viewed.mem_iff.mp (List.mem_map_of_mem member))).1
    obtain ⟨fetched, inside, same⟩ := List.mem_map.mp among
    have keys : plugin.view.key = (packageInfo fetched).view.key := by rw [← same, keyed]
    rw [infoOf_eq distinct inside keys, runs fetched inside plugin.view keys]
  refine ⟨_, by simp only [fetchAndExecutePlugins, infos, Option.map_some]; rfl, ?_⟩
  refine (inRunningOrder_perm app _).trans ?_
  rw [List.filterMap_map, show (id ∘ fun plugin : PluginInfo => run plugin.view) = run ∘ (·.view) from rfl, ← List.filterMap_map]
  refine (viewed.filterMap run).trans (List.Perm.of_eq ?_)
  rw [List.filter_map, List.filterMap_map]
  apply List.filterMap_congr
  intro fetched member
  exact runs fetched (List.mem_filter.mp member).1 (entry fetched) (keyed fetched)

end Execution

section Settings

/-- The choice of the user, which is to have a new plugin. -/
def choice (settings : List PluginInfo) (plugin : PluginInfo) : Option Bool :=
  match settings.find? (samePlugin plugin) with
  | some known => known.isEnabled
  | none => some true

def remembered (settings : List PluginInfo) (plugin : PluginInfo) : Option (List (String × String)) :=
  (settings.find? (samePlugin plugin)).bind (·.devDependencies)

/-- The dependencies by which the compatibility of a plugin is judged. -/
def judged (packageInfos settings : List PluginInfo) (plugin : PluginInfo) : Option (List (String × String)) :=
  if pluginsChanged packageInfos settings then plugin.devDependencies.or (remembered settings plugin) else remembered settings plugin

def judgedView (packageInfos settings : List PluginInfo) (plugin : PluginInfo) : View :=
  ⟨plugin.name, plugin.type, choice settings plugin, judged packageInfos settings plugin⟩

variable {packageInfos settings : List PluginInfo}

theorem updateSettingsPackages_changed (typed : ∀ plugin ∈ packageInfos, plugin.type.isSome) (changed : pluginsChanged packageInfos settings = true) :
    (updateSettingsPackages packageInfos settings).map (·.view) = packageInfos.map (judgedView packageInfos settings) := by
  unfold updateSettingsPackages
  rw [if_pos changed]
  split
  next nothing => rw [nothing]; rfl
  next =>
    rw [List.map_map]
    apply List.map_congr_left
    intro plugin member
    simp only [Function.comp_def, judgedView, choice, judged, if_pos changed, remembered]
    cases settings.find? (samePlugin plugin) with
    | none => simp [PluginInfo.view]
    | some known =>
      obtain ⟨type, isType⟩ := Option.isSome_iff_exists.mp (typed plugin member)
      simp [PluginInfo.view, merge, isType]

theorem samePlugin_eq (plugin : PluginInfo) : samePlugin plugin = fun other => decide (other.view.key = plugin.view.key) := by
  funext other
  exact Bool.eq_iff_iff.mpr (samePlugin_iff.trans (by simp))

theorem updateSettingsPackages_unchanged (distinct : (packageInfos.map fun plugin => plugin.view.key).Nodup)
    (unchanged : pluginsChanged packageInfos settings = false) (known : ∀ plugin ∈ packageInfos, ∃ other ∈ settings, samePlugin plugin other = true) :
    ((updateSettingsPackages packageInfos settings).map (·.view)).Perm (packageInfos.map (judgedView packageInfos settings)) := by
  have length : packageInfos.length = settings.length := by
    have both : ¬(packageInfos.length ≠ settings.length ∨ _) := of_decide_eq_false unchanged
    exact not_not.mp fun different => both (.inl different)
  have is : updateSettingsPackages packageInfos settings = settings := by
    unfold updateSettingsPackages
    rw [unchanged]
    split
    next nothing =>
      rw [nothing] at length
      exact (List.eq_nil_of_length_eq_zero length.symm).symm
    next => rfl
  have keys : (packageInfos.map fun plugin => plugin.view.key).Perm (settings.map fun plugin => plugin.view.key) := by
    apply List.Subperm.perm_of_length_le (List.subperm_of_subset distinct _)
    · simp [length]
    · intro key member
      obtain ⟨plugin, inside, rfl⟩ := List.mem_map.mp member
      obtain ⟨other, among, same⟩ := known plugin inside
      exact List.mem_map.mpr ⟨other, among, samePlugin_iff.mp same⟩
  have unique := keys.nodup_iff.mp distinct
  let viewOf : String × Option PluginType → View := fun key =>
    match settings.find? (fun other => other.view.key = key) with
    | some known => ⟨key.1, key.2, known.isEnabled, known.devDependencies⟩
    | none => ⟨key.1, key.2, some true, none⟩
  have views := keys.map viewOf
  rw [List.map_map, List.map_map] at views
  rw [is]
  refine List.Perm.trans (List.Perm.of_eq ?_) (views.symm.trans (List.Perm.of_eq ?_))
  · apply List.map_congr_left
    intro plugin member
    simp only [Function.comp_def, viewOf]
    rw [Distinct.find_unique unique member]
    rfl
  · apply List.map_congr_left
    intro plugin _
    simp only [Function.comp_def, viewOf, judgedView, choice, judged, unchanged, remembered, samePlugin_eq]
    cases settings.find? fun other => decide (other.view.key = plugin.view.key) <;> rfl

end Settings

section Selection
variable (pluginList : List Fetched) (settings : List PluginInfo)

/-- The plugin with the user's choice and with the dependencies of its own package. -/
def ownView (plugin : PluginInfo) : View := ⟨plugin.name, plugin.type, choice settings plugin, plugin.devDependencies⟩

/-- It is the version of its plugin that is to be run, if it is compatible. -/
def Fetched.Preferred (fetched : Fetched) : Prop :=
  PluginLoading.Preferred (pluginList.map fun other => ownView settings (packageInfo other)) (ownView settings (packageInfo fetched))

instance (fetched : Fetched) : Decidable (fetched.Preferred pluginList settings) := by
  unfold Fetched.Preferred
  infer_instance

/-- The preferred versions that are compatible according to their own packages. -/
def selected : List Fetched :=
  pluginList.filter fun fetched => fetched.Preferred pluginList settings ∧ isCompatible app (packageInfo fetched).devDependencies

structure Selecting : Prop where
  executes : ∃ executed, (fetchAndExecutePlugins app pluginList settings).executed = some executed ∧
    executed.Perm ((selected app pluginList settings).filterMap (·.running))
  single : ∀ executed, (fetchAndExecutePlugins app pluginList settings).executed = some executed → (executed.map (·.packageName)).Nodup
  keeps : ∀ fetched ∈ pluginList, ∃ kept,
    (fetchAndExecutePlugins app pluginList settings).settings.find? (samePlugin (packageInfo fetched)) = some kept ∧
      kept.isEnabled = choice settings (packageInfo fetched)
  again : ∀ executed, (fetchAndExecutePlugins app pluginList settings).executed = some executed →
    ∃ repeated, (fetchAndExecutePlugins app pluginList (fetchAndExecutePlugins app pluginList settings).settings).executed = some repeated ∧
      repeated.Perm executed

/-- What the settings remember does not lead the loader astray. -/
structure UpToDate : Prop where
  /-- Settings that look unchanged have all plugins. -/
  known : pluginsChanged (pluginList.map packageInfo) settings = false →
    ∀ fetched ∈ pluginList, ∃ plugin ∈ settings, samePlugin (packageInfo fetched) plugin = true
  /-- The remembered dependencies of a version that may run are as compatible as its own. -/
  same : ∀ fetched ∈ pluginList, fetched.Preferred pluginList settings → fetched.running.isSome →
    isCompatible app (judged (pluginList.map packageInfo) settings (packageInfo fetched)) = isCompatible app (packageInfo fetched).devDependencies

variable {app pluginList settings}

theorem packageInfo_typed : ∀ plugin ∈ pluginList.map packageInfo, plugin.type.isSome := by
  intro plugin member
  obtain ⟨fetched, _, rfl⟩ := List.mem_map.mp member
  unfold packageInfo
  split <;> rfl

theorem name_of_running {fetched : Fetched} {running : Running} (runs : fetched.running = some running) :
    running.packageName = (packageInfo fetched).name := by
  unfold Fetched.running getInfoForRunningPlugins at runs
  split at runs
  · cases runs
  · exact (congrArg Running.packageName (Option.some.inj runs)).symm

theorem filterMap_running {chosen other : Fetched → Bool} (same : ∀ fetched ∈ pluginList, fetched.running.isSome → chosen fetched = other fetched) :
    (pluginList.filter chosen).filterMap (·.running) = (pluginList.filter other).filterMap (·.running) := by
  rw [List.filterMap_filter, List.filterMap_filter]
  apply List.filterMap_congr
  intro fetched member
  cases runs : fetched.running with
  | none => simp
  | some running => rw [same fetched member (by simp [runs])]

theorem settings_complete (unchanged : pluginsChanged (pluginList.map packageInfo) settings = false) {plugin kept : PluginInfo}
    (found : (fetchAndExecutePlugins app pluginList settings).settings.find? (samePlugin plugin) = some kept) :
    ∃ known ∈ settings, samePlugin plugin known = true := by
  have viewed : kept.view ∈ (fetchAndExecutePlugins app pluginList settings).settings.map (·.view) :=
    List.mem_map_of_mem (List.mem_of_find?_eq_some found)
  simp only [fetchAndExecutePlugins, List.map_map] at viewed
  have among := (applyPluginPriority_perm _).mem_iff.mp viewed
  obtain ⟨known, inside, same⟩ := List.mem_map.mp among
  have key : samePlugin plugin known = true := by
    have is := List.find?_some found
    rw [samePlugin_iff] at is ⊢
    rw [← is, same]
  unfold updateSettingsPackages at inside
  split at inside
  · cases inside
  · rw [unchanged] at inside
    exact ⟨known, inside, key⟩

variable (distinct : (pluginList.map fun fetched => (packageInfo fetched).view.key).Nodup)
include distinct

theorem preferred_unique {fetched other : Fetched} (member : fetched ∈ pluginList) (among : other ∈ pluginList)
    (preferred : fetched.Preferred pluginList settings) (rival : other.Preferred pluginList settings)
    (name : (packageInfo fetched).name = (packageInfo other).name) : fetched = other := by
  apply List.inj_on_of_nodup_map distinct member among
  have below := preferred.2 _ (List.mem_map_of_mem among) name.symm rival.1
  have above := rival.2 _ (List.mem_map_of_mem member) name preferred.1
  obtain ⟨type, isType⟩ := Option.isSome_iff_exists.mp (packageInfo_typed _ (List.mem_map_of_mem member))
  obtain ⟨otherType, isOther⟩ := Option.isSome_iff_exists.mp (packageInfo_typed _ (List.mem_map_of_mem among))
  simp only [ownView, isType, isOther] at below above
  refine Prod.ext name ?_
  simp only [PluginInfo.view, View.key, isType, isOther, priority_injective (Nat.le_antisymm below above)]

variable (known : pluginsChanged (pluginList.map packageInfo) settings = false →
  ∀ fetched ∈ pluginList, ∃ plugin ∈ settings, samePlugin (packageInfo fetched) plugin = true)
include known

theorem updated_perm : ((updateSettingsPackages (pluginList.map packageInfo) settings).map (·.view)).Perm
    (pluginList.map fun fetched => judgedView (pluginList.map packageInfo) settings (packageInfo fetched)) := by
  rw [show (fun fetched => judgedView (pluginList.map packageInfo) settings (packageInfo fetched)) =
    judgedView (pluginList.map packageInfo) settings ∘ packageInfo from rfl, ← List.map_map]
  cases changed : pluginsChanged (pluginList.map packageInfo) settings with
  | true => exact List.Perm.of_eq (updateSettingsPackages_changed packageInfo_typed changed)
  | false =>
    apply updateSettingsPackages_unchanged _ changed
    · intro plugin member
      obtain ⟨fetched, inside, rfl⟩ := List.mem_map.mp member
      exact known changed fetched inside
    · rwa [List.map_map]

variable (app) in
theorem executed_judged : ∃ executed, (fetchAndExecutePlugins app pluginList settings).executed = some executed ∧
    executed.Perm ((pluginList.filter fun fetched => fetched.Preferred pluginList settings ∧
      isCompatible app (judged (pluginList.map packageInfo) settings (packageInfo fetched))).filterMap (·.running)) := by
  have keyed : ∀ fetched, (judgedView (pluginList.map packageInfo) settings (packageInfo fetched)).key = (packageInfo fetched).view.key :=
    fun _ => rfl
  obtain ⟨executed, runs, perm⟩ := executed_perm app distinct keyed (updated_perm distinct known)
  refine ⟨executed, runs, perm.trans (List.Perm.of_eq ?_)⟩
  apply filterMap_running
  intro fetched _ _
  apply decide_eq_decide.mpr
  refine and_congr (and_congr Iff.rfl ?_) Iff.rfl
  rw [List.forall_mem_map, List.forall_mem_map]
  rfl

variable (app) in
theorem settings_found {fetched : Fetched} (member : fetched ∈ pluginList) : ∃ kept,
    (fetchAndExecutePlugins app pluginList settings).settings.find? (samePlugin (packageInfo fetched)) = some kept ∧
      kept.view = judgedView (pluginList.map packageInfo) settings (packageInfo fetched) := by
  have views : ((fetchAndExecutePlugins app pluginList settings).settings.map (·.view)).Perm
      (pluginList.map fun fetched => judgedView (pluginList.map packageInfo) settings (packageInfo fetched)) := by
    simp only [fetchAndExecutePlugins, List.map_map]
    exact (applyPluginPriority_perm _).trans (updated_perm distinct known)
  have unique : ((fetchAndExecutePlugins app pluginList settings).settings.map fun plugin => plugin.view.key).Nodup := by
    have keys := views.map View.key
    rw [List.map_map, List.map_map] at keys
    exact keys.nodup_iff.mpr distinct
  obtain ⟨kept, inside, same⟩ := List.mem_map.mp (views.mem_iff.mpr (List.mem_map_of_mem member))
  have found := Distinct.find_unique unique inside
  have key : kept.view.key = (packageInfo fetched).view.key := by rw [same]; rfl
  rw [key] at found
  exact ⟨kept, by rw [samePlugin_eq, found], same⟩

theorem executed_single {executed : List Running} (runs : (fetchAndExecutePlugins app pluginList settings).executed = some executed) :
    (executed.map (·.packageName)).Nodup := by
  obtain ⟨_, is, perm⟩ := executed_judged app distinct known
  obtain rfl := Option.some.inj (runs.symm.trans is)
  rw [(perm.map _).nodup_iff, List.Nodup, List.pairwise_map, List.pairwise_filterMap]
  refine (((List.Nodup.of_map _ distinct).filter _).imp_of_mem ?_)
  intro fetched other member among different running runs rival also same
  obtain ⟨member, preferred⟩ := List.mem_filter.mp member
  obtain ⟨among, preferredOther⟩ := List.mem_filter.mp among
  refine different (preferred_unique distinct member among (of_decide_eq_true preferred).1 (of_decide_eq_true preferredOther).1 ?_)
  rw [← name_of_running runs, ← name_of_running also, same]

theorem executed_again (same : ∀ fetched ∈ pluginList, fetched.Preferred pluginList settings → fetched.running.isSome →
      isCompatible app (judged (pluginList.map packageInfo) settings (packageInfo fetched)) = isCompatible app (packageInfo fetched).devDependencies)
    {executed : List Running} (runs : (fetchAndExecutePlugins app pluginList settings).executed = some executed) : ∃ repeated,
      (fetchAndExecutePlugins app pluginList (fetchAndExecutePlugins app pluginList settings).settings).executed = some repeated ∧
        repeated.Perm executed := by
  obtain ⟨_, is, perm⟩ := executed_judged app distinct known
  obtain rfl := Option.some.inj (runs.symm.trans is)
  have present : ∀ fetched ∈ pluginList,
      ∃ plugin ∈ (fetchAndExecutePlugins app pluginList settings).settings, samePlugin (packageInfo fetched) plugin = true := by
    intro fetched member
    obtain ⟨kept, found, _⟩ := settings_found app distinct known member
    exact ⟨kept, List.mem_of_find?_eq_some found, List.find?_some found⟩
  have chosen : ∀ fetched ∈ pluginList,
      choice (fetchAndExecutePlugins app pluginList settings).settings (packageInfo fetched) = choice settings (packageInfo fetched) := by
    intro fetched member
    obtain ⟨kept, found, view⟩ := settings_found app distinct known member
    rw [choice, found]
    exact congrArg View.isEnabled view
  have preferred : ∀ fetched ∈ pluginList,
      (fetched.Preferred pluginList (fetchAndExecutePlugins app pluginList settings).settings ↔ fetched.Preferred pluginList settings) := by
    intro fetched member
    have views : ∀ other ∈ pluginList, ownView (fetchAndExecutePlugins app pluginList settings).settings (packageInfo other) =
        ownView settings (packageInfo other) := fun other among => by rw [ownView, chosen other among, ownView]
    rw [Fetched.Preferred, Fetched.Preferred, views fetched member, List.map_congr_left views]
  obtain ⟨repeated, repeats, same'⟩ := executed_judged app distinct fun _ => present
  refine ⟨repeated, repeats, same'.trans (List.Perm.trans (List.Perm.of_eq ?_) perm.symm)⟩
  apply filterMap_running
  intro fetched member running
  apply decide_eq_decide.mpr
  rw [preferred fetched member]
  refine and_congr_right fun best => ?_
  have own := same fetched member best running
  obtain ⟨kept, found, view⟩ := settings_found app distinct known member
  have memory : remembered (fetchAndExecutePlugins app pluginList settings).settings (packageInfo fetched) =
      judged (pluginList.map packageInfo) settings (packageInfo fetched) := by
    rw [remembered, found]
    exact congrArg View.devDependencies view
  rw [judged, memory]
  split
  · cases has : (packageInfo fetched).devDependencies with
    | none => rw [Option.none_or]
    | some dependencies =>
      rw [has] at own
      rw [Option.some_or, own]
  · rfl

omit known in
/-- The loader selects by priority exactly if the settings are up to date. -/
theorem selecting_iff : Selecting app pluginList settings ↔ UpToDate app pluginList settings := by
  constructor
  · intro selecting
    have known : pluginsChanged (pluginList.map packageInfo) settings = false →
        ∀ fetched ∈ pluginList, ∃ plugin ∈ settings, samePlugin (packageInfo fetched) plugin = true := by
      intro unchanged fetched member
      obtain ⟨kept, found, _⟩ := selecting.keeps fetched member
      exact settings_complete unchanged found
    refine ⟨known, ?_⟩
    intro fetched member preferred running
    obtain ⟨executed, runs, perm⟩ := selecting.executes
    obtain ⟨_, is, judges⟩ := executed_judged app distinct known
    obtain rfl := Option.some.inj (runs.symm.trans is)
    obtain ⟨plugin, runs⟩ := Option.isSome_iff_exists.mp running
    -- a plugin that is run is run as one of the list, which is the preferred version of its name
    have runsIff : ∀ compatible : Fetched → Bool, plugin ∈ (pluginList.filter fun other => other.Preferred pluginList settings ∧
        compatible other).filterMap (·.running) ↔ compatible fetched = true := by
      intro compatible
      rw [List.mem_filterMap]
      constructor
      · rintro ⟨other, among, also⟩
        obtain ⟨among, chosen⟩ := List.mem_filter.mp among
        obtain ⟨rival, compatible⟩ := of_decide_eq_true chosen
        have name := (name_of_running runs).symm.trans (name_of_running also)
        rwa [preferred_unique distinct member among preferred rival name]
      · intro compatible
        exact ⟨fetched, List.mem_filter.mpr ⟨member, decide_eq_true ⟨preferred, compatible⟩⟩, runs⟩
    apply Bool.eq_iff_iff.mpr
    rw [← runsIff fun fetched => isCompatible app (judged (pluginList.map packageInfo) settings (packageInfo fetched)),
      ← runsIff fun fetched => isCompatible app (packageInfo fetched).devDependencies, ← judges.mem_iff, perm.mem_iff]
    rfl
  · intro current
    obtain ⟨executed, runs, perm⟩ := executed_judged app distinct current.known
    refine ⟨⟨executed, runs, perm.trans (List.Perm.of_eq ?_)⟩, fun _ => executed_single distinct current.known, ?_,
      fun _ => executed_again distinct current.known current.same⟩
    · apply filterMap_running
      intro fetched member running
      apply decide_eq_decide.mpr
      exact and_congr_right fun preferred => by rw [current.same fetched member preferred running]
    · intro fetched member
      obtain ⟨kept, found, view⟩ := settings_found app distinct current.known member
      exact ⟨kept, found, congrArg View.isEnabled view⟩

end Selection

/-- On the first start the settings are empty, and two versions of a plugin are there. -/
theorem selecting_first : Selecting ⟨Nat, fun text => if text = "0.13.0" then some 13 else none, (8 ≤ ·), true, fun _ _ => false⟩
    [⟨⟨"static-plugins/pods", .shipped, "pods"⟩,
        some ⟨"pods", none, none, some "1.0.0", none, none, none, none, some [("@kinvolk/headlamp-plugin", "0.13.0")]⟩, "shipped"⟩,
      ⟨⟨"plugins/pods", .development, "pods"⟩,
        some ⟨"pods", none, none, some "1.0.1", none, none, none, none, some [("@kinvolk/headlamp-plugin", "0.13.0")]⟩, "changed"⟩] [] := by
  apply (selecting_iff (by decide +kernel)).mpr
  refine ⟨fun unchanged => absurd unchanged (by decide +kernel), fun fetched member _ _ => ?_⟩
  have judged : ∀ plugin : PluginInfo, plugin.devDependencies.or (remembered [] plugin) = plugin.devDependencies := fun plugin => by simp [remembered]
  rw [PluginLoading.judged, if_pos (by decide +kernel), judged]

/-- A plugin is built with another version of the library, and keeps its own version. -/
theorem runs_incompatible : ¬Selecting
    ⟨Nat, fun text => if text = "0.13.0" then some 13 else if text = "0.7.0" then some 7 else none, (8 ≤ ·), true, fun _ _ => false⟩
    [⟨⟨"plugins/pods", .development, "pods"⟩,
      some ⟨"pods", none, none, some "1.0.0", none, none, none, none, some [("@kinvolk/headlamp-plugin", "0.7.0")]⟩, "source"⟩]
    [⟨"pods", some "pods", some .development, some "1.0.0", some true, some true, none, some true, some [("@kinvolk/headlamp-plugin", "0.13.0")]⟩] := by
  intro selecting
  obtain ⟨executed, runs, perm⟩ := selecting.executes
  have one : executed.length = 1 := by
    rw [show executed = _ from (Option.some.inj runs).symm]
    decide +kernel
  rw [perm.length_eq] at one
  exact absurd one (by decide +kernel)

end K8Sense.Frontend.PluginLoading
