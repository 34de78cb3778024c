import K8Sense.Library.Paths
import K8Sense.Plugins.Refresh

/-! Which directory a plugin is listed from, and which one is removed when it is deleted
by the name and the type that it is listed with. -/

namespace K8Sense.Plugins
open Paths

/-- A file is read for whether it marks a plugin of the catalog. -/
structure Content where
  isManagedByHeadlampPlugin : Bool
deriving DecidableEq

/-- The plugin directories where they are set, as `filepath.Abs` leaves them. -/
structure PluginDirs where
  staticPluginDir : Option Path
  userPluginDir : Option Path
  pluginDir : Option Path
  absolute : ∀ dir, some dir ∈ [staticPluginDir, userPluginDir, pluginDir] → ∀ part ∈ dir, Plain part

section
variable (disk : Disk Content)

def isCatalogInstalledPlugin (pluginDir : Path) (pluginName : String) : Bool :=
  match disk.stat (pluginDir ++ [pluginName, "package.json"]) with
  | some (.file content) => content.isManagedByHeadlampPlugin
  | _ => false

def entryOf (dir : Path) (name : String) : Entry where
  name := name
  isDir := disk.stat (dir ++ [name]) == some .dir
  main := (disk.stat (dir ++ [name, "main.js"])).isSome
  isManagedByHeadlampPlugin := isCatalogInstalledPlugin disk dir name

def pluginDirEntries : Option Path → Except String (List Entry)
  | none => .ok []
  | some pluginDir =>
    match disk.stat pluginDir with
    | none => .ok []
    | some .dir => .ok ((disk.readDir pluginDir).map (entryOf disk pluginDir))
    | some (.file _) => .error ("\"/" ++ Text.join '/' pluginDir ++ "\" is not a directory")

def directories (dirs : PluginDirs) : Directories :=
  ⟨pluginDirEntries disk dirs.staticPluginDir, pluginDirEntries disk dirs.userPluginDir, pluginDirEntries disk dirs.pluginDir⟩

def isSubdirectory (parentDir dirPath : Path) : Bool :=
  let rel := (relText parentDir dirPath).toList
  !("..".toList.isPrefixOf rel) && !(".".toList.isPrefixOf rel)

/-- What is left after a deletion, where the plugin exists. -/
def tryDeletePlugin (dir : Option Path) (filename : String) : Except String (Option (Disk Content)) :=
  match dir with
  | none => .ok none
  | some absDir =>
    let absPath := Paths.join absDir filename
    match disk.stat absPath with
    | none => .ok none
    | some _ =>
      if isSubdirectory absDir absPath then .ok (some (disk.removeAll absPath))
      else .error ("plugin path '/" ++ Text.join '/' absPath ++ "' is not a subdirectory of '/" ++ Text.join '/' absDir ++ "'")

/-- With no type, the user directory comes first. -/
def delete (userPluginDir pluginDir : Option Path) (filename pluginType : String) : Except String (Disk Content) := do
  if pluginType ≠ "" ∧ pluginType ≠ "user" ∧ pluginType ≠ "development" then
    throw ("invalid plugin type '" ++ pluginType ++ "': must be 'user' or 'development'")
  let mut deleted : Option (Disk Content) := none
  if pluginType ≠ "development" then
    deleted ← tryDeletePlugin disk userPluginDir filename
    if pluginType = "user" ∧ deleted.isNone then
      throw ("plugin '" ++ filename ++ "' not found in user-plugins directory")
  if deleted.isNone ∧ (pluginType = "" ∨ pluginType = "development") then
    deleted ← tryDeletePlugin disk pluginDir filename
    if pluginType = "development" ∧ deleted.isNone then
      throw ("plugin '" ++ filename ++ "' not found in development directory")
  match deleted with
  | none => throw ("plugin '" ++ filename ++ "' not found or cannot be deleted (shipped plugins cannot be deleted)")
  | some disk => return disk

end

def PluginType.text : PluginType → String
  | .development => "development"
  | .user => "user"
  | .shipped => "shipped"

/-- The file servers behind the paths of the list. -/
def servedFrom (dirs : PluginDirs) (metadata : PluginMetadata) : Option Path :=
  match Text.split '/' metadata.path with
  | ["plugins", name] => dirs.pluginDir.map (· ++ [name])
  | ["user-plugins", name] => dirs.userPluginDir.map (· ++ [name])
  | ["static-plugins", name] => dirs.staticPluginDir.map (· ++ [name])
  | _ => none

/-- Deleting a plugin by its listed name and type removes the directory that it is served
from, and nothing else. -/
def RemovesServed (disk : Disk Content) (dirs : PluginDirs) (metadata : PluginMetadata) : Prop :=
  ∃ served after, servedFrom dirs metadata = some served ∧
    delete disk dirs.userPluginDir dirs.pluginDir metadata.name metadata.type.text = .ok after ∧
    ∀ path, path ≠ [] → after.stat path = if served <+: path then none else disk.stat path

/-- The name does not start with a dot, and the plugin is not one of the catalog that is
listed as a user's although it lies in the development directory. -/
structure Removable (disk : Disk Content) (dirs : PluginDirs) (metadata : PluginMetadata) : Prop where
  visible : ".".toList.isPrefixOf metadata.name.toList = false
  placed : ∀ dir, dirs.pluginDir = some dir → servedFrom dirs metadata = some (dir ++ [metadata.name]) →
    isCatalogInstalledPlugin disk dir metadata.name = true → dirs.userPluginDir = some dir

section
variable {disk : Disk Content} {dirs : PluginDirs} {metadata : PluginMetadata} {dir : Path} {name : String}

theorem isSubdirectory_child (dir : Path) (name : String) :
    isSubdirectory dir (dir ++ [name]) = !(".".toList.isPrefixOf name.toList) := by
  simp only [isSubdirectory, relText_child]
  cases dotted : ".".toList.isPrefixOf name.toList with
  | true => rw [Bool.not_true, Bool.and_false]
  | false =>
    have single : "..".toList.isPrefixOf name.toList = false := by
      rw [Bool.eq_false_iff, ne_eq, List.isPrefixOf_iff_prefix] at dotted ⊢
      intro double
      exact dotted ((List.prefix_append ['.'] ['.']).trans double)
    rw [single, Bool.not_false, Bool.and_true]

theorem tryDeletePlugin_ok_iff (plainDir : ∀ part ∈ dir, Plain part) (plain : Plain name) {after : Disk Content} :
    tryDeletePlugin disk (some dir) name = .ok (some after) ↔ (disk.stat (dir ++ [name])).isSome = true ∧
      ".".toList.isPrefixOf name.toList = false ∧ after = disk.removeAll (dir ++ [name]) := by
  unfold tryDeletePlugin
  simp only [join_plain plainDir plain, isSubdirectory_child]
  cases disk.stat (dir ++ [name]) with
  | none => simp
  | some node =>
    cases ".".toList.isPrefixOf name.toList with
    | true => simp
    | false => simp [eq_comm]

theorem delete_ok_iff {userPluginDir pluginDir : Option Path} {pluginType : PluginType} (notShipped : pluginType ≠ .shipped)
    {after : Disk Content} : delete disk userPluginDir pluginDir name pluginType.text = .ok after ↔
      tryDeletePlugin disk (if pluginType = .user then userPluginDir else pluginDir) name = .ok (some after) := by
  cases pluginType with
  | shipped => contradiction
  | user =>
    cases tried : tryDeletePlugin disk userPluginDir name with
    | error => simp [delete, PluginType.text, tried, bind, Except.bind]
    | ok deleted => cases deleted <;> simp [delete, PluginType.text, tried, bind, Except.bind, throw, throwThe, MonadExceptOf.throw, pure, Except.pure]
  | development =>
    cases tried : tryDeletePlugin disk pluginDir name with
    | error => simp [delete, PluginType.text, tried, bind, Except.bind]
    | ok deleted => cases deleted <;> simp [delete, PluginType.text, tried, bind, Except.bind, throw, throwThe, MonadExceptOf.throw, pure, Except.pure]

theorem split_listed {base : String} (free : '/' ∉ base.toList) (plain : Plain name) :
    Text.split '/' (base ++ "/" ++ name) = [base, name] := by
  rw [Text.join_pair]
  apply Text.split_join (List.cons_ne_nil _ _)
  simp [free, plain.free]

theorem listed_from {source : Option Path} {entries : List Entry} {base : String} {pluginType : Entry → PluginType}
    (read : pluginDirEntries disk source = .ok entries) (member : metadata ∈ pluginsOf base pluginType entries) :
    ∃ dir, source = some dir ∧ disk.stat (dir ++ [metadata.name]) = some .dir ∧ metadata.path = base ++ "/" ++ metadata.name ∧
      metadata.type = pluginType (entryOf disk dir metadata.name) := by
  obtain ⟨entry, inside, rfl⟩ := List.mem_map.mp member
  obtain ⟨present, valid⟩ := List.mem_filter.mp inside
  unfold pluginDirEntries at read
  split at read
  next =>
    cases read
    simp at present
  next dir =>
    split at read
    · cases read
      simp at present
    · cases read
      obtain ⟨name, _, rfl⟩ := List.mem_map.mp present
      rw [Bool.and_eq_true] at valid
      exact ⟨dir, rfl, beq_iff_eq.mp valid.1, rfl, rfl⟩
    · cases read

theorem removed_unique {served removed : Path} {node other : Node Content} (nonempty : served ≠ []) (nonemptyOther : removed ≠ [])
    (found : disk.stat served = some node) (foundOther : disk.stat removed = some other)
    (exact : ∀ path, path ≠ [] → (disk.removeAll removed).stat path = if served <+: path then none else disk.stat path) :
    served = removed := by
  have gone := exact served nonempty
  have goneOther := exact removed nonemptyOther
  rw [Disk.stat_removeAll nonempty, if_pos (List.prefix_refl served), found] at gone
  rw [Disk.stat_removeAll nonemptyOther, if_pos (List.prefix_refl removed), foundOther] at goneOther
  have inside : removed <+: served := by
    by_contra beside
    simp [beside] at gone
  have around : served <+: removed := by
    by_contra beside
    simp [beside] at goneOther
  exact around.eq_of_length_le inside.length_le

/-- A listed plugin that is not shipped has a directory in the user or the development
directory. -/
structure Origin (disk : Disk Content) (dirs : PluginDirs) (metadata : PluginMetadata) (dir : Path) : Prop where
  found : disk.stat (dir ++ [metadata.name]) = some .dir
  served : servedFrom dirs metadata = some (dir ++ [metadata.name])
  source : dirs.userPluginDir = some dir ∧ metadata.type = .user ∨ dirs.pluginDir = some dir ∧
    metadata.type = if isCatalogInstalledPlugin disk dir metadata.name then .user else .development

theorem listed_origin {list : List PluginMetadata} (listed : generatePluginPaths (directories disk dirs) = .ok list)
    (member : metadata ∈ list) (notShipped : metadata.type ≠ .shipped) : ∃ dir, Origin disk dirs metadata dir := by
  simp only [generatePluginPaths, directories] at listed
  cases shipped : pluginDirEntries disk dirs.staticPluginDir with
  | error => simp [shipped, bind, Except.bind] at listed
  | ok staticPlugins =>
    cases user : pluginDirEntries disk dirs.userPluginDir with
    | error => simp [shipped, user, bind, Except.bind] at listed
    | ok userPlugins =>
      cases dev : pluginDirEntries disk dirs.pluginDir with
      | error => simp [shipped, user, dev, bind, Except.bind] at listed
      | ok devPlugins =>
        simp only [shipped, user, dev, bind, Except.bind, pure, Except.pure, Except.ok.injEq] at listed
        subst listed
        rcases List.mem_append.mp member with early | fromDev
        · rcases List.mem_append.mp early with fromStatic | fromUser
          · obtain ⟨_, _, _, _, type⟩ := listed_from shipped fromStatic
            exact absurd type notShipped
          · obtain ⟨dir, source, found, path, type⟩ := listed_from user fromUser
            have plain : Plain metadata.name := Disk.plain_of_stat found _ (by simp)
            refine ⟨dir, found, ?_, Or.inl ⟨source, type⟩⟩
            rw [servedFrom, path, split_listed (by decide) plain]
            simp [source]
        · obtain ⟨dir, source, found, path, type⟩ := listed_from dev fromDev
          have plain : Plain metadata.name := Disk.plain_of_stat found _ (by simp)
          refine ⟨dir, found, ?_, Or.inr ⟨source, type⟩⟩
          rw [servedFrom, path, split_listed (by decide) plain]
          simp [source]

theorem looked_for_iff (origin : Origin disk dirs metadata dir) :
    (if metadata.type = .user then dirs.userPluginDir else dirs.pluginDir) = some dir ↔
      ∀ other, dirs.pluginDir = some other → servedFrom dirs metadata = some (other ++ [metadata.name]) →
        isCatalogInstalledPlugin disk other metadata.name = true → dirs.userPluginDir = some other := by
  have placed : ∀ other, servedFrom dirs metadata = some (other ++ [metadata.name]) → other = dir := by
    intro other served
    rw [origin.served] at served
    exact (List.append_cancel_right (Option.some.inj served)).symm
  rcases origin.source with ⟨user, type⟩ | ⟨dev, type⟩
  · rw [if_pos type]
    constructor
    · intro _ other _ served _
      rw [placed other served, user]
    · intro _
      exact user
  · cases marked : isCatalogInstalledPlugin disk dir metadata.name with
    | true =>
      rw [marked, if_pos rfl] at type
      rw [if_pos type]
      constructor
      · intro user other _ served _
        rw [placed other served, user]
      · intro all
        exact all dir dev origin.served marked
    | false =>
      rw [marked] at type
      have notUser : metadata.type ≠ .user := by simp [type]
      rw [if_neg notUser]
      constructor
      · intro _ other _ served wrong
        rw [placed other served, marked] at wrong
        contradiction
      · intro _
        exact dev

/-- A listed plugin that is not shipped is deleted from where it is served exactly if its
name has no dot in front and its type tells its directory. -/
theorem removesServed_iff {list : List PluginMetadata} (listed : generatePluginPaths (directories disk dirs) = .ok list)
    (member : metadata ∈ list) (notShipped : metadata.type ≠ .shipped) :
    RemovesServed disk dirs metadata ↔ Removable disk dirs metadata := by
  obtain ⟨dir, origin⟩ := listed_origin listed member notShipped
  have parts := Disk.plain_of_stat origin.found
  have plain : Plain metadata.name := parts _ (by simp)
  have plainDir : ∀ part ∈ dir, Plain part := fun part inside => parts part (by simp [inside])
  constructor
  · rintro ⟨served, after, place, deleted, exact⟩
    obtain rfl : dir ++ [metadata.name] = served := Option.some.inj (origin.served.symm.trans place)
    rw [delete_ok_iff notShipped] at deleted
    cases source : (if metadata.type = .user then dirs.userPluginDir else dirs.pluginDir) with
    | none => simp [source, tryDeletePlugin] at deleted
    | some other =>
      rw [source] at deleted
      have plainOther : ∀ part ∈ other, Plain part := by
        apply dirs.absolute other
        rw [← source]
        split <;> simp
      obtain ⟨there, visible, rfl⟩ := (tryDeletePlugin_ok_iff plainOther plain).mp deleted
      obtain ⟨node, there⟩ := Option.isSome_iff_exists.mp there
      have same := removed_unique (by simp) (by simp) origin.found there exact
      rw [← List.append_cancel_right same] at source
      exact ⟨visible, (looked_for_iff origin).mp source⟩
  · intro removable
    refine ⟨dir ++ [metadata.name], disk.removeAll (dir ++ [metadata.name]), origin.served, ?_, ?_⟩
    · rw [delete_ok_iff notShipped, (looked_for_iff origin).mpr removable.placed, tryDeletePlugin_ok_iff plainDir plain, origin.found]
      exact ⟨rfl, removable.visible, rfl⟩
    · intro path nonempty
      exact Disk.stat_removeAll nonempty

end

section
/-- Two directories for plugins, with the plugin `charts` in the first, and `charts`, which
comes from the catalog, in the second one. -/
def crowded : Disk Content where
  files := [(["user"], .dir), (["user", "charts"], .dir), (["user", "charts", "main.js"], .file ⟨false⟩), (["dev"], .dir),
    (["dev", "charts"], .dir), (["dev", "charts", "main.js"], .file ⟨false⟩), (["dev", "charts", "package.json"], .file ⟨true⟩)]
  distinct := by decide
  plain := by decide
  inside := by decide

def twoDirs : PluginDirs where
  staticPluginDir := none
  userPluginDir := some ["user"]
  pluginDir := some ["dev"]
  absolute := by simp +decide

theorem crowded_listed : generatePluginPaths (directories crowded twoDirs) =
    .ok [⟨"user-plugins/charts", .user, "charts"⟩, ⟨"plugins/charts", .user, "charts"⟩] := by decide +kernel

theorem users_charts_deleted : RemovesServed crowded twoDirs ⟨"user-plugins/charts", .user, "charts"⟩ := by
  apply (removesServed_iff crowded_listed (by simp) (by simp)).mpr
  refine ⟨by decide +kernel, ?_⟩
  intro dir there served
  obtain rfl : ["dev"] = dir := Option.some.inj there
  exact absurd served (by decide +kernel)

/-- Where a plugin of the catalog lies in the development directory, the user's plugin of
the same name is removed in its place. -/
theorem wrong_charts_deleted : ¬∀ (disk : Disk Content) (dirs : PluginDirs) (list : List PluginMetadata) (metadata : PluginMetadata),
    generatePluginPaths (directories disk dirs) = .ok list → metadata ∈ list → metadata.type ≠ .shipped →
      RemovesServed disk dirs metadata := by
  intro all
  obtain ⟨served, after, place, deleted, exact⟩ := all crowded twoDirs _ ⟨"plugins/charts", .user, "charts"⟩ crowded_listed (by simp) (by simp)
  have removed : (delete crowded (some ["user"]) (some ["dev"]) "charts" "user").toOption.map (·.stat ["user", "charts"]) = some none := by
    decide +kernel
  have left : after.stat ["user", "charts"] = none := by
    rw [show delete crowded (some ["user"]) (some ["dev"]) "charts" "user" = .ok after from deleted] at removed
    exact Option.some.inj removed
  have there : servedFrom twoDirs ⟨"plugins/charts", .user, "charts"⟩ = some ["dev", "charts"] := by decide +kernel
  obtain rfl : ["dev", "charts"] = served := Option.some.inj (there.symm.trans place)
  have kept := exact ["user", "charts"] (by simp)
  rw [left] at kept
  exact absurd kept (by decide +kernel)

end

end K8Sense.Plugins
