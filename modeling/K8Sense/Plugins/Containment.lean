import K8Sense.Plugins.Footprint

/-! The places that the installation of a plugin touches, and the packages whose installation
stays in its temporary folder and in the folder of the plugin. -/

namespace K8Sense.Plugins.Containment
open K8Sense.Action Packages Paths Places Installation Footprint

section Places
variable (computer : Computer) (disk : Disk) (pluginInfo : ArtifactHubHeadlampPkg) (destinationFolder : Location)

/-- In the plugin's own folder, directly under the destination folder. -/
def Own (location : Location) : Prop :=
  ∃ part, pluginFolder computer destinationFolder pluginInfo.name = destinationFolder.child part ∧
    (destinationFolder.child part).under location = true

def Inside (location : Location) : Prop := computer.tempDir.under location = true ∨ Own computer pluginInfo destinationFolder location

def Contained (state : State) : Prop := ∀ location, state.touched location = true → Inside computer pluginInfo destinationFolder location

/-- The folder that `mkdtemp` makes has not been there, and nothing else has its name. -/
structure Fresh : Prop where
  absent : ∀ location, computer.tempDir.under location = true → disk location = none
  working : (disk computer.cwd).isSome = true
  destination : computer.tempDir.under destinationFolder = false
  named : ∀ folder : Location, computer.tempDir ≠ folder.child "package.json"
  unknown : ∀ archiveURL, pluginInfo.archiveURL = some archiveURL → computer.tempDir ≠ computer.cwd.child (fileNameOf computer archiveURL)

end Places

section Condition
variable (computer : Computer) (disk : Disk) (progressCallback : Bool) (pluginInfo : ArtifactHubHeadlampPkg) (destinationFolder : Location)
  (headlampVersion : String)

/-- Some answers let the package be installed. -/
structure Installable : Prop where
  accepts : Accepts computer pluginInfo headlampVersion
  named : Proper pluginInfo.name
  main : Downloadable computer pluginInfo.archiveURL pluginInfo.archiveChecksum
  extra : ∃ matching, getMatchingExtraFiles computer (pluginInfo.extraFiles.getD []) = some matching ∧
    ∀ file ∈ matching, progressCallback = true ∨ Downloadable computer (some file.url) file.checksum
  described : ∃ content, (computer.withMetadata content pluginInfo).isSome = true

/-- The names are those of folders, nothing is moved outside, and the destination folder exists, each
as far as an installation may come. -/
structure Careful : Prop where
  proper : Accepts computer pluginInfo headlampVersion → Downloadable computer pluginInfo.archiveURL pluginInfo.archiveChecksum →
    Proper pluginInfo.name ∨ Unsaved computer.cwd pluginInfo.archiveURL
  confined : Accepts computer pluginInfo headlampVersion → Downloadable computer pluginInfo.archiveURL pluginInfo.archiveChecksum →
    Proper pluginInfo.name → ∀ matching, getMatchingExtraFiles computer (pluginInfo.extraFiles.getD []) = some matching →
    Confined computer progressCallback (Inside computer pluginInfo destinationFolder) ((computer.tempDir.child pluginInfo.name).child "bin") matching
  folder : Installable computer progressCallback pluginInfo headlampVersion → Proper (basename computer.win32 pluginInfo.name)
  destination : Installable computer progressCallback pluginInfo headlampVersion → (disk destinationFolder).isSome = true

end Condition

variable {computer : Computer} {disk : Disk} {progressCallback : Bool} {pluginInfo : ArtifactHubHeadlampPkg} {destinationFolder : Location}
  {headlampVersion : String}

theorem pluginFolder_eq (computer : Computer) {pluginInfo : ArtifactHubHeadlampPkg} (valid : validatePluginName pluginInfo.name = true)
    (destinationFolder : Location) :
    pluginFolder computer destinationFolder pluginInfo.name =
      if Proper (basename computer.win32 pluginInfo.name) then destinationFolder.child (basename computer.win32 pluginInfo.name)
      else destinationFolder := by
  rw [pluginFolder, join_plain (basename_plain _ _) (basename_ne_up valid _)]

theorem not_under_child (folder : Location) (name : String) : (folder.child name).under folder = false :=
  not_under_below folder (List.cons_ne_nil name [])

theorem destination_not_inside (fresh : Fresh computer disk pluginInfo destinationFolder) :
    ¬Inside computer pluginInfo destinationFolder destinationFolder := by
  intro inside
  rcases inside with temp | ⟨part, _, own⟩
  · exact absurd temp (Bool.eq_false_iff.mp fresh.destination)
  · exact absurd own (Bool.eq_false_iff.mp (not_under_child _ _))

/-! A careful package stays inside. -/

/-- Nothing outside has been touched, and what has not been touched is as it was. -/
def Sound (computer : Computer) (disk : Disk) (pluginInfo : ArtifactHubHeadlampPkg) (destinationFolder : Location) (state : State) : Prop :=
  Contained computer pluginInfo destinationFolder state ∧ ∀ location, state.touched location = false → state.disk location = disk location

theorem tolerates_sound : Tolerates (Sound computer disk pluginInfo destinationFolder) (Inside computer pluginInfo destinationFolder) :=
  ((tolerates_within _).and (tolerates_untouched disk)).weaken fun _ inside => ⟨inside, trivial⟩

theorem Sound.outside {state : State} (sound : Sound computer disk pluginInfo destinationFolder state) {location : Location}
    (outside : ¬Inside computer pluginInfo destinationFolder location) : state.disk location = disk location :=
  sound.2 location (Bool.eq_false_iff.mpr fun touched => outside (sound.1 location touched))

theorem ends_moveDirs {world : World} {state : State} {source target : Location}
    (onto : ∀ location, target.under location = true → Inside computer pluginInfo destinationFolder location)
    (off : ∀ location, source.under location = true → Inside computer pluginInfo destinationFolder location)
    (sound : Sound computer disk pluginInfo destinationFolder state) :
    Ends (moveDirs world (some source) target) (fun _ => Sound computer disk pluginInfo destinationFolder)
      (fun _ => Sound computer disk pluginInfo destinationFolder) state := by
  unfold moveDirs
  rw [ends_bind]
  apply (tolerates_sound.ends_cpSync onto sound).mono
  · intro _ next ⟨sound, _⟩
    exact (tolerates_sound.ends_rmSyncRecursive off sound).mono (fun _ _ kept => kept.1) fun _ _ kept => kept.1
  · exact fun _ _ kept => kept.1

theorem installs (fresh : Fresh computer disk pluginInfo destinationFolder)
    (careful : Careful computer disk progressCallback pluginInfo destinationFolder headlampVersion) (world : World) {state : State}
    (begins : state.disk = disk) (sound : Sound computer disk pluginInfo destinationFolder state) :
    Ends (installFromPluginPkg computer world progressCallback pluginInfo destinationFolder headlampVersion)
      (fun _ => Sound computer disk pluginInfo destinationFolder) (fun _ => Sound computer disk pluginInfo destinationFolder) state := by
  have temp : ∀ location, computer.tempDir.under location = true → Inside computer pluginInfo destinationFolder location := fun _ => .inl
  unfold installFromPluginPkg
  apply ends_reporting progressCallback tolerates_sound
  rw [ends_bind]
  apply ends_downloadExtractArchive computer world progressCallback tolerates_sound _ _ (by rw [begins]; exact fresh.absent) temp sound
  · exact fun _ next sound _ => sound
  intro next sound accepts there
  by_cases downloadable : Downloadable computer pluginInfo.archiveURL pluginInfo.archiveChecksum
  swap
  · exact (ends_assemble_never computer world progressCallback tolerates_sound pluginInfo _ (fun is => (downloadable is).elim) sound).mono
      (fun _ _ impossible => impossible.elim) fun _ _ sound => sound
  by_cases proper : Proper pluginInfo.name
  swap
  · have unsaved := (careful.proper accepts downloadable).resolve_left proper
    rw [if_neg proper]
    exact (ends_assemble_never computer world progressCallback tolerates_sound pluginInfo none (fun _ => unsaved) sound).mono
      (fun _ _ impossible => impossible.elim) fun _ _ sound => sound
  rw [if_pos proper]
  apply (ends_assemble computer world progressCallback tolerates_sound pluginInfo temp (fun _ => careful.confined accepts downloadable proper)
    there sound).mono
  swap
  · exact fun _ _ sound => sound.1
  intro result assembled ⟨same, obtained, before, sound, complete, _⟩
  have sound : Sound computer disk pluginInfo destinationFolder assembled := by
    rw [complete]
    exact sound
  have installable : Installable computer progressCallback pluginInfo headlampVersion := by
    obtain ⟨matching, matched, passes⟩ := obtained.extra
    refine ⟨accepts, proper, downloadable, ⟨matching, matched, fun file member => ?_⟩, obtained.described.imp fun _ both => both.2⟩
    obtain ⟨place, at'⟩ := List.getElem?_of_mem member
    exact (passes (file, place) (List.mk_mem_zipIdx_iff_getElem?.mpr at')).imp_right fun downloads => ⟨_, downloads⟩
  rw [same, ends_bind]
  have present : (assembled.disk destinationFolder).isSome = true := by
    rw [sound.outside (destination_not_inside fresh)]
    exact careful.destination installable
  apply (tolerates_sound.ends_makeIfMissing (by simp [missing_present present]) sound).mono
  swap
  · exact fun _ _ sound => sound.1
  intro _ next sound
  have own : ∀ location, (pluginFolder computer destinationFolder pluginInfo.name).under location = true →
      Inside computer pluginInfo destinationFolder location := by
    have named := pluginFolder_eq computer accepts.valid destinationFolder
    rw [if_pos (careful.folder installable)] at named
    intro location inside
    rw [named] at inside
    exact .inr ⟨_, named, inside⟩
  rw [ends_bind]
  apply (ends_moveDirs own (fun location inside => temp location (under_trans (under_child _ _) inside)) sound).mono
  · intro _ next sound
    rw [ends_report]
    unfold reported
    split <;> exact sound
  · exact fun _ _ sound => sound

/-! Answers that let everything succeed. -/

/-- Something outside has been touched. -/
def Escaped (allowed : Location → Prop) (state : State) : Prop := ∃ location, state.touched location = true ∧ ¬allowed location

theorem tolerates_escaped (allowed : Location → Prop) : Tolerates (Escaped allowed) fun _ => True where
  records := fun _ _ kept => kept
  changes := fun state disk touched done inside same grown ⟨location, at', outside⟩ => by
    refine ⟨location, ?_, outside⟩
    change touched location = true
    rw [grown, at', Bool.true_or]

theorem tolerates_anything : Tolerates (fun _ => True) fun _ => True := ⟨fun _ _ _ => trivial, fun _ _ _ _ _ _ _ _ => trivial⟩

theorem confined_anything (binDir : Location) (files : List ExtraFile) :
    Confined computer progressCallback (fun _ => True) binDir files := by
  induction files with
  | nil => trivial
  | cons file rest ih => exact fun _ => ⟨fun _ _ _ => ⟨trivial, trivial⟩, ih⟩

/-- The answers about an extra file let everything succeed that may. -/
structure Willing (computer : Computer) (extra : ExtraWorld) (file : ExtraFile) : Prop where
  continued : extra.aborted = false
  downloads : Downloadable computer (some file.url) file.checksum → Downloads computer extra.download (some file.url) file.checksum
  relocates : ∀ place, Relocates (extra.moving place)

structure Obliging (computer : Computer) (world : World) (pluginInfo : ArtifactHubHeadlampPkg) : Prop where
  continued : world.aborted = (false, false)
  makesTemp : world.makeTemp.succeeds = true ∧ world.makeTempFolder.succeeds = true
  main : Downloadable computer pluginInfo.archiveURL pluginInfo.archiveChecksum →
    Downloads computer world.main pluginInfo.archiveURL pluginInfo.archiveChecksum
  unpacks : ∀ rest, (world.main.unpacked rest).isSome = true
  makesBin : world.makeBin.succeeds = true
  extra : ∀ matching, getMatchingExtraFiles computer (pluginInfo.extraFiles.getD []) = some matching →
    ∀ item ∈ matching.zipIdx, Willing computer (world.extra item.2) item.1
  described : (∃ content, (computer.withMetadata content pluginInfo).isSome = true) →
    ∃ content, world.packageText = some content ∧ (computer.withMetadata content pluginInfo).isSome = true
  writes : world.writePackage.succeeds = true
  makesDestination : world.makeDestination.succeeds = true
  copies : world.copy.succeeds = true

theorem exists_download (computer : Computer) (archiveURL archiveChecksum : Option String) :
    ∃ download : Download, (∀ rest, (download.unpacked rest).isSome = true) ∧
      (Downloadable computer archiveURL archiveChecksum → Downloads computer download archiveURL archiveChecksum) := by
  by_cases downloadable : Downloadable computer archiveURL archiveChecksum
  · obtain ⟨download, addressed, described, verifies⟩ := downloadable
    exact ⟨{ download with unpacked := fun _ => some .directory }, fun _ => rfl, fun _ => ⟨addressed, described, verifies.received, verifies.continued⟩⟩
  · exact ⟨⟨fun _ => false, none, fun _ => some .directory, ⟨true, fun _ => true, ""⟩⟩, fun _ => rfl, fun is => (downloadable is).elim⟩

theorem exists_obliging (computer : Computer) (pluginInfo : ArtifactHubHeadlampPkg) : ∃ world, Obliging computer world pluginInfo := by
  let done : Outcome := ⟨true, fun _ => true, ""⟩
  obtain ⟨main, unpacks, downloads⟩ := exists_download computer pluginInfo.archiveURL pluginInfo.archiveChecksum
  have extra : ∃ extra : Nat → ExtraWorld, ∀ matching, getMatchingExtraFiles computer (pluginInfo.extraFiles.getD []) = some matching →
      ∀ item ∈ matching.zipIdx, Willing computer (extra item.2) item.1 := by
    have each : ∀ place : Nat, ∃ extra : ExtraWorld, ∀ matching, getMatchingExtraFiles computer (pluginInfo.extraFiles.getD []) = some matching →
        ∀ file, matching[place]? = some file → Willing computer extra file := by
      intro place
      cases matched : getMatchingExtraFiles computer (pluginInfo.extraFiles.getD []) with
      | none => exact ⟨⟨false, main, fun _ => ⟨done, done, .ok false⟩⟩, fun _ absent => by cases absent⟩
      | some matching =>
        cases at' : matching[place]? with
        | none =>
          refine ⟨⟨false, main, fun _ => ⟨done, done, .ok false⟩⟩, fun other same file is => ?_⟩
          cases same
          rw [at'] at is
          cases is
        | some file =>
          obtain ⟨download, _, downloads⟩ := exists_download computer (some file.url) file.checksum
          refine ⟨⟨false, download, fun _ => ⟨done, done, .ok false⟩⟩, fun other same found is => ?_⟩
          cases same
          rw [at'] at is
          cases is
          exact ⟨rfl, downloads, fun _ => ⟨rfl, rfl, rfl⟩⟩
    choose extra willing using each
    exact ⟨extra, fun matching matched item member => willing item.2 matching matched item.1 (List.mem_zipIdx_iff_getElem?.mp member)⟩
  obtain ⟨extra, willing⟩ := extra
  have text : ∃ packageText, (∃ content, (computer.withMetadata content pluginInfo).isSome = true) →
      ∃ content, packageText = some content ∧ (computer.withMetadata content pluginInfo).isSome = true := by
    by_cases described : ∃ content, (computer.withMetadata content pluginInfo).isSome = true
    · obtain ⟨content, suits⟩ := described
      exact ⟨some content, fun _ => ⟨content, rfl, suits⟩⟩
    · exact ⟨none, fun is => (described is).elim⟩
  obtain ⟨packageText, described⟩ := text
  exact ⟨⟨(false, false), done, done, main, done, extra, packageText, done, done, done, done, done, done⟩,
    ⟨rfl, ⟨rfl, rfl⟩, downloads, unpacks, rfl, willing, described, rfl, rfl, rfl⟩⟩

/-! A package that is not careful gets outside when everything succeeds. -/

section Escapes
variable {allowed : Location → Prop} {world : World} {state : State}

@[simp] theorem reported_touched (progressCallback : Bool) (type : ProgressType) (message : String) (state : State) :
    (reported progressCallback type message state).touched = state.touched := by
  unfold reported
  split <;> rfl

theorem moveOutput_touches {binDir : Location} {moving : Moving} {value : Output} (something : moves computer binDir value = true)
    (relocates : Relocates moving) :
    Ends (moveOutput computer progressCallback binDir moving value)
      (fun _ next => next.touched (inputOf computer binDir value).location = true ∧ next.touched (outputOf computer binDir value).location = true)
      (fun _ _ => False) state := by
  unfold moveOutput
  rw [something, if_pos rfl, ends_bind, copyFileSync, ends_perform, relocates.copied, if_pos rfl, ends_bind, rmSync, ends_perform,
    relocates.removed, if_pos rfl, relocates.occupied]
  simp only [ends_report, reported_touched]
  constructor
  · exact touched_changed relocates.removed (decide_eq_true rfl)
  · apply (tolerates_touched _).changed fun _ _ => trivial
    exact touched_changed relocates.copied (decide_eq_true rfl)

theorem outputs_escape {binDir : Location} {moving : Nat → Moving} {outputs : List Output}
    (unsettled : ∃ value ∈ outputs, ¬Settled computer allowed binDir value) (relocates : ∀ place, Relocates (moving place)) :
    Ends (forM outputs.zipIdx fun (value, place) => moveOutput computer progressCallback binDir (moving place) value)
      (fun _ => Escaped allowed) (fun _ => Escaped allowed) state := by
  obtain ⟨value, member, out⟩ := unsettled
  obtain ⟨place, at'⟩ := List.getElem?_of_mem member
  obtain ⟨before, after, whole⟩ := List.append_of_mem (List.mk_mem_zipIdx_iff_getElem?.mpr at')
  have settled : ∀ value, Settled computer (fun _ => True) binDir value := fun _ _ => ⟨trivial, trivial⟩
  rw [whole]
  apply ends_forM_reaching (fun _ => True) _ _ _ trivial
  · intro other _ state _
    apply (ends_moveOutput computer progressCallback tolerates_anything (settled other.1) trivial).mono fun _ _ kept => kept
    exact fun _ _ failed => failed.2 (relocates other.2)
  · intro state _
    obtain ⟨something, outside⟩ := Classical.not_imp.mp out
    apply (moveOutput_touches something (relocates place)).mono
    · intro _ next ⟨input, output⟩
      by_cases inputAllowed : allowed (inputOf computer binDir value).location
      · exact ⟨_, output, fun outputAllowed => outside ⟨inputAllowed, outputAllowed⟩⟩
      · exact ⟨_, input, inputAllowed⟩
    · exact fun _ _ impossible => impossible.elim
  · intro other _ state escaped
    exact (ends_moveOutput computer progressCallback (tolerates_escaped allowed) (settled other.1) escaped).mono (fun _ _ kept => kept)
      fun _ _ kept => kept.1

theorem extraFile_escapes {binDir : Location} (rooted : binDir.path ≠ []) {extra : ExtraWorld} {file : ExtraFile} (willing : Willing computer extra file)
    (reached : progressCallback = true ∨ Downloadable computer (some file.url) file.checksum)
    (unsettled : ∃ value ∈ file.output, ¬Settled computer allowed binDir value) :
    Ends (downloadExtraFile computer progressCallback binDir extra file) (fun _ => Escaped allowed) (fun _ => Escaped allowed) state := by
  unfold downloadExtraFile
  rw [ends_bind, ends_checkAborted, willing.continued, if_neg Bool.false_ne_true, ends_bind, ends_report, ends_bind, ends_tryCatch]
  apply (ends_single computer progressCallback extra.download tolerates_anything rooted (fun _ _ => trivial) trivial (some file.url) file.checksum).mono
  · exact fun _ next _ => outputs_escape unsettled willing.relocates
  · intro message next ⟨_, failed⟩
    rw [ends_ite, ends_report]
    split
    · exact outputs_escape unsettled willing.relocates
    · next alone => exact (failed (willing.downloads (reached.resolve_left alone))).elim

theorem files_escape {binDir : Location} (rooted : binDir.path ≠ []) {files : List ExtraFile} {first : Nat}
    (willing : ∀ item ∈ files.zipIdx first, Willing computer (world.extra item.2) item.1)
    (unconfined : ¬Confined computer progressCallback allowed binDir files) :
    Ends (forM (files.zipIdx first) fun (file, place) => downloadExtraFile computer progressCallback binDir (world.extra place) file)
      (fun _ => Escaped allowed) (fun _ => Escaped allowed) state := by
  induction files generalizing first state with
  | nil => exact (unconfined trivial).elim
  | cons file rest ih =>
    obtain ⟨reached, either⟩ := Classical.not_imp.mp unconfined
    have here : Willing computer (world.extra first) file := willing (file, first) List.mem_cons_self
    have passes : Passes computer progressCallback (world.extra first) file := reached.imp_right here.downloads
    have anything : Passes computer progressCallback (world.extra first) file → ∀ value ∈ file.output, Settled computer (fun _ => True) binDir value :=
      fun _ _ _ _ => ⟨trivial, trivial⟩
    rw [List.zipIdx_cons, ends_forM_cons]
    by_cases settled : ∀ value ∈ file.output, Settled computer allowed binDir value
    · apply (ends_extraFile computer progressCallback tolerates_anything rooted (fun _ _ => trivial) anything trivial).mono
      · intro _ next _
        exact ih (fun item later => willing item (List.mem_cons_of_mem _ later)) fun confined => either ⟨settled, confined⟩
      · exact fun _ _ failed => (failed.2 ⟨here.continued, passes, here.relocates⟩).elim
    · simp only [not_forall] at settled
      obtain ⟨value, member, out⟩ := settled
      apply (extraFile_escapes rooted here reached ⟨value, member, out⟩).mono _ fun _ _ escaped => escaped
      intro _ next escaped
      apply (ends_files computer world progressCallback (tolerates_escaped allowed) rooted (fun _ _ => trivial)
        (confined_anything binDir rest) escaped).mono
      · exact fun _ _ kept => kept.1
      · exact fun _ _ kept => kept.1

theorem single_escapes {archiveURL archiveChecksum : Option String} {download : Download} {folder : Location}
    (saved : ¬Unsaved folder archiveURL)
    (unpacks : ∀ rest, (download.unpacked rest).isSome = true) (downloads : Downloads computer download archiveURL archiveChecksum)
    (outside : ∀ url, archiveURL = some url → ¬allowed (folder.child (fileNameOf computer url))) :
    Ends (downloadAndExtractSingleArchive computer progressCallback download archiveURL archiveChecksum folder)
      (fun _ => Escaped allowed) (fun _ _ => False) state := by
  obtain ⟨⟨url, same, valid, nonempty, written, stores⟩, described, verifies⟩ := downloads
  subst same
  have out := outside url rfl
  simp only [downloadAndExtractSingleArchive, valid, nonempty, described, Bool.not_true, Bool.false_eq_true, if_false, decide_false, Bool.or_self]
  rw [ends_bind]
  apply (ends_fetchArchive computer download (archiveChecksum.getD "") state).mono
  swap
  · exact fun _ _ failed => failed.2 verifies
  intro content next _
  rw [ends_ite]
  split
  · next packed =>
    rw [if_pos packed] at stores
    have there : (folder.under (folder.child (fileNameOf computer url)) && decide (folder.child (fileNameOf computer url) ≠ folder) &&
        (download.unpacked (folder.from (folder.child (fileNameOf computer url)))).isSome) = true := by
      rw [under_child, unpacks, decide_eq_true (child_ne folder _)]
      rfl
    rw [extractArchive, ends_bind, ends_report, ends_bind, extract, ends_perform, if_pos written, ends_bind, ends_checkAborted, stores,
      if_neg Bool.false_ne_true, ends_report]
    refine ⟨folder.child (fileNameOf computer url), ?_, out⟩
    rw [reported_touched]
    exact touched_changed written there
  · next plain =>
    rw [if_neg plain] at stores
    unfold saveFile
    have rooted : folder.path ≠ [] := fun root => saved ⟨root, fun _ same => Option.some.inj same ▸ Bool.eq_false_iff.mpr plain⟩
    simp only [stores, outPath_eq computer stores, under_child, child_ne, Bool.not_true, Bool.false_eq_true, if_false, Ne, not_false_eq_true,
      decide_true, Bool.and_self, rooted, decide_false, Bool.or_self]
    rw [ends_bind, ends_report, ends_bind, writeFileSync, ends_perform, if_pos written, ends_report]
    refine ⟨folder.child (fileNameOf computer url), ?_, out⟩
    rw [reported_touched]
    exact touched_changed written (decide_eq_true rfl)

theorem metadata_stays_escaped (tempFolder : Option Location) (escaped : Escaped allowed state) :
    Ends (do
      addMetadata computer world pluginInfo tempFolder
      modify fun state => { state with assembled := tempFolder.map (held state.disk) }
      return (pluginInfo.name, tempFolder)) (fun _ => Escaped allowed) (fun _ => Escaped allowed) state := by
  rw [ends_bind]
  apply (ends_addMetadata computer world (tolerates_escaped allowed) pluginInfo tempFolder trivial escaped).mono
  · intro _ next ⟨escaped, _⟩
    rw [ends_bind, ends_modify, ends_pure]
    exact escaped
  · exact fun _ _ kept => kept.1

theorem assemble_escapes_main (obliging : Obliging computer world pluginInfo)
    (downloadable : Downloadable computer pluginInfo.archiveURL pluginInfo.archiveChecksum) (saved : ¬Unsaved computer.cwd pluginInfo.archiveURL)
    (outside : ∀ url, pluginInfo.archiveURL = some url → ¬allowed (computer.cwd.child (fileNameOf computer url))) :
    Ends (assemble computer world progressCallback pluginInfo none) (fun _ => Escaped allowed) (fun _ => Escaped allowed) state := by
  unfold assemble
  rw [ends_bind, ends_report, ends_bind, Option.getD_none]
  apply (single_escapes saved obliging.unpacks (obliging.main downloadable) outside).mono
  swap
  · exact fun _ _ impossible => impossible.elim
  intro _ next escaped
  rw [ends_bind]
  apply (ends_extraFiles computer world progressCallback (tolerates_escaped allowed) (fun _ _ => trivial) (fun _ _ => trivial)
    (fun matching _ => confined_anything _ matching) escaped).mono
  · exact fun _ next ⟨escaped, _⟩ => metadata_stays_escaped none escaped
  · exact fun _ _ kept => kept.1

theorem assemble_escapes_files (obliging : Obliging computer world pluginInfo)
    (downloadable : Downloadable computer pluginInfo.archiveURL pluginInfo.archiveChecksum) {folder : Location} (rooted : folder.path ≠ [])
    {matching : List ExtraFile}
    (matched : getMatchingExtraFiles computer (pluginInfo.extraFiles.getD []) = some matching)
    (unconfined : ¬Confined computer progressCallback allowed (folder.child "bin") matching) :
    Ends (assemble computer world progressCallback pluginInfo (some folder)) (fun _ => Escaped allowed) (fun _ => Escaped allowed) state := by
  have nonempty : matching ≠ [] := by
    rintro rfl
    exact unconfined trivial
  have some' : pluginInfo.extraFiles.getD [] ≠ [] := by
    intro none'
    rw [none'] at matched
    exact nonempty (Option.some.inj matched).symm
  unfold assemble
  rw [ends_bind, ends_report, ends_bind, Option.getD_some]
  apply (ends_single computer progressCallback world.main tolerates_anything rooted (fun _ _ => trivial) trivial _ _).mono
  swap
  · exact fun _ _ failed => (failed.2 (obliging.main downloadable)).elim
  intro _ next _
  rw [ends_bind]
  suffices files : Ends (downloadExtraFiles computer world progressCallback pluginInfo.extraFiles folder) (fun _ => Escaped allowed)
      (fun _ => Escaped allowed) next from
    files.mono (fun _ _ escaped => metadata_stays_escaped _ escaped) fun _ _ escaped => escaped
  unfold downloadExtraFiles
  rw [ends_ite, if_neg some', matched]
  split
  · next absent => cases absent
  · next empty => exact (nonempty (Option.some.inj empty)).elim
  next other _ same =>
  cases same
  rw [ends_bind]
  apply (tolerates_anything.ends_makeIfMissing (fun _ _ => trivial) trivial).mono
  · intro _ next _
    rw [ends_bind]
    apply (files_escape (child_rooted _ _) (obliging.extra matching matched) unconfined).mono
    · intro _ next escaped
      exact ends_report.mpr ((tolerates_escaped allowed).reported _ _ _ escaped)
    · exact fun _ _ escaped => escaped
  · intro _ _ failed
    rw [obliging.makesBin] at failed
    cases failed.2

theorem moving_stays_escaped (tempFolder : Option Location) (folder : Location) (escaped : Escaped allowed state) :
    Ends (do
      moveDirs world tempFolder folder
      report progressCallback .success "Plugin Installed") (fun _ => Escaped allowed) (fun _ => Escaped allowed) state := by
  rw [ends_bind]
  cases tempFolder with
  | none => exact ends_throw.mpr escaped
  | some tempFolder =>
    unfold moveDirs
    rw [ends_bind]
    apply ((tolerates_escaped _).ends_cpSync (fun _ _ => trivial) escaped).mono
    · intro _ next ⟨escaped, _⟩
      apply ((tolerates_escaped _).ends_rmSyncRecursive (fun _ _ => trivial) escaped).mono
      · intro _ next ⟨escaped, _⟩
        rw [ends_report]
        unfold Escaped
        rwa [reported_touched]
      · exact fun _ _ kept => kept.1
    · exact fun _ _ kept => kept.1

theorem placing_stays_escaped {result : String × Option Location} (escaped : Escaped allowed state) :
    Ends (do
      makeIfMissing world.makeDestination destinationFolder
      moveDirs world result.2 (pluginFolder computer destinationFolder result.1)
      report progressCallback .success "Plugin Installed") (fun _ => Escaped allowed) (fun _ => Escaped allowed) state := by
  rw [ends_bind]
  apply ((tolerates_escaped _).ends_makeIfMissing (fun _ _ => trivial) escaped).mono
  · exact fun _ _ escaped => moving_stays_escaped _ _ escaped
  · exact fun _ _ kept => kept.1

theorem placing_escapes (fresh : Fresh computer disk pluginInfo destinationFolder) (valid : validatePluginName pluginInfo.name = true)
    (obliging : Obliging computer world pluginInfo)
    (careless : ¬(Proper (basename computer.win32 pluginInfo.name) ∧ (disk destinationFolder).isSome = true))
    (untouched : ∀ location, state.touched location = false → state.disk location = disk location)
    (package : (state.disk ((computer.tempDir.child pluginInfo.name).child "package.json")).isSome = true) :
    Ends (do
      makeIfMissing world.makeDestination destinationFolder
      moveDirs world (some (computer.tempDir.child pluginInfo.name)) (pluginFolder computer destinationFolder pluginInfo.name)
      report progressCallback .success "Plugin Installed")
      (fun _ => Escaped (Inside computer pluginInfo destinationFolder)) (fun _ => Escaped (Inside computer pluginInfo destinationFolder))
      state := by
  have outside := destination_not_inside fresh
  rw [ends_bind, makeIfMissing, ends_bind, ends_get, ends_ite]
  split
  · next absent =>
    rw [ends_bind, ends_mkdirSync, if_pos obliging.makesDestination, ends_pure]
    exact moving_stays_escaped _ _ ⟨destinationFolder, touched_changed obliging.makesDestination (decide_eq_true (mem_missing absent)), outside⟩
  next present =>
  rw [ends_pure]
  rcases Bool.eq_false_or_eq_true (state.touched destinationFolder) with touched | apart
  · exact moving_stays_escaped _ _ ⟨destinationFolder, touched, outside⟩
  rw [untouched destinationFolder apart, Bool.not_eq_true, Option.isNone_eq_false_iff] at present
  have improper : ¬Proper (basename computer.win32 pluginInfo.name) := fun proper => careless ⟨proper, present⟩
  have folder := pluginFolder_eq computer valid destinationFolder
  rw [if_neg improper] at folder
  have out : ¬Inside computer pluginInfo destinationFolder (destinationFolder.child "package.json") := by
    intro inside
    rcases inside with temp | ⟨part, own, _⟩
    · rcases under_child_iff.mp temp with above | same
      · exact absurd above (Bool.eq_false_iff.mp fresh.destination)
      · exact fresh.named _ same
    · rw [folder] at own
      exact child_ne _ _ own.symm
  have copied : (destinationFolder.under (destinationFolder.child "package.json") &&
      (state.disk ((computer.tempDir.child pluginInfo.name).below (destinationFolder.from (destinationFolder.child "package.json")))).isSome) = true := by
    rw [under_child, child_eq_below destinationFolder, from_below, ← child_eq_below, package]
    rfl
  rw [folder]
  unfold moveDirs
  rw [ends_bind, ends_bind, cpSync, ends_perform, if_pos obliging.copies]
  apply ((tolerates_escaped _).ends_rmSyncRecursive (fun _ _ => trivial) ⟨_, touched_changed obliging.copies copied, out⟩).mono
  · rintro _ next ⟨escaped, _⟩
    rw [ends_report]
    unfold Escaped
    rwa [reported_touched]
  · exact fun _ _ kept => kept.1

end Escapes

theorem Obliging.obliges {world : World} (obliging : Obliging computer world pluginInfo)
    (installable : Installable computer progressCallback pluginInfo headlampVersion) : Obliges computer world progressCallback pluginInfo := by
  obtain ⟨_, _, main, ⟨matching, matched, reached⟩, described⟩ := installable
  have proceeds : ∀ other, getMatchingExtraFiles computer (pluginInfo.extraFiles.getD []) = some other →
      ∀ item ∈ other.zipIdx, Proceeds computer world progressCallback item := by
    intro other same item member
    rw [matched, Option.some.injEq] at same
    subst same
    have willing := obliging.extra matching matched item member
    exact ⟨willing.continued, (reached item.1 (List.fst_mem_of_mem_zipIdx member)).imp_right willing.downloads, willing.relocates⟩
  exact ⟨⟨obliging.main main, ⟨matching, matched, fun item member => (proceeds matching matched item member).passes⟩,
    obliging.described described⟩, obliging.makesBin, proceeds, obliging.writes⟩

theorem cwd_outside (fresh : Fresh computer disk pluginInfo destinationFolder) (valid : validatePluginName pluginInfo.name = true)
    (improper : ¬Proper pluginInfo.name) (url : String) (same : pluginInfo.archiveURL = some url) :
    ¬Inside computer pluginInfo destinationFolder (computer.cwd.child (fileNameOf computer url)) := by
  have folder : pluginFolder computer destinationFolder pluginInfo.name = destinationFolder := by
    rw [pluginFolder_eq computer valid, if_neg]
    intro proper
    rcases Classical.not_and_iff_not_or_not.mp improper with empty | here
    · rw [not_not.mp empty] at proper
      exact proper.1 (by simp [basename, withoutDrive])
    · rw [not_not.mp here] at proper
      exact proper.2 (by cases computer.win32 <;> decide)
  intro inside
  rcases inside with temp | ⟨part, own, _⟩
  · rcases under_child_iff.mp temp with above | apart
    · have working := fresh.working
      rw [fresh.absent _ above] at working
      cases working
    · exact fresh.unknown url same apart
  · rw [folder] at own
    exact child_ne _ _ own.symm

theorem escapes (fresh : Fresh computer disk pluginInfo destinationFolder)
    (careless : ¬Careful computer disk progressCallback pluginInfo destinationFolder headlampVersion) {world : World}
    (obliging : Obliging computer world pluginInfo) {state : State} (begins : state.disk = disk) :
    Ends (installFromPluginPkg computer world progressCallback pluginInfo destinationFolder headlampVersion)
      (fun _ => Escaped (Inside computer pluginInfo destinationFolder)) (fun _ => Escaped (Inside computer pluginInfo destinationFolder))
      state := by
  have begun : Accepts computer pluginInfo headlampVersion ∧ Downloadable computer pluginInfo.archiveURL pluginInfo.archiveChecksum := by
    by_contra either
    exact careless ⟨fun accepts downloadable => (either ⟨accepts, downloadable⟩).elim,
      fun accepts downloadable => (either ⟨accepts, downloadable⟩).elim,
      fun installable => (either ⟨installable.accepts, installable.main⟩).elim,
      fun installable => (either ⟨installable.accepts, installable.main⟩).elim⟩
  obtain ⟨accepts, downloadable⟩ := begun
  unfold installFromPluginPkg
  apply ends_reporting progressCallback (tolerates_escaped _)
  rw [ends_bind]
  apply ends_downloadExtractArchive computer world progressCallback (tolerates_untouched disk) _ _ (by rw [begins]; exact fresh.absent)
    (fun _ _ => trivial) (fun location _ => by rw [begins])
  · intro message next _ failed
    exact (failed ⟨accepts, obliging.continued, obliging.makesTemp⟩).elim
  intro next untouched _ there
  by_cases proper : Proper pluginInfo.name
  swap
  · have saved : ¬Unsaved computer.cwd pluginInfo.archiveURL := fun unsaved => careless
      ⟨fun _ _ => .inr unsaved, fun _ _ named => (proper named).elim, fun installable => (proper installable.named).elim,
        fun installable => (proper installable.named).elim⟩
    rw [if_neg proper]
    apply (assemble_escapes_main obliging downloadable saved (cwd_outside fresh accepts.valid proper)).mono
    · exact fun _ _ escaped => placing_stays_escaped escaped
    · exact fun _ _ escaped => escaped
  rw [if_pos proper]
  by_cases confined : ∀ matching, getMatchingExtraFiles computer (pluginInfo.extraFiles.getD []) = some matching →
      Confined computer progressCallback (Inside computer pluginInfo destinationFolder) ((computer.tempDir.child pluginInfo.name).child "bin") matching
  swap
  · simp only [not_forall] at confined
    obtain ⟨matching, matched, unconfined⟩ := confined
    apply (assemble_escapes_files obliging downloadable (child_rooted _ _) matched unconfined).mono
    · exact fun _ _ escaped => placing_stays_escaped escaped
    · exact fun _ _ escaped => escaped
  have installable : Installable computer progressCallback pluginInfo headlampVersion := by
    by_contra never
    exact careless ⟨fun _ _ => .inl proper, fun _ _ _ => confined, fun installable => (never installable).elim, fun installable => (never installable).elim⟩
  have placeless : ¬(Proper (basename computer.win32 pluginInfo.name) ∧ (disk destinationFolder).isSome = true) :=
    fun both => careless ⟨fun _ _ => .inl proper, fun _ _ _ => confined, fun _ => both.1, fun _ => both.2⟩
  apply (ends_assemble computer world progressCallback (tolerates_untouched disk) pluginInfo (fun _ _ => trivial)
    (fun _ matching _ => confined_anything _ matching) there untouched).mono
  · intro result next ⟨same, _, before, untouched, complete, _, _, _, package⟩
    rw [same]
    apply placing_escapes fresh accepts.valid obliging placeless
    · rw [complete]
      exact untouched
    · rw [complete, package]
      rfl
  · exact fun _ _ failed => (failed.2 (obliging.obliges installable)).elim

def home : Location := ⟨"", ["home"]⟩

def plugins : Location := home.child "plugins"

def temp : Location := ⟨"", ["tmp", "headlamp-plugin-temp-a"]⟩

def laptop (currentArchString : String) : Computer where
  win32 := false
  currentArchString := currentArchString
  cwd := home
  tempDir := temp
  underTest := false
  sha256 := fun content =>
    if content = [123, 125] then "44136fa355b3678a1146ad16f7e8649e94fb4fc21fe77e8310c060f61caaff8a"
    else if content = [] then "e3b0c44298fc1c149afbf4c8996fb92427ae41e4649b934ca495991b7852b855"
    else ""
  satisfies := fun _ _ => true
  lte := fun _ _ => true
  withMetadata := fun _ _ => none
  artifacthubVersion := fun _ => none
  version_written := by simp
  lte_refl := fun _ => rfl

def withPlugins : Disk := fun location => if location = home ∨ location = plugins then some .directory else none

/-- The archive of the package is its `package.json`, and its first extra file is moved out of its folder. -/
def vmAnswer : Answer :=
  .json ⟨"vm", "VM", "1.0.0", ⟨"vm", "someone"⟩, [
    ("headlamp/plugin/archive-url", "https://github.com/vm/vm/releases/package.json"),
    ("headlamp/plugin/archive-checksum", "44136fa355b3678a1146ad16f7e8649e94fb4fc21fe77e8310c060f61caaff8a"),
    ("headlamp/plugin/extra-files/0/url", "https://github.com/kubernetes/minikube/releases/download/minikube"),
    ("headlamp/plugin/extra-files/0/checksum", "e3b0c44298fc1c149afbf4c8996fb92427ae41e4649b934ca495991b7852b855"),
    ("headlamp/plugin/extra-files/0/arch", "linux/x64"),
    ("headlamp/plugin/extra-files/0/output/0/output", "x/../../../../escaped"),
    ("headlamp/plugin/extra-files/0/output/0/input", "minikube"),
    ("headlamp/plugin/extra-files/1/url", "https://github.com/kubernetes/minikube/releases/download/minikube"),
    ("headlamp/plugin/extra-files/1/arch", "linux/arm64"),
    ("headlamp/plugin/extra-files/1/output/0/output", "minikube-vm"),
    ("headlamp/plugin/extra-files/1/output/0/input", "minikube")], by decide +kernel⟩

def vm : ArtifactHubHeadlampPkg where
  name := "vm"
  displayName := "VM"
  repository := ⟨"vm", "someone"⟩
  version := "1.0.0"
  archiveURL := some "https://github.com/vm/vm/releases/package.json"
  archiveChecksum := some "44136fa355b3678a1146ad16f7e8649e94fb4fc21fe77e8310c060f61caaff8a"
  versionCompat := none
  extraFiles := some [⟨"https://github.com/kubernetes/minikube/releases/download/minikube",
    some "e3b0c44298fc1c149afbf4c8996fb92427ae41e4649b934ca495991b7852b855", some "linux/x64", [⟨"x/../../../../escaped", "minikube"⟩]⟩,
    ⟨"https://github.com/kubernetes/minikube/releases/download/minikube", none, some "linux/arm64", [⟨"minikube-vm", "minikube"⟩]⟩]

def vmURL : String := "https://artifacthub.io/packages/headlamp/vm/vm"

def downloadOf (content : Bytes) : Download := ⟨fun _ => false, some ⟨true, 200, some (.ok content)⟩, fun _ => none, ⟨true, fun _ => true, ""⟩⟩

/-- Everything succeeds until the folder of the extra file is found empty. -/
def sunny : World :=
  let done : Outcome := ⟨true, fun _ => true, ""⟩
  ⟨(false, false), done, done, downloadOf [123, 125], done, fun _ => ⟨false, downloadOf [], fun _ => ⟨done, done, .ok true⟩⟩,
    some [123, 125], done, done, done, done, done, done⟩

theorem fetched_vm (currentArchString : String) : fetchPluginInfo (laptop currentArchString).underTest vmURL vmAnswer = .ok vm := by
  have fetched : fetchPluginInfo false vmURL vmAnswer = .ok vm := by decide +kernel
  exact fetched

theorem fresh_vm (currentArchString : String) : Fresh (laptop currentArchString) withPlugins vm plugins where
  absent := by
    intro location inside
    refine if_neg fun either => ?_
    rcases either with rfl | rfl
    · exact absurd (show temp.under home = true from inside) (by decide)
    · exact absurd (show temp.under plugins = true from inside) (by decide)
  working := by
    have here : (withPlugins home).isSome = true := by decide
    exact here
  destination := by
    have apart : temp.under plugins = false := by decide
    exact apart
  named := by
    intro folder same
    have last : temp.path.getLast? = some "package.json" := by
      change temp = _ at same
      rw [same, Location.child, List.getLast?_concat]
    exact absurd last (by decide)
  unknown := by
    intro archiveURL _ same
    have last := congrArg (fun location => location.path.dropLast) same
    rw [Location.child, List.dropLast_concat] at last
    exact absurd (show ["tmp"] = ["home"] from last) (by decide)

end K8Sense.Plugins.Containment
