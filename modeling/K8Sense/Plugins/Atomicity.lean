import K8Sense.Plugins.Containment

/-! When an update or an installation leaves the folder of a plugin as it was or with all of the
new version, and tells the truth about it. -/

namespace K8Sense.Plugins.Atomicity
open K8Sense.Action Packages Paths Places Installation Footprint

section Statement
variable (progressCallback : Bool) (verified : Prop) (old : Contents) (folder : Location)

/-- Whether success is what is reported last. Without a callback it is reported by returning. -/
def ReportsSuccess (returned : Bool) (final : State) : Prop :=
  if progressCallback then ∃ message, final.progress = some ⟨.success, message⟩ else returned = true

/-- The folder holds the new version, of which everything has been verified. -/
def Renewed (final : State) : Prop := final.assembled = some (held final.disk folder) ∧ verified

structure AllOrNothing (returned : Bool) (final : State) : Prop where
  whole : held final.disk folder = old ∨ final.assembled = some (held final.disk folder)
  honest : ReportsSuccess progressCallback returned final ↔ Renewed verified folder final

/-- The same for a failure. -/
structure FailsWhole (final : State) : Prop where
  whole : held final.disk folder = old ∨ final.assembled = some (held final.disk folder)
  honest : ¬Renewed verified folder final

end Statement

/-- The main archive and every extra file for the platform have been downloaded and agree with their checksums. -/
structure Verified (computer : Computer) (world : World) (pluginInfo : ArtifactHubHeadlampPkg) : Prop where
  main : Downloads computer world.main pluginInfo.archiveURL pluginInfo.archiveChecksum
  extra : ∀ matching, getMatchingExtraFiles computer (pluginInfo.extraFiles.getD []) = some matching →
    ∀ item ∈ matching.zipIdx, Downloads computer (world.extra item.2).download (some item.1.url) item.1.checksum

/-- The same for the package that an answer of the catalog describes. -/
def AnswerVerified (computer : Computer) (world : World) (URL : String) (answer : Answer) : Prop :=
  ∃ pluginInfo, fetchPluginInfo computer.underTest URL answer = .ok pluginInfo ∧ Verified computer world pluginInfo

/-- The temporary folder is a new one, the folder of the plugin is in the destination folder, and neither is in the other. -/
structure Apart (computer : Computer) (disk : Disk) (destinationFolder folder : Location) : Prop where
  absent : ∀ location, computer.tempDir.under location = true → disk location = none
  destination : computer.tempDir.under destinationFolder = false
  outside : computer.tempDir.under folder = false
  beside : folder.under computer.tempDir = false
  child : ∃ part, folder = destinationFolder.child part

/-! What folders hold. -/

theorem disjoint {first second location : Location} (one : first.under second = false) (other : second.under first = false)
    (inside : first.under location = true) : second.under location = false := by
  apply Bool.eq_false_iff.mpr
  intro also
  simp only [Location.under, Bool.and_eq_true, decide_eq_true_eq, List.isPrefixOf_iff_prefix] at inside also
  rcases List.prefix_or_prefix_of_prefix inside.2 also.2 with before | after
  · refine Bool.eq_false_iff.mp one ?_
    rw [Location.under, Bool.and_eq_true, decide_eq_true_eq, List.isPrefixOf_iff_prefix]
    exact ⟨inside.1.trans also.1.symm, before⟩
  · refine Bool.eq_false_iff.mp other ?_
    rw [Location.under, Bool.and_eq_true, decide_eq_true_eq, List.isPrefixOf_iff_prefix]
    exact ⟨also.1.trans inside.1.symm, after⟩

theorem held_congr {disk other : Disk} {folder : Location} (same : ∀ rest, rest ≠ [] → disk (folder.below rest) = other (folder.below rest)) :
    held disk folder = held other folder := by
  funext rest
  unfold held
  split
  · rfl
  · next nonempty => exact same rest nonempty

theorem held_below {disk : Disk} {folder : Location} {rest : Path} (nonempty : rest ≠ []) : held disk folder rest = disk (folder.below rest) :=
  if_neg nonempty

theorem held_changed {outcome : Outcome} {region : Disk → Location → Bool} {content : Disk → Location → Option Entry} {state : State}
    {folder : Location} (apart : ∀ rest, rest ≠ [] → region state.disk (folder.below rest) = false) :
    held (changed outcome region content state).disk folder = held state.disk folder :=
  held_congr fun rest nonempty => changed_unreached (apart rest nonempty)

theorem above_of_missing {disk : Disk} {target location : Location} (made : location ∈ missing disk target) : location.under target = true := by
  rw [missing, List.mem_reverse] at made
  have member := List.mem_reverse.mp ((List.takeWhile_sublist _).mem made)
  obtain ⟨path, before, rfl⟩ := List.mem_map.mp member
  rw [Location.under, Bool.and_eq_true, decide_eq_true_eq, List.isPrefixOf_iff_prefix]
  exact ⟨rfl, (List.mem_inits _ _).mp before⟩

theorem not_missing {disk : Disk} {folder target : Location} (apart : folder.under target = false) (rest : Path) :
    folder.below rest ∉ missing disk target :=
  fun made => Bool.eq_false_iff.mp apart (under_trans (under_below folder rest) (above_of_missing made))

/-! The steps that change the folder. -/

/-- What a folder holds after something has been copied to it. -/
def copied (copy : Outcome) (folder : Location) (new old : Contents) : Contents :=
  fun rest => if (new rest).isSome && (copy.succeeds || copy.reached (folder.below rest)) then new rest else old rest

section Steps
variable {world : World} {source folder : Location} {state : State}

theorem held_copied {copy : Outcome} :
    held (changed copy (fun disk location => folder.under location && (disk (source.below (folder.from location))).isSome)
      (fun disk location => disk (source.below (folder.from location))) state).disk folder =
      copied copy folder (held state.disk source) (held state.disk folder) := by
  funext rest
  by_cases empty : rest = []
  · simp [copied, held, empty]
  · simp only [copied, held_below empty, changed, under_below, from_below, Bool.true_and]

theorem ends_moveDirs (apart : source.under folder = false) (beside : folder.under source = false) :
    Ends (moveDirs world (some source) folder)
      (fun _ final => (world.copy.succeeds = true ∧ world.cleanUp.succeeds = true) ∧ final.assembled = state.assembled ∧
        held final.disk folder = copied world.copy folder (held state.disk source) (held state.disk folder))
      (fun _ final => ¬(world.copy.succeeds = true ∧ world.cleanUp.succeeds = true) ∧ final.assembled = state.assembled ∧
        held final.disk folder = copied world.copy folder (held state.disk source) (held state.disk folder)) state := by
  unfold moveDirs
  rw [ends_bind, cpSync, ends_perform]
  split
  swap
  · next failed => exact ⟨fun both => failed both.1, rfl, held_copied⟩
  next copies =>
  rw [rmSyncRecursive, ends_perform]
  have kept : held (changed world.cleanUp (fun _ location => source.under location) (fun _ _ => none)
      (changed world.copy (fun disk location => folder.under location && (disk (source.below (folder.from location))).isSome)
        (fun disk location => disk (source.below (folder.from location))) state)).disk folder =
      copied world.copy folder (held state.disk source) (held state.disk folder) := by
    rw [held_changed fun rest _ => disjoint beside apart (under_below folder rest)]
    exact held_copied
  split
  · next cleans => exact ⟨⟨copies, cleans⟩, rfl, kept⟩
  · next failed => exact ⟨fun both => failed both.2, rfl, kept⟩

/-- What is known when the folder of the plugin is about to change. -/
structure Ready (source folder : Location) (old new : Contents) (state : State) : Prop where
  untouched : held state.disk folder = old
  complete : held state.disk source = new
  assembled : state.assembled = some new

def DestinationReady (world : World) (destinationFolder : Location) (state : State) : Prop :=
  (state.disk destinationFolder).isSome = true ∨ world.makeDestination.succeeds = true

theorem ends_destination {destinationFolder : Location} {old new : Contents} (ready : Ready source folder old new state)
    (apart : folder.under destinationFolder = false) (beside : source.under destinationFolder = false) :
    Ends (makeIfMissing world.makeDestination destinationFolder)
      (fun _ next => Ready source folder old new next ∧ DestinationReady world destinationFolder state)
      (fun _ next => Ready source folder old new next ∧ ¬DestinationReady world destinationFolder state) state := by
  rw [makeIfMissing, ends_bind, ends_get, ends_ite]
  split
  swap
  · next present =>
    rw [Bool.not_eq_true, Option.isNone_eq_false_iff] at present
    exact ends_pure.mpr ⟨ready, .inl present⟩
  next absent =>
  rw [ends_bind, ends_mkdirSync]
  have made : Ready source folder old new (changed world.makeDestination (fun disk location => location ∈ missing disk destinationFolder)
      (fun _ _ => some .directory) state) := by
    refine ⟨?_, ?_, ready.assembled⟩
    · rw [held_changed fun rest _ => decide_eq_false (not_missing apart rest), ready.untouched]
    · rw [held_changed fun rest _ => decide_eq_false (not_missing beside rest), ready.complete]
  split
  · next succeeds => exact ends_pure.mpr ⟨made, .inr succeeds⟩
  · next fails =>
    refine ⟨made, fun is => is.elim (fun present => ?_) fails⟩
    rw [Option.isNone_iff_eq_none.mp absent] at present
    cases present

/-- Two versions of a plugin differ in their `package.json`, which both of them have. -/
structure Differ (old new : Contents) : Prop where
  had : (old ["package.json"]).isSome = true
  has : (new ["package.json"]).isSome = true
  differ : old ["package.json"] ≠ new ["package.json"]

/-- What the removal and the copying have to come to, so that an update is whole and truthful. -/
structure Replaceable (world : World) (verified : Prop) (old new : Contents) (folder : Location) : Prop where
  kept : world.removeOld.succeeds = false → ∀ rest, (old rest).isSome = true → world.removeOld.reached (folder.below rest) = false
  made : world.removeOld.succeeds = true → world.makeFolder.succeeds = true
  copied : world.removeOld.succeeds = true →
    world.copy.succeeds = true ∨ ∀ rest, (new rest).isSome = true → world.copy.reached (folder.below rest) = true
  truthful : world.removeOld.succeeds = true → (verified ↔ world.copy.succeeds = true ∧ world.cleanUp.succeeds = true)

theorem copied_new_iff {copy : Outcome} {folder : Location} {new : Contents} :
    copied copy folder new (fun _ => none) = new ↔
      copy.succeeds = true ∨ ∀ rest, (new rest).isSome = true → copy.reached (folder.below rest) = true := by
  rcases Bool.eq_false_or_eq_true copy.succeeds with succeeds | fails
  · refine iff_of_true (funext fun rest => ?_) (.inl succeeds)
    cases entry : new rest <;> simp [copied, entry, succeeds]
  · simp only [fails, Bool.false_eq_true, false_or]
    constructor
    · intro same rest present
      have is := congrFun same rest
      by_contra unreached
      rw [copied, fails, Bool.eq_false_iff.mpr unreached] at is
      rw [← is] at present
      simp at present
    · intro reached
      funext rest
      cases entry : new rest with
      | none => simp [copied, entry]
      | some _ => simp [copied, entry, reached rest (by rw [entry]; rfl)]

theorem Differ.copied_ne {copy : Outcome} {folder : Location} {old new : Contents} (differ : Differ old new) :
    copied copy folder new (fun _ => none) ≠ old := by
  intro same
  have is := congrFun same ["package.json"]
  unfold copied at is
  split at is
  · exact differ.differ is.symm
  · have present := differ.had
    rw [← is] at present
    cases present

section Judgement
variable {progressCallback : Bool} {verified : Prop} {old new : Contents}

theorem failsWhole_iff (assembled : state.assembled = some new) :
    FailsWhole verified old folder state ↔
      (held state.disk folder = old ∨ held state.disk folder = new) ∧ ¬(held state.disk folder = new ∧ verified) := by
  have same : state.assembled = some (held state.disk folder) ↔ held state.disk folder = new := by
    rw [assembled, Option.some.injEq, eq_comm]
  constructor
  · intro ⟨whole, honest⟩
    exact ⟨whole.imp_right same.mp, fun ⟨is, all⟩ => honest ⟨same.mpr is, all⟩⟩
  · intro ⟨whole, honest⟩
    exact ⟨whole.imp_right same.mpr, fun ⟨is, all⟩ => honest ⟨same.mp is, all⟩⟩

theorem succeeds_iff (assembled : state.assembled = some new) (message : String) :
    AllOrNothing progressCallback verified old folder true (reported progressCallback .success message state) ↔
      held state.disk folder = new ∧ verified := by
  have success : ReportsSuccess progressCallback true (reported progressCallback .success message state) := by
    unfold ReportsSuccess reported
    cases progressCallback with
    | true => exact ⟨message, rfl⟩
    | false => rfl
  have same : Renewed verified folder (reported progressCallback .success message state) ↔ held state.disk folder = new ∧ verified := by
    have kept : (reported progressCallback .success message state).assembled = some new := by
      unfold reported
      split <;> exact assembled
    rw [Renewed, reported_disk, kept, Option.some.injEq, eq_comm]
  constructor
  · intro ⟨_, honest⟩
    exact same.mp (honest.mp success)
  · intro is
    have renewed := same.mpr is
    exact ⟨.inr renewed.1, iff_of_true success renewed⟩

end Judgement

theorem held_removed {removal : Outcome} (fails : removal.succeeds = false) (folder : Location) (state : State) (rest : Path) :
    held (changed removal (fun _ location => folder.under location) (fun _ _ => none) state).disk folder rest =
      if removal.reached (folder.below rest) then none else held state.disk folder rest := by
  by_cases empty : rest = []
  · simp [held, empty]
  · simp only [held_below empty, changed, under_below, fails, Bool.false_or, Bool.true_and]

theorem held_emptied {removal : Outcome} (succeeds : removal.succeeds = true) (folder : Location) (state : State) :
    held (changed removal (fun _ location => folder.under location) (fun _ _ => none) state).disk folder = fun _ => none := by
  funext rest
  by_cases empty : rest = []
  · simp [held, empty]
  · simp only [held_below empty, changed, under_below, succeeds, Bool.true_or, Bool.true_and, if_true]

section Replacing
variable {verified : Prop} {progressCallback : Bool} {old new : Contents}

theorem removal_iff (ready : Ready source folder old new state) (differ : Differ old new) (fails : world.removeOld.succeeds = false) :
    FailsWhole verified old folder (changed world.removeOld (fun _ location => folder.under location) (fun _ _ => none) state) ↔
      ∀ rest, (old rest).isSome = true → world.removeOld.reached (folder.below rest) = false := by
  have assembled : (changed world.removeOld (fun _ location => folder.under location) (fun _ _ => none) state).assembled = some new := ready.assembled
  rw [failsWhole_iff assembled]
  have holds := held_removed fails folder state
  rw [ready.untouched] at holds
  generalize held (changed world.removeOld (fun _ location => folder.under location) (fun _ _ => none) state).disk folder = contents at holds
  have lost : contents ≠ new := by
    intro same
    have is := holds ["package.json"]
    rw [same] at is
    split at is
    · have has := differ.has
      rw [is] at has
      cases has
    · exact differ.differ is.symm
  have kept : contents = old ↔ ∀ rest, (old rest).isSome = true → world.removeOld.reached (folder.below rest) = false := by
    constructor
    · intro same rest present
      apply Bool.eq_false_iff.mpr
      intro reached
      have is := holds rest
      rw [same, if_pos reached] at is
      rw [is] at present
      cases present
    · intro unreached
      funext rest
      rw [holds]
      split
      · next reached =>
        cases entry : old rest with
        | none => rfl
        | some _ =>
          rw [unreached rest (by rw [entry]; rfl)] at reached
          cases reached
      · rfl
  constructor
  · exact fun ⟨either, _⟩ => kept.mp (either.resolve_right lost)
  · exact fun unreached => ⟨.inl (kept.mpr unreached), fun both => lost both.1⟩

/-- After the removal the new version has to be copied, all of it, and a failure must not belie what is there. -/
theorem copying_iff (assembled : state.assembled = some new) (emptied : held state.disk folder = fun _ => none)
    (complete : held state.disk source = new) (differ : Differ old new) (apart : source.under folder = false)
    (beside : folder.under source = false) :
    Ends (do
      moveDirs world (some source) folder
      report progressCallback .success "Plugin Updated")
      (fun _ => AllOrNothing progressCallback verified old folder true) (fun _ => FailsWhole verified old folder) state ↔
      (world.copy.succeeds = true ∨ ∀ rest, (new rest).isSome = true → world.copy.reached (folder.below rest) = true) ∧
        (verified ↔ world.copy.succeeds = true ∧ world.cleanUp.succeeds = true) := by
  rw [ends_bind]
  have runs : Ends (moveDirs world (some source) folder) _ _ state := ends_moveDirs apart beside
  rw [assembled, emptied, complete] at runs
  rw [← copied_new_iff]
  have changes : copied world.copy folder new (fun _ => none) ≠ old := differ.copied_ne
  generalize copied world.copy folder new (fun _ => none) = contents at runs changes
  apply runs.iff
  · intro _ final ⟨succeeds, assembled, holds⟩
    rw [ends_report, succeeds_iff assembled, holds]
    exact and_congr_right fun _ => (iff_true_right succeeds).symm
  · intro _ final ⟨fails, assembled, holds⟩
    rw [failsWhole_iff assembled, holds]
    constructor
    · intro ⟨either, honest⟩
      have same := either.resolve_left changes
      exact ⟨same, fun all => (honest ⟨same, all⟩).elim, fun succeeds => (fails succeeds).elim⟩
    · intro ⟨same, truthful⟩
      exact ⟨.inr same, fun both => fails (truthful.mp both.2)⟩

theorem ends_removeAndMove_iff (ready : Ready source folder old new state) (differ : Differ old new) (apart : source.under folder = false)
    (beside : folder.under source = false) :
    Ends (do
      removeAndMove world (some source) folder
      report progressCallback .success "Plugin Updated")
      (fun _ => AllOrNothing progressCallback verified old folder true) (fun _ => FailsWhole verified old folder) state ↔
      Replaceable world verified old new folder := by
  unfold removeAndMove
  rw [ends_bind, ends_bind, rmSyncRecursive, ends_perform]
  split
  swap
  · next fails =>
    rw [Bool.not_eq_true] at fails
    rw [removal_iff ready differ fails]
    have never : world.removeOld.succeeds ≠ true := by
      rw [fails]
      exact Bool.false_ne_true
    exact ⟨fun unreached => ⟨fun _ => unreached, fun removes => (never removes).elim, fun removes => (never removes).elim,
      fun removes => (never removes).elim⟩, fun replaceable => replaceable.kept fails⟩
  next removes =>
  have emptied := held_emptied removes folder state
  have complete : held (changed world.removeOld (fun _ location => folder.under location) (fun _ _ => none) state).disk source = new := by
    rw [held_changed fun rest _ => disjoint apart beside (under_below source rest), ready.complete]
  have assembled : (changed world.removeOld (fun _ location => folder.under location) (fun _ _ => none) state).assembled = some new := ready.assembled
  generalize changed world.removeOld (fun _ location => folder.under location) (fun _ _ => none) state = empty at emptied complete assembled
  rw [ends_bind, ends_mkdirSync]
  have emptied' : held (changed world.makeFolder (fun disk location => location ∈ missing disk folder) (fun _ _ => some .directory) empty).disk folder =
      fun _ => none := by
    rw [← emptied]
    refine held_changed fun rest nonempty => decide_eq_false fun made => ?_
    exact Bool.eq_false_iff.mp (not_under_below folder nonempty) (above_of_missing made)
  have complete' : held (changed world.makeFolder (fun disk location => location ∈ missing disk folder) (fun _ _ => some .directory) empty).disk source =
      new := by
    rw [held_changed fun rest _ => decide_eq_false (not_missing apart rest), complete]
  have assembled' : (changed world.makeFolder (fun disk location => location ∈ missing disk folder) (fun _ _ => some .directory) empty).assembled =
      some new := assembled
  split
  · next makes =>
    rw [← ends_bind, copying_iff assembled' emptied' complete' differ apart beside]
    constructor
    · exact fun ⟨copies, truthful⟩ => ⟨fun fails => absurd removes (by rw [fails]; exact Bool.false_ne_true), fun _ => makes, fun _ => copies,
        fun _ => truthful⟩
    · exact fun replaceable => ⟨replaceable.copied removes, replaceable.truthful removes⟩
  · next fails =>
    rw [failsWhole_iff assembled', emptied']
    have had := differ.had
    have has := differ.has
    constructor
    · intro ⟨either, _⟩
      rcases either with same | same
      · rw [← same] at had
        cases had
      · rw [← same] at has
        cases has
    · exact fun replaceable => (fails (replaceable.made removes)).elim

/-- The copying comes to no entry that differs. -/
def Spares (copy : Outcome) (folder : Location) (old new : Contents) : Prop :=
  ∀ rest, (new rest).isSome = true → (copy.succeeds || copy.reached (folder.below rest)) = true → old rest = new rest

/-- The copying comes to every entry that differs, and none of them is missing from the new version. -/
def Finishes (copy : Outcome) (folder : Location) (old new : Contents) : Prop :=
  ∀ rest, old rest ≠ new rest → (new rest).isSome = true ∧ (copy.succeeds || copy.reached (folder.below rest)) = true

/-- What the copying has to come to, so that an installation is whole and truthful. -/
structure Placeable (world : World) (ready verified : Prop) (old new : Contents) (folder : Location) : Prop where
  unready : ¬ready → ¬(old = new ∧ verified)
  completed : ready → world.copy.succeeds = true → world.cleanUp.succeeds = true →
    verified ∧ ∀ rest, (old rest).isSome = true → (new rest).isSome = true
  interrupted : ready → ¬(world.copy.succeeds = true ∧ world.cleanUp.succeeds = true) →
    Spares world.copy folder old new ∧ ¬(Finishes world.copy folder old new ∧ verified) ∨ Finishes world.copy folder old new ∧ ¬verified

theorem copied_old_iff {copy : Outcome} {folder : Location} {old new : Contents} :
    copied copy folder new old = old ↔ Spares copy folder old new := by
  constructor
  · intro same rest present comes
    have is := congrFun same rest
    rw [copied, present, comes, Bool.and_self, if_pos rfl] at is
    exact is.symm
  · intro spares
    funext rest
    rw [copied]
    split
    · next both =>
      rw [Bool.and_eq_true] at both
      exact (spares rest both.1 both.2).symm
    · rfl

theorem copied_whole_iff {copy : Outcome} {folder : Location} {old new : Contents} :
    copied copy folder new old = new ↔ Finishes copy folder old new := by
  constructor
  · intro same rest differs
    by_contra neither
    have is := congrFun same rest
    rw [copied, if_neg (by rwa [Bool.and_eq_true])] at is
    exact differs is
  · intro finishes
    funext rest
    rw [copied]
    split
    · rfl
    · next neither =>
      by_contra differs
      exact neither ((Bool.and_eq_true _ _).mpr (finishes rest differs))

theorem copied_over_iff {copy : Outcome} (succeeds : copy.succeeds = true) {folder : Location} {old new : Contents} :
    copied copy folder new old = new ↔ ∀ rest, (old rest).isSome = true → (new rest).isSome = true := by
  constructor
  · intro same rest present
    by_contra absent
    have is := congrFun same rest
    rw [copied, Bool.eq_false_iff.mpr absent, Bool.false_and, if_neg Bool.false_ne_true] at is
    rw [is] at present
    exact absent present
  · intro covers
    funext rest
    cases entry : new rest with
    | some _ => simp [copied, entry, succeeds]
    | none =>
      cases stale : old rest with
      | none => simp [copied, entry, stale]
      | some _ =>
        have present := covers rest (by rw [stale]; rfl)
        rw [entry] at present
        cases present

theorem placing_iff {ready : Prop} (here : ready) (known : Ready source folder old new state) (apart : source.under folder = false)
    (beside : folder.under source = false) :
    Ends (do
      moveDirs world (some source) folder
      report progressCallback .success "Plugin Installed")
      (fun _ => AllOrNothing progressCallback verified old folder true) (fun _ => FailsWhole verified old folder) state ↔
      Placeable world ready verified old new folder := by
  rw [ends_bind]
  have runs : Ends (moveDirs world (some source) folder) _ _ state := ends_moveDirs apart beside
  rw [known.assembled, known.untouched, known.complete] at runs
  apply runs.iff
  · intro _ final ⟨⟨copies, cleans⟩, assembled, holds⟩
    rw [ends_report, succeeds_iff assembled, holds, copied_over_iff copies]
    constructor
    · exact fun ⟨covers, all⟩ => ⟨fun unready => (unready here).elim, fun _ _ _ => ⟨all, covers⟩, fun _ fails => (fails ⟨copies, cleans⟩).elim⟩
    · exact fun placeable => (placeable.completed here copies cleans).symm
  · intro _ final ⟨fails, assembled, holds⟩
    rw [failsWhole_iff assembled, holds, copied_old_iff, copied_whole_iff]
    constructor
    · exact fun both => ⟨fun unready => (unready here).elim, fun _ copies cleans => (fails ⟨copies, cleans⟩).elim, fun _ _ => by tauto⟩
    · intro placeable
      have either := placeable.interrupted here fails
      tauto

end Replacing

/-! A call ends by reporting its failure. -/

theorem fails_iff {progressCallback : Bool} {verified : Prop} {old : Contents} {returned : Bool} {next : State}
    (silent : ¬ReportsSuccess progressCallback returned next) (disk : next.disk = state.disk) (assembled : next.assembled = state.assembled) :
    AllOrNothing progressCallback verified old folder returned next ↔ FailsWhole verified old folder state := by
  have same : Renewed verified folder next ↔ Renewed verified folder state := by
    rw [Renewed, Renewed, disk, assembled]
  constructor
  · intro ⟨whole, honest⟩
    rw [disk, assembled] at whole
    exact ⟨whole, fun renewed => silent (honest.mpr (same.mpr renewed))⟩
  · intro ⟨whole, honest⟩
    rw [← disk, ← assembled] at whole
    exact ⟨whole, iff_of_false silent fun renewed => honest (same.mp renewed)⟩

theorem ends_reporting_iff {progressCallback : Bool} {verified : Prop} {old : Contents} {program : Action Unit} :
    Ends (reporting progressCallback program) (fun _ => AllOrNothing progressCallback verified old folder true)
      (fun _ => AllOrNothing progressCallback verified old folder false) state ↔
      Ends program (fun _ => AllOrNothing progressCallback verified old folder true) (fun _ => FailsWhole verified old folder) state := by
  unfold reporting
  rw [ends_tryCatch]
  apply (ends_const.mpr trivial : Ends program (fun _ _ => True) (fun _ _ => True) state).congr
  · exact fun _ _ _ => Iff.rfl
  · intro message next _
    rw [ends_ite, ends_report, ends_throw]
    split
    · next listening =>
      apply fails_iff
      · subst listening
        rintro ⟨other, same⟩
        cases same
      · exact reported_disk _ _ _ _
      · unfold reported
        split <;> rfl
    · next alone =>
      apply fails_iff _ rfl rfl
      rw [ReportsSuccess, if_neg alone]
      exact Bool.false_ne_true

end Steps

/-! The download. -/

section Download
variable {computer : Computer} {disk : Disk} {destinationFolder folder : Location} {progressCallback : Bool}

theorem Apart.source (apart : Apart computer disk destinationFolder folder) (name : String) : (computer.tempDir.child name).under folder = false :=
  Bool.eq_false_iff.mpr fun inside => Bool.eq_false_iff.mp apart.outside (under_trans (under_child _ _) inside)

theorem Apart.beside_source (apart : Apart computer disk destinationFolder folder) (name : String) :
    folder.under (computer.tempDir.child name) = false := by
  apply Bool.eq_false_iff.mpr
  intro inside
  rcases under_child_iff.mp inside with above | same
  · exact Bool.eq_false_iff.mp apart.beside above
  · refine Bool.eq_false_iff.mp apart.outside ?_
    rw [same]
    exact under_child _ _

theorem Apart.not_above (apart : Apart computer disk destinationFolder folder) : folder.under destinationFolder = false := by
  obtain ⟨part, same⟩ := apart.child
  rw [same]
  exact not_under_below _ (List.cons_ne_nil _ _)

theorem Apart.source_not_above (apart : Apart computer disk destinationFolder folder) (name : String) :
    (computer.tempDir.child name).under destinationFolder = false :=
  Bool.eq_false_iff.mpr fun inside => Bool.eq_false_iff.mp apart.destination (under_trans (under_child _ _) inside)

/-- The package is assembled in its own folder, and nothing is moved to or from the folder of the plugin, each as far as the
download may come. -/
structure Arranged (computer : Computer) (progressCallback : Bool) (pluginInfo : ArtifactHubHeadlampPkg) (headlampVersion : String)
    (folder : Location) : Prop where
  proper : Accepts computer pluginInfo headlampVersion → Downloadable computer pluginInfo.archiveURL pluginInfo.archiveChecksum →
    Proper pluginInfo.name ∨ Unsaved computer.cwd pluginInfo.archiveURL
  confined : Accepts computer pluginInfo headlampVersion → Downloadable computer pluginInfo.archiveURL pluginInfo.archiveChecksum →
    Proper pluginInfo.name → ∀ matching, getMatchingExtraFiles computer (pluginInfo.extraFiles.getD []) = some matching →
    Confined computer progressCallback (fun location => folder.under location = false) ((computer.tempDir.child pluginInfo.name).child "bin") matching

/-- The folder of the plugin is as it was, and there is no new version yet. -/
def Before (disk : Disk) (folder : Location) (state : State) : Prop :=
  (∀ location, folder.under location = true → state.disk location = disk location) ∧ state.assembled = none

theorem tolerates_before : Tolerates (Before disk folder) fun location => folder.under location = false :=
  ((tolerates_unchanged disk folder.under).and tolerates_unassembled).weaken fun _ apart => ⟨apart, trivial⟩

theorem Before.holds {state : State} (before : Before disk folder state) : held state.disk folder = held disk folder :=
  held_congr fun _ _ => before.1 _ (under_below _ _)

theorem Before.fails {state : State} {verified : Prop} (before : Before disk folder state) : FailsWhole verified (held disk folder) folder state where
  whole := .inl before.holds
  honest := fun renewed => by
    have is := renewed.1
    rw [before.2] at is
    cases is

variable {pluginInfo : ArtifactHubHeadlampPkg} {headlampVersion : String} {state : State}

/-- The new version, which has the version of the package in its `package.json`. -/
structure Assembled (computer : Computer) (disk : Disk) (pluginInfo : ArtifactHubHeadlampPkg) (folder : Location) (new : Contents) (next : State) :
    Prop where
  ready : Ready (computer.tempDir.child pluginInfo.name) folder (held disk folder) new next
  described : ∃ content written, computer.withMetadata content pluginInfo = some written ∧ new ["package.json"] = some (.file written)

theorem ends_download (world : World) (apart : Apart computer disk destinationFolder folder)
    (arranged : Arranged computer progressCallback pluginInfo headlampVersion folder) (begins : state.disk = disk) (before : Before disk folder state) :
    Ends (downloadExtractArchive computer world progressCallback pluginInfo headlampVersion)
      (fun result next => result = (pluginInfo.name, some (computer.tempDir.child pluginInfo.name)) ∧
        ∃ new, Assembled computer disk pluginInfo folder new next)
      (fun _ next => Before disk folder next) state := by
  have within : ∀ location, computer.tempDir.under location = true → folder.under location = false :=
    fun location inside => disjoint apart.outside apart.beside inside
  apply ends_downloadExtractArchive computer world progressCallback tolerates_before pluginInfo headlampVersion
    (by rw [begins]; exact apart.absent) within before
  · exact fun _ next before _ => before
  intro next before accepts there
  by_cases downloadable : Downloadable computer pluginInfo.archiveURL pluginInfo.archiveChecksum
  swap
  · exact (ends_assemble_never computer world progressCallback tolerates_before pluginInfo _ (fun is => (downloadable is).elim) before).mono
      (fun _ _ impossible => impossible.elim) fun _ _ before => before
  by_cases proper : Proper pluginInfo.name
  swap
  · have unsaved := (arranged.proper accepts downloadable).resolve_left proper
    rw [if_neg proper]
    exact (ends_assemble_never computer world progressCallback tolerates_before pluginInfo none (fun _ => unsaved) before).mono
      (fun _ _ impossible => impossible.elim) fun _ _ before => before
  rw [if_pos proper]
  apply (ends_assemble computer world progressCallback tolerates_before pluginInfo within (fun _ => arranged.confined accepts downloadable proper)
    there before).mono
  swap
  · exact fun _ _ kept => kept.1
  intro result final ⟨same, _, last, before, complete, content, written, described, at'⟩
  refine ⟨same, held last.disk (computer.tempDir.child pluginInfo.name), ⟨?_, ?_, ?_⟩, content, written, described, ?_⟩
  · rw [complete]
    exact before.holds
  · rw [complete]
  · rw [complete]
  · rw [held_below (List.cons_ne_nil _ _), ← child_eq_below]
    exact at'

/-! The calls. -/

/-- What the steps that change the folder have to come to, once the download has ended well. -/
def InstallsWhole (world : World) (destinationFolder folder : Location) (verified : Prop) (old : Contents) (next : State) : Prop :=
  ∀ new, next.assembled = some new → Placeable world (DestinationReady world destinationFolder next) verified old new folder

theorem installFromPluginPkg_iff (world : World) (apart : Apart computer disk destinationFolder (pluginFolder computer destinationFolder pluginInfo.name))
    (arranged : Arranged computer progressCallback pluginInfo headlampVersion (pluginFolder computer destinationFolder pluginInfo.name)) {verified : Prop} :
    Ends (installFromPluginPkg computer world progressCallback pluginInfo destinationFolder headlampVersion)
      (fun _ => AllOrNothing progressCallback verified (held disk (pluginFolder computer destinationFolder pluginInfo.name))
        (pluginFolder computer destinationFolder pluginInfo.name) true)
      (fun _ => AllOrNothing progressCallback verified (held disk (pluginFolder computer destinationFolder pluginInfo.name))
        (pluginFolder computer destinationFolder pluginInfo.name) false) (start disk) ↔
      Ends (downloadExtractArchive computer world progressCallback pluginInfo headlampVersion)
        (fun _ => InstallsWhole world destinationFolder (pluginFolder computer destinationFolder pluginInfo.name) verified
          (held disk (pluginFolder computer destinationFolder pluginInfo.name)))
        (fun _ _ => True) (start disk) := by
  unfold installFromPluginPkg
  rw [ends_reporting_iff, ends_bind]
  apply (ends_download world apart arranged rfl ⟨fun _ _ => rfl, rfl⟩).congr
  swap
  · exact fun _ next before => iff_true_intro before.fails
  intro result next ⟨same, new, assembled⟩
  rw [same, ends_bind]
  have known := assembled.ready.assembled
  have only : InstallsWhole world destinationFolder (pluginFolder computer destinationFolder pluginInfo.name) verified
      (held disk (pluginFolder computer destinationFolder pluginInfo.name)) next ↔
      Placeable world (DestinationReady world destinationFolder next) verified (held disk (pluginFolder computer destinationFolder pluginInfo.name)) new
        (pluginFolder computer destinationFolder pluginInfo.name) := by
    constructor
    · exact fun all => all new known
    · intro placeable other is
      rw [known, Option.some.injEq] at is
      rwa [← is]
  rw [only]
  apply (ends_destination assembled.ready apart.not_above (apart.source_not_above _)).iff
  · exact fun _ final ⟨ready, here⟩ => placing_iff here ready (apart.source _) (apart.beside_source _)
  · intro _ final ⟨ready, unready⟩
    rw [failsWhole_iff ready.assembled, ready.untouched]
    constructor
    · exact fun both => ⟨fun _ => both.2, fun here => (unready here).elim, fun here => (unready here).elim⟩
    · exact fun placeable => ⟨.inl rfl, placeable.unready unready⟩

/-- The same for an update, which removes the old version. -/
def UpdatesWhole (world : World) (destinationFolder folder : Location) (verified : Prop) (old : Contents) (next : State) : Prop :=
  ∀ new, next.assembled = some new → DestinationReady world destinationFolder next → Replaceable world verified old new folder

variable {pluginName : String} {installedPlugins : List PluginData} {plugin : PluginData} {answer : Answer}

theorem differ_of_newer {content : Bytes} {currentVersion : String} {new : Contents} {next : State}
    (installed : disk (folder.child "package.json") = some (.file content)) (current : computer.artifacthubVersion content = some currentVersion)
    (newer : computer.lte pluginInfo.version currentVersion ≠ true) (assembled : Assembled computer disk pluginInfo folder new next) :
    Differ (held disk folder) new := by
  obtain ⟨other, written, described, at'⟩ := assembled.described
  have old : held disk folder ["package.json"] = some (.file content) := by
    rw [held_below (List.cons_ne_nil _ _)]
    exact installed
  refine ⟨by rw [old]; rfl, by rw [at']; rfl, fun same => newer ?_⟩
  rw [old, at', Option.some.injEq, Entry.file.injEq] at same
  rw [same, computer.version_written described, Option.some.injEq] at current
  rw [current]
  exact computer.lte_refl currentVersion

theorem ends_prepareUpdate (world : World) (found : (installedPlugins.find? fun plugin => plugin.pluginName = pluginName) = some plugin)
    (apart : Apart computer disk destinationFolder (join computer.win32 destinationFolder plugin.folderName).location)
    (arranged : ∀ pluginInfo, fetchPluginInfo computer.underTest plugin.artifacthubURL answer = .ok pluginInfo →
      Arranged computer progressCallback pluginInfo headlampVersion (join computer.win32 destinationFolder plugin.folderName).location) :
    Ends (prepareUpdate computer world progressCallback pluginName (some installedPlugins) answer destinationFolder headlampVersion)
      (fun result next => ∃ pluginInfo new,
        result = (some (computer.tempDir.child pluginInfo.name), (join computer.win32 destinationFolder plugin.folderName).location) ∧
        Assembled computer disk pluginInfo (join computer.win32 destinationFolder plugin.folderName).location new next ∧
        Differ (held disk (join computer.win32 destinationFolder plugin.folderName).location) new)
      (fun _ next => Before disk (join computer.win32 destinationFolder plugin.folderName).location next) (start disk) := by
  have before : Before disk (join computer.win32 destinationFolder plugin.folderName).location (start disk) := ⟨fun _ _ => rfl, rfl⟩
  unfold prepareUpdate
  simp only [found]
  rw [ends_bind, ends_get]
  split
  swap
  · exact ends_throw.mpr before
  next content installed =>
  rw [ends_bind]
  cases fetched : fetchPluginInfo computer.underTest plugin.artifacthubURL answer with
  | error message =>
    apply (ends_fetchInfo_fails computer progressCallback tolerates_before fetched before).mono
    · exact fun _ _ impossible => impossible.elim
    · exact fun _ _ before => before
  | ok pluginInfo =>
    apply (ends_fetchInfo computer progressCallback tolerates_before pluginInfo fetched before).mono
    swap
    · exact fun _ _ impossible => impossible.elim
    intro result next ⟨same, before, unchanged⟩
    rw [same]
    split
    · exact ends_throw.mpr before
    next currentVersion current =>
    rw [ends_ite, ends_throw]
    split
    · exact before
    next newer =>
    rw [ends_bind]
    apply (ends_download world apart (arranged pluginInfo fetched) unchanged before).mono
    swap
    · exact fun _ _ before => before
    intro result next ⟨same, new, assembled⟩
    rw [same, ends_pure]
    exact ⟨pluginInfo, new, rfl, assembled, differ_of_newer installed current newer assembled⟩

theorem update_iff (world : World) (found : (installedPlugins.find? fun plugin => plugin.pluginName = pluginName) = some plugin)
    (apart : Apart computer disk destinationFolder (join computer.win32 destinationFolder plugin.folderName).location)
    (arranged : ∀ pluginInfo, fetchPluginInfo computer.underTest plugin.artifacthubURL answer = .ok pluginInfo →
      Arranged computer progressCallback pluginInfo headlampVersion (join computer.win32 destinationFolder plugin.folderName).location)
    {verified : Prop} :
    Ends (update computer world progressCallback pluginName (some installedPlugins) answer destinationFolder headlampVersion)
      (fun _ => AllOrNothing progressCallback verified (held disk (join computer.win32 destinationFolder plugin.folderName).location)
        (join computer.win32 destinationFolder plugin.folderName).location true)
      (fun _ => AllOrNothing progressCallback verified (held disk (join computer.win32 destinationFolder plugin.folderName).location)
        (join computer.win32 destinationFolder plugin.folderName).location false) (start disk) ↔
      Ends (prepareUpdate computer world progressCallback pluginName (some installedPlugins) answer destinationFolder headlampVersion)
        (fun _ => UpdatesWhole world destinationFolder (join computer.win32 destinationFolder plugin.folderName).location verified
          (held disk (join computer.win32 destinationFolder plugin.folderName).location))
        (fun _ _ => True) (start disk) := by
  unfold update
  rw [ends_reporting_iff, ends_bind]
  apply (ends_prepareUpdate world found apart arranged).congr
  swap
  · exact fun _ next before => iff_true_intro before.fails
  intro result next ⟨pluginInfo, new, same, assembled, differ⟩
  rw [same, ends_bind]
  have known := assembled.ready.assembled
  have only : UpdatesWhole world destinationFolder (join computer.win32 destinationFolder plugin.folderName).location verified
      (held disk (join computer.win32 destinationFolder plugin.folderName).location) next ↔
      (DestinationReady world destinationFolder next → Replaceable world verified
        (held disk (join computer.win32 destinationFolder plugin.folderName).location) new
        (join computer.win32 destinationFolder plugin.folderName).location) := by
    constructor
    · exact fun all => all new known
    · intro replaceable other is
      rw [known, Option.some.injEq] at is
      rwa [← is]
  rw [only]
  apply (ends_destination assembled.ready apart.not_above (apart.source_not_above _)).iff
  · intro _ final ⟨ready, here⟩
    rw [ends_removeAndMove_iff ready differ (apart.source _) (apart.beside_source _)]
    exact ⟨fun replaceable _ => replaceable, fun replaceable => replaceable here⟩
  · intro _ final ⟨ready, unready⟩
    rw [failsWhole_iff ready.assembled, ready.untouched]
    constructor
    · exact fun _ here => (unready here).elim
    · intro _
      refine ⟨.inl rfl, fun both => differ.differ ?_⟩
      rw [both.1]

end Download

/-- However a call ends. -/
def EndsWhole (progressCallback : Bool) (verified : Prop) (old : Contents) (folder : Location) (program : Action Unit) (state : State) : Prop :=
  Ends program (fun _ => AllOrNothing progressCallback verified old folder true) (fun _ => AllOrNothing progressCallback verified old folder false) state

/-! An installed plugin for which there is a new version. -/
section Example
open Containment

def bytes (text : String) : Bytes := text.toList.map fun char => UInt8.ofNat char.toNat

/-- What `JSON.stringify` makes of the metadata. -/
def packageOf (version : String) : Bytes :=
  bytes "\x7b\n  \"artifacthub\": \x7b\n    \"name\": \"vm\",\n    \"title\": \"VM\",\n    \"url\": \"" ++ bytes vmURL ++
    bytes "\",\n    \"version\": \"" ++ bytes version ++
    bytes "\",\n    \"repoName\": \"vm\",\n    \"author\": \"someone\"\n  \x7d,\n  \"isManagedByHeadlampPlugin\": true\n\x7d"

theorem packages_differ : packageOf "0.10.0" ≠ packageOf "1.0.0" := by
  intro same
  unfold packageOf at same
  have versions : bytes "0.10.0" = bytes "1.0.0" := List.append_cancel_left (List.append_cancel_right same)
  exact absurd (congrArg List.length versions) (by decide)

def withMetadata (content : Bytes) (pluginInfo : ArtifactHubHeadlampPkg) : Option Bytes :=
  if content = [123, 125] ∧ pluginInfo = vm then some (packageOf "1.0.0") else none

def artifacthubVersion (content : Bytes) : Option String :=
  if content = packageOf "1.0.0" then some "1.0.0" else if content = packageOf "0.10.0" then some "0.10.0" else none

theorem version_written {content : Bytes} {pluginInfo : ArtifactHubHeadlampPkg} {written : Bytes} (is : withMetadata content pluginInfo = some written) :
    artifacthubVersion written = some pluginInfo.version := by
  unfold withMetadata at is
  split at is
  · next here =>
    rw [Option.some.injEq] at is
    rw [artifacthubVersion, if_pos is.symm, here.2]
    rfl
  · cases is

theorem version_installed : artifacthubVersion (packageOf "0.10.0") = some "0.10.0" := by
  rw [artifacthubVersion, if_neg packages_differ, if_pos rfl]

def desktop : Computer :=
  { laptop "darwin/arm64" with
    lte := fun first second => first = second || (first = "0.10.0" && second = "1.0.0")
    withMetadata := withMetadata
    artifacthubVersion := artifacthubVersion
    version_written := version_written
    lte_refl := fun version => by rw [decide_eq_true rfl, Bool.true_or] }

def vmFolder : Location := plugins.child "vm"

def withVm : Disk := fun location =>
  if location = vmFolder.child "package.json" then some (.file (packageOf "0.10.0"))
  else if location = vmFolder then some .directory
  else withPlugins location

/-- All succeeds, but the copying of the new version when the disk is full. -/
def fullDisk : World := { sunny with copy := ⟨false, fun _ => false, "ENOSPC"⟩ }

def installedVm : List PluginData := [⟨"vm", "vm", vmURL⟩]

theorem apart_vm {disk : Disk} (known : ∀ location, (disk location).isSome = true →
    location ∈ [home, plugins, vmFolder, vmFolder.child "package.json"]) : Apart desktop disk plugins vmFolder where
  absent := by
    intro location inside
    by_contra present
    have among : ∀ place ∈ [home, plugins, vmFolder, vmFolder.child "package.json"], temp.under place = false := by decide
    have apart := among location (known location (Option.isSome_iff_ne_none.mpr present))
    exact Bool.eq_false_iff.mp apart inside
  destination := by
    have apart : temp.under plugins = false := by decide
    exact apart
  outside := by
    have apart : temp.under vmFolder = false := by decide
    exact apart
  beside := by
    have apart : vmFolder.under temp = false := by decide
    exact apart
  child := ⟨"vm", rfl⟩

theorem known_plugins (location : Location) (present : (withPlugins location).isSome = true) :
    location ∈ [home, plugins, vmFolder, vmFolder.child "package.json"] := by
  unfold withPlugins at present
  split at present
  · next either => rcases either with same | same <;> simp [same]
  · cases present

theorem known_vm (location : Location) (present : (withVm location).isSome = true) :
    location ∈ [home, plugins, vmFolder, vmFolder.child "package.json"] := by
  unfold withVm at present
  split at present
  · next same => simp [same]
  split at present
  · next same => simp [same]
  · exact known_plugins location present

theorem empty_plugins (rest : Path) : held withPlugins vmFolder rest = none := by
  unfold held
  split
  · rfl
  refine if_neg fun either => ?_
  have inside := under_below vmFolder rest
  rcases either with same | same
  · rw [same] at inside
    exact absurd inside (by decide)
  · rw [same] at inside
    exact absurd inside (by decide)

theorem matching_vm : getMatchingExtraFiles desktop (vm.extraFiles.getD []) = some [] := by
  have none' : getMatchingExtraFiles (laptop "darwin/arm64") (vm.extraFiles.getD []) = some [] := by decide +kernel
  exact none'

theorem arranged_vm : Arranged desktop true vm "" vmFolder where
  proper := fun _ _ => .inl (by decide)
  confined := by
    intro _ _ _ matching matched
    rw [matching_vm, Option.some.injEq] at matched
    rw [← matched]
    trivial

theorem verified_vm : Verified desktop sunny vm where
  main := by
    have valid : validateArchiveURL false "https://github.com/vm/vm/releases/package.json" = true := by decide +kernel
    have plain : isTarGz "https://github.com/vm/vm/releases/package.json" = false := by decide +kernel
    have named : validFileName (fileNameOf desktop "https://github.com/vm/vm/releases/package.json") = true := by decide +kernel
    have bare : bareChecksum "44136fa355b3678a1146ad16f7e8649e94fb4fc21fe77e8310c060f61caaff8a" =
        "44136fa355b3678a1146ad16f7e8649e94fb4fc21fe77e8310c060f61caaff8a" := by decide +kernel
    refine ⟨⟨_, rfl, valid, by decide, rfl, ?_⟩, by decide, ⟨_, [123, 125], rfl, rfl, rfl, ?_⟩, fun _ _ => rfl⟩
    · rw [plain, if_neg Bool.false_ne_true]
      exact named
    · exact bare.symm
  extra := by
    intro matching matched
    rw [matching_vm, Option.some.injEq] at matched
    rw [← matched]
    exact fun item absent => (List.not_mem_nil absent).elim

end Example

end K8Sense.Plugins.Atomicity
