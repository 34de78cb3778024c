import K8Sense.Plugins.Installation

/-! What each step of an installation changes on the disk, and when it succeeds. -/

namespace K8Sense.Plugins.Footprint
open K8Sense.Action Packages Paths Places Installation

/-- The invariant allows for changes of some places, and for any report. -/
structure Tolerates (inv : State → Prop) (allowed : Location → Prop) : Prop where
  records : ∀ (state : State) (progress : Progress), inv state → inv { state with progress := some progress }
  changes : ∀ (state : State) (disk : Disk) (touched done : Location → Bool), (∀ location, done location = true → allowed location) →
    (∀ location, done location = false → disk location = state.disk location) →
    (∀ location, touched location = (state.touched location || done location)) → inv state → inv { state with disk := disk, touched := touched }

/-- The state after a call, whether it has succeeded or not. -/
def changed (outcome : Outcome) (region : Disk → Location → Bool) (content : Disk → Location → Option Entry) (state : State) : State :=
  let done := fun location => region state.disk location && (outcome.succeeds || outcome.reached location)
  { state with
    disk := fun location => if done location then content state.disk location else state.disk location
    touched := fun location => state.touched location || done location }

def reported (progressCallback : Bool) (type : ProgressType) (message : String) (state : State) : State :=
  if progressCallback then { state with progress := some ⟨type, message⟩ } else state

@[simp] theorem reported_disk (progressCallback : Bool) (type : ProgressType) (message : String) (state : State) :
    (reported progressCallback type message state).disk = state.disk := by
  unfold reported
  split <;> rfl

section Calls
variable {outcome : Outcome} {region : Disk → Location → Bool} {content : Disk → Location → Option Entry} {state : State}

theorem ends_perform {post : Unit → State → Prop} {fails : String → State → Prop} :
    Ends (perform outcome region content) post fails state ↔
      if outcome.succeeds then post () (changed outcome region content state) else fails outcome.message (changed outcome region content state) := by
  rw [perform, ends_bind, ends_modify, ends_ite, ends_pure, ends_throw]
  exact Iff.rfl

@[simp] theorem ends_report {progressCallback : Bool} {type : ProgressType} {message : String} {post : Unit → State → Prop}
    {fails : String → State → Prop} :
    Ends (report progressCallback type message) post fails state ↔ post () (reported progressCallback type message state) := ends_modify

theorem ends_mkdirSync {target : Location} {post : Option Location → State → Prop} {fails : String → State → Prop} :
    Ends (mkdirSync outcome target) post fails state ↔
      if outcome.succeeds then
        post (missing state.disk target).head? (changed outcome (fun disk location => location ∈ missing disk target) (fun _ _ => some .directory) state)
      else fails outcome.message (changed outcome (fun disk location => location ∈ missing disk target) (fun _ _ => some .directory) state) := by
  rw [mkdirSync, ends_bind, ends_get, ends_bind, ends_perform, ends_pure]

theorem changed_unreached {location : Location} (apart : region state.disk location = false) :
    (changed outcome region content state).disk location = state.disk location := by
  simp only [changed, apart, Bool.false_and, Bool.false_eq_true, if_false]

theorem changed_reached {location : Location} (succeeds : outcome.succeeds = true) (inside : region state.disk location = true) :
    (changed outcome region content state).disk location = content state.disk location := by
  simp only [changed, inside, succeeds, Bool.true_or, Bool.and_self, if_true]

theorem touched_changed {location : Location} (succeeds : outcome.succeeds = true) (inside : region state.disk location = true) :
    (changed outcome region content state).touched location = true := by
  simp only [changed, inside, succeeds, Bool.true_or, Bool.and_self, Bool.or_true]

end Calls

namespace Tolerates
variable {inv : State → Prop} {allowed : Location → Prop} (tolerates : Tolerates inv allowed)
include tolerates

theorem changed {outcome : Outcome} {region : Disk → Location → Bool} {content : Disk → Location → Option Entry} {state : State}
    (within : ∀ location, region state.disk location = true → allowed location) (kept : inv state) :
    inv (changed outcome region content state) := by
  refine tolerates.changes state _ _ (fun location => region state.disk location && (outcome.succeeds || outcome.reached location))
    (fun location done => within location (Bool.and_eq_true_iff.mp done).1) (fun location apart => ?_) (fun location => rfl) kept
  simp only [apart, Bool.false_eq_true, if_false]

theorem ends_perform {outcome : Outcome} {region : Disk → Location → Bool} {content : Disk → Location → Option Entry} {state : State}
    (within : ∀ location, region state.disk location = true → allowed location) (kept : inv state) :
    Ends (perform outcome region content) (fun _ next => inv next ∧ outcome.succeeds = true)
      (fun _ next => inv next ∧ outcome.succeeds = false) state := by
  rw [Footprint.ends_perform]
  split
  · next succeeds => exact ⟨tolerates.changed within kept, succeeds⟩
  · next fails => exact ⟨tolerates.changed within kept, Bool.eq_false_iff.mpr fails⟩

theorem ends_writeFileSync {outcome : Outcome} {path : Location} {content : Bytes} {state : State} (within : allowed path) (kept : inv state) :
    Ends (writeFileSync outcome path content) (fun _ next => inv next ∧ outcome.succeeds = true)
      (fun _ next => inv next ∧ outcome.succeeds = false) state := by
  unfold writeFileSync
  apply tolerates.ends_perform _ kept
  intro location here
  rwa [of_decide_eq_true here]

theorem ends_copyFileSync {outcome : Outcome} {input output : Location} {state : State} (within : allowed output) (kept : inv state) :
    Ends (copyFileSync outcome input output) (fun _ next => inv next ∧ outcome.succeeds = true)
      (fun _ next => inv next ∧ outcome.succeeds = false) state := by
  unfold copyFileSync
  apply tolerates.ends_perform _ kept
  intro location here
  rwa [of_decide_eq_true here]

theorem ends_rmSync {outcome : Outcome} {path : Location} {state : State} (within : allowed path) (kept : inv state) :
    Ends (rmSync outcome path) (fun _ next => inv next ∧ outcome.succeeds = true)
      (fun _ next => inv next ∧ outcome.succeeds = false) state := by
  unfold rmSync
  apply tolerates.ends_perform _ kept
  intro location here
  rwa [of_decide_eq_true here]

theorem ends_rmSyncRecursive {outcome : Outcome} {path : Location} {state : State}
    (within : ∀ location, path.under location = true → allowed location) (kept : inv state) :
    Ends (rmSyncRecursive outcome path) (fun _ next => inv next ∧ outcome.succeeds = true)
      (fun _ next => inv next ∧ outcome.succeeds = false) state :=
  tolerates.ends_perform within kept

theorem ends_cpSync {outcome : Outcome} {source target : Location} {state : State}
    (within : ∀ location, target.under location = true → allowed location) (kept : inv state) :
    Ends (cpSync outcome source target) (fun _ next => inv next ∧ outcome.succeeds = true)
      (fun _ next => inv next ∧ outcome.succeeds = false) state := by
  unfold cpSync
  apply tolerates.ends_perform _ kept
  exact fun location inside => within location (Bool.and_eq_true_iff.mp inside).1

theorem ends_makeIfMissing {outcome : Outcome} {folder : Location} {state : State}
    (within : ∀ location ∈ missing state.disk folder, allowed location) (kept : inv state) :
    Ends (makeIfMissing outcome folder) (fun _ next => inv next)
      (fun _ next => inv next ∧ outcome.succeeds = false) state := by
  rw [makeIfMissing, ends_bind, ends_get, ends_ite]
  split
  · rw [ends_bind, ends_mkdirSync]
    split
    · exact ends_pure.mpr (tolerates.changed (fun location inside => within location (of_decide_eq_true inside)) kept)
    · next fails =>
      exact ⟨tolerates.changed (fun location inside => within location (of_decide_eq_true inside)) kept, Bool.eq_false_iff.mpr fails⟩
  · exact ends_pure.mpr kept

theorem reported {state : State} (progressCallback : Bool) (type : ProgressType) (message : String) (kept : inv state) :
    inv (reported progressCallback type message state) := by
  unfold Footprint.reported
  split
  · exact tolerates.records state _ kept
  · exact kept

omit tolerates in
theorem weaken {fewer : Location → Prop} (tolerates : Tolerates inv allowed) (within : ∀ location, fewer location → allowed location) :
    Tolerates inv fewer where
  records := tolerates.records
  changes := fun state disk touched done inside => tolerates.changes state disk touched done fun location at' => within location (inside location at')

theorem and {other : State → Prop} {places : Location → Prop} (also : Tolerates other places) :
    Tolerates (fun state => inv state ∧ other state) fun location => allowed location ∧ places location where
  records := fun state progress kept => ⟨tolerates.records state progress kept.1, also.records state progress kept.2⟩
  changes := fun state disk touched done inside same grown kept =>
    ⟨tolerates.changes state disk touched done (fun location at' => (inside location at').1) same grown kept.1,
      also.changes state disk touched done (fun location at' => (inside location at').2) same grown kept.2⟩

end Tolerates

/-! Invariants of the disk and the reports. -/

theorem tolerates_at (location : Location) (holds : Option Entry → Prop) : Tolerates (fun state => holds (state.disk location)) (· ≠ location) where
  records := fun _ _ kept => kept
  changes := fun state disk touched done inside same grown kept => by
    have apart : done location = false := Bool.eq_false_iff.mpr fun at' => inside location at' rfl
    change holds (disk location)
    rwa [same location apart]

theorem tolerates_touched (location : Location) : Tolerates (fun state => state.touched location = true) fun _ => True where
  records := fun _ _ kept => kept
  changes := fun state disk touched done inside same grown kept => by
    change touched location = true
    rw [grown, kept, Bool.true_or]

theorem tolerates_within (allowed : Location → Prop) :
    Tolerates (fun state => ∀ location, state.touched location = true → allowed location) allowed where
  records := fun _ _ kept => kept
  changes := fun state disk touched done inside same grown kept location at' => by
    change touched location = true at at'
    rw [grown, Bool.or_eq_true] at at'
    exact at'.elim (kept location) (inside location)

theorem tolerates_untouched (disk : Disk) :
    Tolerates (fun state => ∀ location, state.touched location = false → state.disk location = disk location) fun _ => True where
  records := fun _ _ kept => kept
  changes := fun state disk touched done inside same grown kept location apart => by
    change touched location = false at apart
    rw [grown, Bool.or_eq_false_iff] at apart
    exact (same location apart.2).trans (kept location apart.1)

theorem tolerates_unchanged (disk : Disk) (protects : Location → Bool) :
    Tolerates (fun state => ∀ location, protects location = true → state.disk location = disk location) fun location => protects location = false where
  records := fun _ _ kept => kept
  changes := fun state disk touched done inside same grown kept location protected' => by
    have apart : done location = false := by
      apply Bool.eq_false_iff.mpr
      intro at'
      rw [inside location at'] at protected'
      cases protected'
    exact (same location apart).trans (kept location protected')

theorem tolerates_unassembled : Tolerates (fun state => state.assembled = none) fun _ => True where
  records := fun _ _ kept => kept
  changes := fun _ _ _ _ _ _ _ kept => kept

theorem ends_checkAborted {aborted : Bool} {post : Unit → State → Prop} {fails : String → State → Prop} {state : State} :
    Ends (checkAborted aborted) post fails state ↔ if aborted then fails "Download cancelled" state else post () state := by
  rw [checkAborted, ends_ite, ends_throw, ends_pure]

/-! One archive. -/

section Archives
variable (computer : Computer) (progressCallback : Bool) (download : Download)

structure Verifies (archiveChecksum : String) : Prop where
  received : ∃ response content, download.response = some response ∧ response.ok = true ∧ response.body = some (.ok content) ∧
    computer.sha256 content = bareChecksum archiveChecksum
  continued : ∀ check, check ≠ .extraction → download.aborted check = false

theorem ends_fetchArchive (archiveChecksum : String) (state : State) :
    Ends (fetchArchive computer download archiveChecksum) (fun _ next => next = state ∧ Verifies computer download archiveChecksum)
      (fun _ next => next = state ∧ ¬Verifies computer download archiveChecksum) state := by
  rw [fetchArchive, ends_bind, ends_checkAborted]
  split
  · next aborted => exact ⟨rfl, fun verifies => by simp [verifies.continued .request] at aborted⟩
  next request =>
  split
  · next lost =>
    rw [ends_throw]
    exact ⟨rfl, fun verifies => by simpa [lost] using verifies.received⟩
  next response answered =>
  rw [ends_ite, ends_throw]
  split
  · next refused =>
    refine ⟨rfl, fun verifies => ?_⟩
    obtain ⟨other, _, same, ok, _⟩ := verifies.received
    rw [answered, Option.some.injEq] at same
    simp [same, ok] at refused
  next ok =>
  rw [ends_bind, ends_checkAborted]
  split
  · next aborted => exact ⟨rfl, fun verifies => by simp [verifies.continued .response] at aborted⟩
  next read =>
  split
  · next empty =>
    rw [ends_throw]
    refine ⟨rfl, fun verifies => ?_⟩
    obtain ⟨other, _, same, _, body, _⟩ := verifies.received
    rw [answered, Option.some.injEq] at same
    simp [← same, empty] at body
  · next broken =>
    rw [ends_throw]
    refine ⟨rfl, fun verifies => ?_⟩
    obtain ⟨other, _, same, _, body, _⟩ := verifies.received
    rw [answered, Option.some.injEq] at same
    simp [← same, broken] at body
  next content whole =>
  rw [ends_ite, ends_throw]
  split
  · next different =>
    refine ⟨rfl, fun verifies => different ?_⟩
    obtain ⟨other, received, same, _, body, checksum⟩ := verifies.received
    rw [answered, Option.some.injEq] at same
    rw [← same, whole, Option.some.injEq, Except.ok.injEq] at body
    rw [body, checksum]
  next same =>
  rw [ends_bind, ends_checkAborted]
  split
  · next aborted => exact ⟨rfl, fun verifies => by simp [verifies.continued .checksum] at aborted⟩
  next compared =>
  rw [ends_pure]
  refine ⟨rfl, ⟨response, content, answered, by simpa using ok, whole, not_not.mp same⟩, fun check earlier => ?_⟩
  cases check <;> simp_all

/-- What is received can be stored. -/
def Stores (archiveURL : String) : Prop :=
  download.write.succeeds = true ∧
    if isTarGz archiveURL then download.aborted .extraction = false else validFileName (fileNameOf computer archiveURL) = true

/-- The archive is downloaded, verified and stored. -/
structure Downloads (archiveURL archiveChecksum : Option String) : Prop where
  addressed : ∃ url, archiveURL = some url ∧ validateArchiveURL computer.underTest url = true ∧ url ≠ "" ∧ Stores computer download url
  described : archiveChecksum.getD "" ≠ ""
  verifies : Verifies computer download (archiveChecksum.getD "")

/-- A file that is no archive is not saved at a root. -/
structure Unsaved (extractFolder : Location) (archiveURL : Option String) : Prop where
  root : extractFolder.path = []
  file : ∀ url, archiveURL = some url → isTarGz url = false

/-- Some answers let the download succeed where its file can be saved. -/
def Downloadable (archiveURL archiveChecksum : Option String) : Prop := ∃ download, Downloads computer download archiveURL archiveChecksum

theorem outPath_eq {archiveURL : String} (valid : validFileName (fileNameOf computer archiveURL) = true) (folder : Location) :
    (join computer.win32 folder (fileNameOf computer archiveURL)).location = folder.child (fileNameOf computer archiveURL) := by
  simp only [validFileName, Bool.not_eq_true', Bool.or_eq_false_iff, decide_eq_false_iff_not] at valid
  have plain : ∀ char ∈ (fileNameOf computer archiveURL).toList, isSeparator computer.win32 char = false := basename_plain _ _
  rw [join_plain plain valid.2, if_pos ⟨valid.1.1.2, valid.1.2⟩]

variable {inv : State → Prop} {allowed : Location → Prop} (tolerates : Tolerates inv allowed) {extractFolder : Location} {state : State}
include tolerates

theorem ends_extractArchive (inside : ∀ rest, rest ≠ [] → allowed (extractFolder.below rest)) (kept : inv state) :
    Ends (extractArchive progressCallback download extractFolder)
      (fun _ next => inv next ∧ download.write.succeeds = true ∧ download.aborted .extraction = false)
      (fun _ next => inv next ∧ ¬(download.write.succeeds = true ∧ download.aborted .extraction = false)) state := by
  rw [extractArchive, ends_bind, ends_report, ends_bind, extract]
  apply (tolerates.ends_perform (fun location within => ?_) (tolerates.reported _ _ _ kept)).mono
  · intro _ next ⟨kept, written⟩
    rw [ends_bind, ends_checkAborted, ends_report]
    split
    · next aborted => exact ⟨kept, fun both => by simp [both.2] at aborted⟩
    · next going => exact ⟨tolerates.reported _ _ _ kept, written, Bool.eq_false_iff.mpr going⟩
  · exact fun _ next ⟨kept, failed⟩ => ⟨kept, fun both => by simp [both.1] at failed⟩
  · simp only [Bool.and_eq_true, decide_eq_true_eq] at within
    rw [← below_from within.1.1]
    refine inside _ fun empty => within.1.2 ?_
    rw [← below_from within.1.1, below_eq_iff.mpr empty]

theorem ends_saveFile (rooted : extractFolder.path ≠ []) (inside : ∀ rest, rest ≠ [] → allowed (extractFolder.below rest)) (kept : inv state) (archiveURL : String) (content : Bytes) :
    Ends (saveFile computer progressCallback download archiveURL content extractFolder)
      (fun _ next => inv next ∧ download.write.succeeds = true ∧ validFileName (fileNameOf computer archiveURL) = true)
      (fun _ next => inv next ∧ ¬(download.write.succeeds = true ∧ validFileName (fileNameOf computer archiveURL) = true)) state := by
  unfold saveFile
  rcases Bool.eq_false_or_eq_true (validFileName (fileNameOf computer archiveURL)) with valid | valid
  · simp only [valid, outPath_eq computer valid, under_child, child_ne, Bool.not_true, Bool.false_eq_true, if_false, Ne, not_false_eq_true,
      decide_true, Bool.and_self, rooted, decide_false, Bool.or_self]
    rw [ends_bind, ends_report, ends_bind]
    have within : allowed (extractFolder.child (fileNameOf computer archiveURL)) := inside [_] (List.cons_ne_nil _ _)
    apply (tolerates.ends_writeFileSync within (tolerates.reported _ _ _ kept)).mono
    · intro _ next ⟨kept, written⟩
      exact ends_report.mpr ⟨tolerates.reported _ _ _ kept, written, trivial⟩
    · exact fun _ next ⟨kept, failed⟩ => ⟨kept, fun both => by simp [both.1] at failed⟩
  · simp only [valid, Bool.not_false, if_true, ends_throw]
    exact ⟨kept, fun both => Bool.false_ne_true both.2⟩

theorem ends_single (rooted : extractFolder.path ≠ []) (inside : ∀ rest, rest ≠ [] → allowed (extractFolder.below rest)) (kept : inv state) (archiveURL archiveChecksum : Option String) :
    Ends (downloadAndExtractSingleArchive computer progressCallback download archiveURL archiveChecksum extractFolder)
      (fun _ next => inv next ∧ Downloads computer download archiveURL archiveChecksum)
      (fun _ next => inv next ∧ ¬Downloads computer download archiveURL archiveChecksum) state := by
  cases archiveURL with
  | none =>
    rw [downloadAndExtractSingleArchive, ends_throw]
    refine ⟨kept, fun downloads => ?_⟩
    obtain ⟨url, same, _⟩ := downloads.addressed
    cases same
  | some archiveURL =>
  simp only [downloadAndExtractSingleArchive]
  rw [ends_ite, ends_throw]
  split
  · next invalid =>
    refine ⟨kept, fun downloads => ?_⟩
    obtain ⟨url, same, valid, _⟩ := downloads.addressed
    cases same
    simp [valid] at invalid
  next valid =>
  rw [ends_ite, ends_throw]
  split
  · next incomplete =>
    refine ⟨kept, fun downloads => ?_⟩
    obtain ⟨url, same, _, nonempty, _⟩ := downloads.addressed
    cases same
    simp [nonempty, downloads.described] at incomplete
  next complete =>
  rw [ends_bind]
  apply (ends_fetchArchive computer download (archiveChecksum.getD "") state).mono
  · intro content next ⟨same, verifies⟩
    subst same
    rw [ends_ite]
    have downloads : Stores computer download archiveURL → Downloads computer download (some archiveURL) archiveChecksum := fun stores => by
      simp only [Bool.or_eq_true, decide_eq_true_eq, not_or] at complete
      exact ⟨⟨archiveURL, rfl, by simpa using valid, complete.1, stores⟩, complete.2, verifies⟩
    have stores : Downloads computer download (some archiveURL) archiveChecksum → Stores computer download archiveURL := fun downloads => by
      obtain ⟨url, same, _, _, stores⟩ := downloads.addressed
      cases same
      exact stores
    unfold Stores at downloads stores
    rcases Bool.eq_false_or_eq_true (isTarGz archiveURL) with packed | plain
    · simp only [packed, if_true] at downloads stores ⊢
      apply (ends_extractArchive progressCallback download tolerates inside kept).mono
      · exact fun _ next ⟨kept, stored⟩ => ⟨kept, downloads stored⟩
      · exact fun _ next ⟨kept, failed⟩ => ⟨kept, fun downloaded => failed (stores downloaded)⟩
    · simp only [plain, Bool.false_eq_true, if_false] at downloads stores ⊢
      apply (ends_saveFile computer progressCallback download tolerates rooted inside kept archiveURL content).mono
      · exact fun _ next ⟨kept, stored⟩ => ⟨kept, downloads stored⟩
      · exact fun _ next ⟨kept, failed⟩ => ⟨kept, fun downloaded => failed (stores downloaded)⟩
  · intro _ next ⟨same, failed⟩
    subst same
    exact ⟨kept, fun downloads => failed downloads.verifies⟩

omit tolerates in
theorem ends_single_never {archiveURL archiveChecksum : Option String}
    (never : Downloadable computer archiveURL archiveChecksum → Unsaved extractFolder archiveURL) (kept : inv state) :
    Ends (downloadAndExtractSingleArchive computer progressCallback download archiveURL archiveChecksum extractFolder) (fun _ _ => False)
      (fun _ next => inv next) state := by
  cases archiveURL with
  | none =>
    rw [downloadAndExtractSingleArchive, ends_throw]
    exact kept
  | some archiveURL =>
  simp only [downloadAndExtractSingleArchive]
  rw [ends_ite, ends_throw]
  split
  · exact kept
  next valid =>
  rw [ends_ite, ends_throw]
  split
  · exact kept
  next complete =>
  rw [ends_bind]
  apply (ends_fetchArchive computer download (archiveChecksum.getD "") state).mono
  · intro content next ⟨same, verifies⟩
    subst same
    let willing : Download := { download with aborted := fun _ => false, write := ⟨true, fun _ => true, ""⟩ }
    have stored : Stores computer willing archiveURL → Unsaved extractFolder (some archiveURL) := fun stores => by
      simp only [Bool.or_eq_true, decide_eq_true_eq, not_or] at complete
      exact never ⟨willing, ⟨archiveURL, rfl, by simpa using valid, complete.1, stores⟩, complete.2, verifies.received, fun _ _ => rfl⟩
    rcases Bool.eq_false_or_eq_true (isTarGz archiveURL) with packed | plain
    · have file := (stored ⟨rfl, by rw [if_pos packed]⟩).file archiveURL rfl
      rw [packed] at file
      cases file
    · rw [plain, if_neg Bool.false_ne_true]
      rcases Bool.eq_false_or_eq_true (validFileName (fileNameOf computer archiveURL)) with named | invalid
      · have root := (stored ⟨rfl, by rwa [plain, if_neg Bool.false_ne_true]⟩).root
        simp only [saveFile, named, root, Bool.not_true, Bool.false_eq_true, if_false, decide_true, Bool.true_or, if_true]
        exact ends_throw.mpr kept
      · simp only [saveFile, invalid, Bool.not_false, if_true]
        exact ends_throw.mpr kept
  · intro _ next ⟨same, _⟩
    rwa [same]

end Archives

/-! Extra files. -/

/-- All that moving an output needs succeeds. -/
structure Relocates (moving : Moving) : Prop where
  copied : moving.copy.succeeds = true
  removed : moving.remove.succeeds = true
  occupied : moving.emptied = .ok false

section ExtraFiles
variable (computer : Computer) (progressCallback : Bool)

/-- What is moved for an output is allowed to be. -/
def Settled (allowed : Location → Prop) (binDir : Location) (value : Output) : Prop :=
  moves computer binDir value = true →
    allowed (inputOf computer binDir value).location ∧ allowed (outputOf computer binDir value).location

/-- The download of an extra file does not end the installation. -/
def Passes (extra : ExtraWorld) (file : ExtraFile) : Prop :=
  progressCallback = true ∨ Downloads computer extra.download (some file.url) file.checksum

variable {inv : State → Prop} {allowed : Location → Prop} (tolerates : Tolerates inv allowed) {binDir : Location} {state : State}

theorem ends_moveOutput_idle {moving : Moving} {value : Output} {post : Unit → State → Prop} {fails : String → State → Prop}
    (idle : moves computer binDir value = false) : Ends (moveOutput computer progressCallback binDir moving value) post fails state ↔ post () state := by
  unfold moveOutput
  rw [idle, if_neg Bool.false_ne_true, ends_pure]

include tolerates

theorem ends_moveOutput {moving : Moving} {value : Output} (settled : Settled computer allowed binDir value) (kept : inv state) :
    Ends (moveOutput computer progressCallback binDir moving value) (fun _ next => inv next) (fun _ next => inv next ∧ ¬Relocates moving)
      state := by
  rcases Bool.eq_false_or_eq_true (moves computer binDir value) with something | idle
  swap
  · exact (ends_moveOutput_idle computer progressCallback idle).mpr kept
  obtain ⟨input, output⟩ := settled something
  unfold moveOutput
  rw [something, if_pos rfl, ends_bind]
  apply (tolerates.ends_copyFileSync output kept).mono
  · intro _ next ⟨kept, _⟩
    rw [ends_bind]
    apply (tolerates.ends_rmSync input kept).mono
    · intro _ next ⟨kept, _⟩
      split
      · next failed => exact ends_throw.mpr ⟨kept, fun relocates => by simp [relocates.occupied] at failed⟩
      · next empty => exact ends_throw.mpr ⟨kept, fun relocates => by simp [relocates.occupied] at empty⟩
      · exact ends_report.mpr (tolerates.reported _ _ _ kept)
    · exact fun _ next ⟨kept, failed⟩ => ⟨kept, fun relocates => by simp [relocates.removed] at failed⟩
  · exact fun _ next ⟨kept, failed⟩ => ⟨kept, fun relocates => by simp [relocates.copied] at failed⟩

theorem ends_outputs {moving : Nat → Moving} {outputs : List (Output × Nat)}
    (settled : ∀ output ∈ outputs, Settled computer allowed binDir output.1) (kept : inv state) :
    Ends (forM outputs fun (value, place) => moveOutput computer progressCallback binDir (moving place) value)
      (fun _ next => inv next) (fun _ next => inv next ∧ ¬∀ place, Relocates (moving place)) state := by
  apply ends_forM _ kept
  intro (value, place) member state kept
  apply (ends_moveOutput computer progressCallback tolerates (settled _ member) kept).mono fun _ next kept => kept
  exact fun _ next ⟨kept, failed⟩ => ⟨kept, fun relocates => failed (relocates place)⟩

theorem ends_extraFile {extra : ExtraWorld} {file : ExtraFile} (rooted : binDir.path ≠ []) (inside : ∀ rest, rest ≠ [] → allowed (binDir.below rest))
    (settled : Passes computer progressCallback extra file → ∀ value ∈ file.output, Settled computer allowed binDir value) (kept : inv state) :
    Ends (downloadExtraFile computer progressCallback binDir extra file)
      (fun _ next => inv next ∧ Passes computer progressCallback extra file)
      (fun _ next => inv next ∧ ¬(extra.aborted = false ∧ Passes computer progressCallback extra file ∧ ∀ place, Relocates (extra.moving place)))
      state := by
  have moved : Passes computer progressCallback extra file → ∀ state, inv state → Ends
      (forM file.output.zipIdx fun (value, place) => moveOutput computer progressCallback binDir (extra.moving place) value)
      (fun _ next => inv next ∧ Passes computer progressCallback extra file)
      (fun _ next => inv next ∧ ¬(extra.aborted = false ∧ Passes computer progressCallback extra file ∧ ∀ place, Relocates (extra.moving place)))
      state := by
    intro passes state kept
    apply (ends_outputs computer progressCallback tolerates _ kept).mono
    · exact fun _ next kept => ⟨kept, passes⟩
    · exact fun _ next ⟨kept, failed⟩ => ⟨kept, fun proceeds => failed proceeds.2.2⟩
    · exact fun output member => settled passes output.1 (List.fst_mem_of_mem_zipIdx member)
  unfold downloadExtraFile
  rw [ends_bind, ends_checkAborted]
  split
  · next aborted => exact ⟨kept, fun proceeds => by simp [proceeds.1] at aborted⟩
  rw [ends_bind, ends_report, ends_bind, ends_tryCatch]
  apply (ends_single computer progressCallback extra.download tolerates rooted inside (tolerates.reported _ _ _ kept) (some file.url) file.checksum).mono
  · exact fun _ next ⟨kept, downloads⟩ => moved (.inr downloads) next kept
  · intro message next ⟨kept, failed⟩
    rw [ends_ite, ends_report, ends_throw]
    split
    · next listening => exact moved (.inl listening) _ (tolerates.reported _ _ _ kept)
    · next alone => exact ⟨kept, fun proceeds => proceeds.2.1.elim alone failed⟩

end ExtraFiles

section Packages
variable (computer : Computer) (world : World) (progressCallback : Bool)

/-- What is moved for the files is settled, as far as the loop may come. -/
def Confined (allowed : Location → Prop) (binDir : Location) : List ExtraFile → Prop
  | [] => True
  | file :: rest => progressCallback = true ∨ Downloadable computer (some file.url) file.checksum →
      (∀ value ∈ file.output, Settled computer allowed binDir value) ∧ Confined allowed binDir rest

/-- The version of the app suits the package. -/
def Compatible (pluginInfo : ArtifactHubHeadlampPkg) (headlampVersion : String) : Prop :=
  headlampVersion = "" ∨ computer.satisfies headlampVersion pluginInfo.versionCompat = true

/-- All that a file needs succeeds. -/
structure Proceeds (item : ExtraFile × Nat) : Prop where
  continued : (world.extra item.2).aborted = false
  passes : Passes computer progressCallback (world.extra item.2) item.1
  relocates : ∀ place, Relocates ((world.extra item.2).moving place)

/-- What is true of the answers when a package has been assembled. -/
structure Obtained (pluginInfo : ArtifactHubHeadlampPkg) : Prop where
  main : Downloads computer world.main pluginInfo.archiveURL pluginInfo.archiveChecksum
  extra : ∃ matching, getMatchingExtraFiles computer (pluginInfo.extraFiles.getD []) = some matching ∧
    ∀ item ∈ matching.zipIdx, Passes computer progressCallback (world.extra item.2) item.1
  described : ∃ content, world.packageText = some content ∧ (computer.withMetadata content pluginInfo).isSome = true

/-- All that assembling a package needs succeeds. -/
structure Obliges (pluginInfo : ArtifactHubHeadlampPkg) : Prop where
  obtained : Obtained computer world progressCallback pluginInfo
  makesBin : world.makeBin.succeeds = true
  proceeds : ∀ matching, getMatchingExtraFiles computer (pluginInfo.extraFiles.getD []) = some matching →
    ∀ item ∈ matching.zipIdx, Proceeds computer world progressCallback item
  writes : world.writePackage.succeeds = true

variable {inv : State → Prop} {allowed : Location → Prop} (tolerates : Tolerates inv allowed) {state : State}
include tolerates

theorem ends_files {binDir : Location} (rooted : binDir.path ≠ []) (inside : ∀ rest, rest ≠ [] → allowed (binDir.below rest))
    {files : List ExtraFile} {first : Nat}
    (confined : Confined computer progressCallback allowed binDir files) (kept : inv state) :
    Ends (forM (files.zipIdx first) fun (file, place) => downloadExtraFile computer progressCallback binDir (world.extra place) file)
      (fun _ next => inv next ∧ ∀ item ∈ files.zipIdx first, Passes computer progressCallback (world.extra item.2) item.1)
      (fun _ next => inv next ∧ ¬∀ item ∈ files.zipIdx first, Proceeds computer world progressCallback item) state := by
  induction files generalizing first state with
  | nil => exact ends_pure.mpr ⟨kept, fun item absent => (List.not_mem_nil absent).elim⟩
  | cons file rest ih =>
    rw [List.zipIdx_cons, ends_forM_cons]
    have reached : Passes computer progressCallback (world.extra first) file →
        (∀ value ∈ file.output, Settled computer allowed binDir value) ∧ Confined computer progressCallback allowed binDir rest :=
      fun passes => confined (passes.imp_right fun downloads => ⟨_, downloads⟩)
    apply (ends_extraFile computer progressCallback tolerates rooted inside (fun passes => (reached passes).1) kept).mono
    · intro _ next ⟨kept, passes⟩
      apply (ih (reached passes).2 kept).mono
      · intro _ next ⟨kept, others⟩
        refine ⟨kept, fun item member => ?_⟩
        rcases List.mem_cons.mp member with here | later
        · rwa [here]
        · exact others item later
      · exact fun _ next ⟨kept, failed⟩ => ⟨kept, fun proceeds => failed fun item later => proceeds item (List.mem_cons_of_mem _ later)⟩
    · intro _ next ⟨kept, failed⟩
      refine ⟨kept, fun proceeds => failed ?_⟩
      have here := proceeds (file, first) List.mem_cons_self
      exact ⟨here.continued, here.passes, here.relocates⟩

theorem ends_extraFiles {extraFiles : Option (List ExtraFile)} {folder : Location}
    (made : ∀ location ∈ missing state.disk (folder.child "bin"), allowed location)
    (inside : ∀ rest, rest ≠ [] → allowed ((folder.child "bin").below rest))
    (confined : ∀ matching, getMatchingExtraFiles computer (extraFiles.getD []) = some matching →
      Confined computer progressCallback allowed (folder.child "bin") matching) (kept : inv state) :
    Ends (downloadExtraFiles computer world progressCallback extraFiles folder)
      (fun _ next => inv next ∧ ∃ matching, getMatchingExtraFiles computer (extraFiles.getD []) = some matching ∧
        ∀ item ∈ matching.zipIdx, Passes computer progressCallback (world.extra item.2) item.1)
      (fun _ next => inv next ∧ ¬∃ matching, getMatchingExtraFiles computer (extraFiles.getD []) = some matching ∧
        world.makeBin.succeeds = true ∧ ∀ item ∈ matching.zipIdx, Proceeds computer world progressCallback item) state := by
  have none' : ∀ item ∈ ([] : List ExtraFile).zipIdx, Passes computer progressCallback (world.extra item.2) item.1 :=
    fun item absent => (List.not_mem_nil absent).elim
  unfold downloadExtraFiles
  rw [ends_ite]
  split
  · next empty =>
    rw [empty]
    exact ends_pure.mpr ⟨kept, [], rfl, none'⟩
  split
  · next unreadable =>
    rw [unreadable]
    exact ends_throw.mpr ⟨kept, fun ⟨_, same, _⟩ => by cases same⟩
  · next nothing =>
    rw [nothing]
    exact ends_report.mpr ⟨tolerates.reported _ _ _ kept, [], rfl, none'⟩
  next matching _ matched =>
  rw [matched, ends_bind]
  apply (tolerates.ends_makeIfMissing made kept).mono
  · intro _ next kept
    rw [ends_bind]
    apply (ends_files computer world progressCallback tolerates (child_rooted _ _) inside (confined matching matched) kept).mono
    · exact fun _ next ⟨kept, passes⟩ => ends_report.mpr ⟨tolerates.reported _ _ _ kept, matching, rfl, passes⟩
    · intro _ next ⟨kept, failed⟩
      refine ⟨kept, fun ⟨other, same, _, proceeds⟩ => failed ?_⟩
      cases same
      exact proceeds
  · intro _ next ⟨kept, failed⟩
    exact ⟨kept, fun ⟨_, _, succeeds, _⟩ => by simp [succeeds] at failed⟩

variable (pluginInfo : ArtifactHubHeadlampPkg) (headlampVersion : String)

theorem ends_checkCompatibility (kept : inv state) :
    Ends (checkCompatibility computer progressCallback pluginInfo headlampVersion)
      (fun _ next => (inv next ∧ next.disk = state.disk) ∧ Compatible computer pluginInfo headlampVersion)
      (fun _ next => inv next ∧ ¬Compatible computer pluginInfo headlampVersion) state := by
  unfold checkCompatibility
  rw [ends_ite]
  split
  · next unversioned => exact ends_pure.mpr ⟨⟨kept, rfl⟩, .inl unversioned⟩
  next versioned =>
  rw [ends_bind, ends_report, ends_ite, ends_report, ends_throw]
  have checking := tolerates.reported progressCallback .info "Checking compatibility with Headlamp version" kept
  split
  · next satisfied => exact ⟨⟨tolerates.reported _ _ _ checking, by simp only [reported_disk]⟩, .inr satisfied⟩
  · next refused => exact ⟨checking, fun compatible => compatible.elim versioned refused⟩

theorem ends_makeTempFolder {pluginName : String} (valid : validatePluginName pluginName = true)
    (fresh : ∀ location, computer.tempDir.under location = true → state.disk location = none)
    (within : ∀ location, computer.tempDir.under location = true → allowed location) (kept : inv state) :
    Ends (makeTempFolder computer world pluginName)
      (fun folder next => inv next ∧ (next.disk computer.tempDir).isSome = true ∧
        folder = if Proper pluginName then some (computer.tempDir.child pluginName) else none)
      (fun _ next => inv next ∧ ¬(world.makeTemp.succeeds = true ∧ world.makeTempFolder.succeeds = true)) state := by
  have up : pluginName ≠ ".." := by
    rintro rfl
    exact absurd valid (by decide)
  unfold makeTempFolder
  rw [ends_bind, ends_perform, join_plain (plain_of_valid valid computer.win32) up]
  have made : inv (changed world.makeTemp (fun _ location => location = computer.tempDir) (fun _ _ => some .directory) state) := by
    apply tolerates.changed _ kept
    intro location here
    rw [of_decide_eq_true here]
    exact within _ (under_refl _)
  split
  swap
  · next failed => exact ⟨made, fun both => failed both.1⟩
  next succeeds =>
  generalize there : changed world.makeTemp (fun _ location => location = computer.tempDir) (fun _ _ => some .directory) state = next at made
  have present : next.disk computer.tempDir = some .directory := by
    rw [← there, changed_reached succeeds (decide_eq_true rfl)]
  rw [ends_mkdirSync]
  by_cases proper : Proper pluginName
  · have absent : next.disk (computer.tempDir.child pluginName) = none := by
      rw [← there, changed_unreached (decide_eq_false (child_ne _ _))]
      exact fresh _ (under_child _ _)
    have toMake : missing next.disk (computer.tempDir.child pluginName) = [computer.tempDir.child pluginName] := by
      rw [missing_child, missing_present (by rw [present]; rfl), absent, Option.isNone_none, if_pos rfl, List.nil_append]
    rw [if_pos proper, toMake]
    have both : inv (changed world.makeTempFolder (fun disk location => location ∈ missing disk (computer.tempDir.child pluginName))
        (fun _ _ => some .directory) next) := by
      apply tolerates.changed _ made
      intro location inside
      rw [decide_eq_true_eq, toMake, List.mem_singleton] at inside
      rw [inside]
      exact within _ (under_child _ _)
    split
    · refine ⟨both, ?_, rfl⟩
      rw [changed_unreached, present]
      · rfl
      · rw [toMake]
        simpa using (child_ne _ _).symm
    · next failed => exact ⟨both, fun all => failed all.2⟩
  · rw [if_neg proper]
    have toMake : missing next.disk computer.tempDir = [] := missing_present (by rw [present]; rfl)
    have both : inv (changed world.makeTempFolder (fun disk location => location ∈ missing disk computer.tempDir) (fun _ _ => some .directory) next) := by
      apply tolerates.changed _ made
      intro location inside
      rw [decide_eq_true_eq, toMake] at inside
      cases inside
    split
    · refine ⟨both, ?_, by rw [toMake]; rfl⟩
      rw [changed_unreached, present]
      · rfl
      · rw [toMake]
        rfl
    · next failed => exact ⟨both, fun all => failed all.2⟩

theorem ends_addMetadata (tempFolder : Option Location) (within : allowed (packageJson computer tempFolder)) (kept : inv state) :
    Ends (addMetadata computer world pluginInfo tempFolder)
      (fun _ next => inv next ∧ ∃ content written, world.packageText = some content ∧ computer.withMetadata content pluginInfo = some written ∧
        next.disk (packageJson computer tempFolder) = some (.file written))
      (fun _ next => inv next ∧
        ¬(world.writePackage.succeeds = true ∧ ∃ content, world.packageText = some content ∧ (computer.withMetadata content pluginInfo).isSome = true))
      state := by
  unfold addMetadata
  split
  · next lost => exact ends_throw.mpr ⟨kept, fun ⟨_, _, same, _⟩ => by simp [lost] at same⟩
  next content read =>
  split
  · next broken =>
    refine ends_throw.mpr ⟨kept, fun ⟨_, other, same, described⟩ => ?_⟩
    rw [read, Option.some.injEq] at same
    simp [← same, broken] at described
  next written described =>
  rw [writeFileSync, ends_perform]
  have done' : inv (changed world.writePackage (fun _ location => location = packageJson computer tempFolder) (fun _ _ => some (.file written)) state) := by
    apply tolerates.changed _ kept
    intro location here
    rwa [of_decide_eq_true here]
  split
  · next succeeds =>
    refine ⟨done', content, written, read, described, ?_⟩
    rw [changed_reached succeeds (decide_eq_true rfl)]
  · next failed => exact ⟨done', fun all => failed all.1⟩

theorem ends_assemble (within : ∀ location, computer.tempDir.under location = true → allowed location)
    (confined : Downloadable computer pluginInfo.archiveURL pluginInfo.archiveChecksum →
      ∀ matching, getMatchingExtraFiles computer (pluginInfo.extraFiles.getD []) = some matching →
      Confined computer progressCallback allowed ((computer.tempDir.child pluginInfo.name).child "bin") matching)
    (there : (state.disk computer.tempDir).isSome = true) (kept : inv state) :
    Ends (assemble computer world progressCallback pluginInfo (some (computer.tempDir.child pluginInfo.name)))
      (fun result next => result = (pluginInfo.name, some (computer.tempDir.child pluginInfo.name)) ∧
        Obtained computer world progressCallback pluginInfo ∧
        ∃ before, inv before ∧ next = { before with assembled := some (held before.disk (computer.tempDir.child pluginInfo.name)) } ∧
          ∃ content written, computer.withMetadata content pluginInfo = some written ∧
            before.disk ((computer.tempDir.child pluginInfo.name).child "package.json") = some (.file written))
      (fun _ next => inv next ∧ ¬Obliges computer world progressCallback pluginInfo) state := by
  have under : ∀ rest, computer.tempDir.under ((computer.tempDir.child pluginInfo.name).below rest) = true :=
    fun rest => under_trans (under_child _ _) (under_below _ _)
  unfold assemble
  rw [ends_bind, ends_report, ends_bind, Option.getD_some]
  -- the main archive leaves the temporary folder in place
  have standing := tolerates.and (tolerates_at computer.tempDir fun entry => entry.isSome = true)
  have apart : ∀ rest, rest ≠ [] → allowed ((computer.tempDir.child pluginInfo.name).below rest) ∧
      (computer.tempDir.child pluginInfo.name).below rest ≠ computer.tempDir := by
    intro rest _
    refine ⟨within _ (under rest), ?_⟩
    rw [child_eq_below, below_below, Ne, below_eq_iff]
    exact List.cons_ne_nil _ _
  apply (ends_single computer progressCallback world.main standing (child_rooted _ _) apart (standing.reported _ _ _ ⟨kept, there⟩)
    pluginInfo.archiveURL pluginInfo.archiveChecksum).mono
  swap
  · exact fun _ next ⟨kept, failed⟩ => ⟨kept.1, fun obliges => failed obliges.obtained.main⟩
  intro _ extracted ⟨⟨kept, there⟩, downloads⟩
  rw [ends_bind]
  have made : ∀ location ∈ missing extracted.disk ((computer.tempDir.child pluginInfo.name).child "bin"), allowed location :=
    fun location inside => within _ (under_of_missing there [pluginInfo.name, "bin"] (by
      rwa [child_eq_below, child_eq_below, below_below] at inside))
  have bin : ∀ rest, rest ≠ [] → allowed (((computer.tempDir.child pluginInfo.name).child "bin").below rest) := by
    intro rest _
    rw [child_eq_below (computer.tempDir.child _), below_below]
    exact within _ (under _)
  apply (ends_extraFiles computer world progressCallback tolerates made bin (confined ⟨_, downloads⟩) kept).mono
  swap
  · intro _ next ⟨kept, failed⟩
    refine ⟨kept, fun obliges => failed ?_⟩
    obtain ⟨matching, matched, _⟩ := obliges.obtained.extra
    exact ⟨matching, matched, obliges.makesBin, obliges.proceeds matching matched⟩
  intro _ completed ⟨kept, extra⟩
  rw [ends_bind]
  apply (ends_addMetadata computer world tolerates pluginInfo (some _) (within _ (under ["package.json"])) kept).mono
  swap
  · intro _ next ⟨kept, failed⟩
    exact ⟨kept, fun obliges => failed ⟨obliges.writes, obliges.obtained.described⟩⟩
  intro _ before ⟨kept, content, written, read, described, at'⟩
  rw [ends_bind, ends_modify, ends_pure]
  exact ⟨rfl, ⟨downloads, extra, content, read, by rw [described]; rfl⟩, before, kept, rfl, content, written, described, at'⟩

theorem ends_assemble_never (tempFolder : Option Location)
    (never : Downloadable computer pluginInfo.archiveURL pluginInfo.archiveChecksum → Unsaved (tempFolder.getD computer.cwd) pluginInfo.archiveURL)
    (kept : inv state) :
    Ends (assemble computer world progressCallback pluginInfo tempFolder) (fun _ _ => False) (fun _ next => inv next) state := by
  unfold assemble
  rw [ends_bind, ends_report, ends_bind]
  apply (ends_single_never computer progressCallback world.main never (tolerates.reported _ _ _ kept)).mono
  · exact fun _ _ impossible => impossible.elim
  · exact fun _ _ kept => kept

/-- A package is looked at before its folder is made. -/
structure Accepts : Prop where
  valid : validatePluginName pluginInfo.name = true
  compatible : Compatible computer pluginInfo headlampVersion

theorem ends_downloadExtractArchive {post : String × Option Location → State → Prop} {fails : String → State → Prop}
    (fresh : ∀ location, computer.tempDir.under location = true → state.disk location = none)
    (within : ∀ location, computer.tempDir.under location = true → allowed location) (kept : inv state)
    (refused : ∀ message next, inv next → ¬(Accepts computer pluginInfo headlampVersion ∧ world.aborted = (false, false) ∧
      world.makeTemp.succeeds = true ∧ world.makeTempFolder.succeeds = true) → fails message next)
    (begun : ∀ next, inv next → Accepts computer pluginInfo headlampVersion → (next.disk computer.tempDir).isSome = true →
      Ends (assemble computer world progressCallback pluginInfo
        (if Proper pluginInfo.name then some (computer.tempDir.child pluginInfo.name) else none)) post fails next) :
    Ends (downloadExtractArchive computer world progressCallback pluginInfo headlampVersion) post fails state := by
  unfold downloadExtractArchive
  rw [ends_bind, ends_checkAborted]
  split
  · next aborted => exact refused _ _ kept fun all => by simp [all.2.1] at aborted
  rw [ends_ite, ends_throw]
  split
  · next invalid => exact refused _ _ kept fun all => by simp [all.1.valid] at invalid
  next valid =>
  rw [Bool.not_eq_true', Bool.not_eq_false] at valid
  rw [ends_bind]
  apply (ends_checkCompatibility computer progressCallback tolerates pluginInfo headlampVersion kept).mono
  swap
  · exact fun message next ⟨kept, incompatible⟩ => refused message next kept fun all => incompatible all.1.compatible
  intro _ checked ⟨⟨kept, same⟩, compatible⟩
  rw [ends_bind, ends_checkAborted]
  split
  · next aborted => exact refused _ _ kept fun all => by simp [all.2.1] at aborted
  rw [ends_bind]
  apply (ends_makeTempFolder computer world tolerates valid (by rwa [same]) within kept).mono
  · intro tempFolder made ⟨kept, there, folder⟩
    rw [folder]
    exact begun made kept ⟨valid, compatible⟩ there
  · exact fun message next ⟨kept, failed⟩ => refused message next kept fun all => failed all.2.2

theorem ends_reporting {program : Action Unit} (runs : Ends program (fun _ => inv) (fun _ => inv) state) :
    Ends (reporting progressCallback program) (fun _ => inv) (fun _ => inv) state := by
  unfold reporting
  rw [ends_tryCatch]
  apply runs.mono fun _ _ kept => kept
  intro message next kept
  rw [ends_ite, ends_report, ends_throw]
  split
  · exact tolerates.reported _ _ _ kept
  · exact kept

variable {URL : String} {answer : Answer}

theorem ends_fetchInfo (fetched : fetchPluginInfo computer.underTest URL answer = .ok pluginInfo) (kept : inv state) :
    Ends (fetchInfo computer progressCallback URL answer) (fun result next => result = pluginInfo ∧ inv next ∧ next.disk = state.disk)
      (fun _ _ => False) state := by
  unfold fetchInfo
  simp only [fetched]
  rw [ends_bind, ends_report]
  have first := tolerates.reported progressCallback .info "Fetching Plugin Metadata" kept
  split
  · rw [ends_bind, ends_report, ends_pure]
    exact ⟨rfl, tolerates.reported _ _ _ first, by simp only [reported_disk]⟩
  · rw [ends_pure]
    exact ⟨rfl, first, by simp only [reported_disk]⟩

theorem ends_fetchInfo_fails {message : String} (failed : fetchPluginInfo computer.underTest URL answer = .error message) (kept : inv state) :
    Ends (fetchInfo computer progressCallback URL answer) (fun _ _ => False) (fun _ next => inv next) state := by
  unfold fetchInfo
  simp only [failed]
  rw [ends_bind, ends_report, ends_throw]
  exact tolerates.reported _ _ _ kept

theorem ends_install {destinationFolder : Location} {post : Unit → State → Prop} {fails : String → State → Prop}
    (fetched : fetchPluginInfo computer.underTest URL answer = .ok pluginInfo) (kept : inv state)
    (installs : ∀ next, inv next → next.disk = state.disk →
      Ends (installFromPluginPkg computer world progressCallback pluginInfo destinationFolder headlampVersion) post fails next) :
    Ends (install computer world progressCallback URL answer destinationFolder headlampVersion) post fails state := by
  unfold install
  rw [ends_bind, ends_tryCatch, ends_map]
  apply (ends_fetchInfo computer progressCallback tolerates pluginInfo fetched kept).mono
  · intro result next ⟨same, kept, unchanged⟩
    rw [same]
    exact installs next kept unchanged
  · exact fun _ _ impossible => impossible.elim

end Packages

end K8Sense.Plugins.Footprint
