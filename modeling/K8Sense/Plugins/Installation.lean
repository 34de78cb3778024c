import K8Sense.Library.Action
import K8Sense.Plugins.Places

/-! Installing and updating plugins in the desktop app. Whatever the system may answer to a call
is in a world: whether the call succeeds, what it has reached when it does not, what is
downloaded and what an archive contains. -/

namespace K8Sense.Plugins.Installation
open Packages Paths Places

/-! The system. -/

structure Response where
  ok : Bool
  status : Nat
  body : Option (Except String Bytes)

/-- How a call of the file system ends. One that fails may have reached some of the places it is about. -/
structure Outcome where
  succeeds : Bool
  reached : Location → Bool
  message : String

/-- Where the signal is looked at while an archive is downloaded. -/
inductive Check where
  | request
  | response
  | checksum
  | extraction
deriving DecidableEq

/-- The answers on the way of one archive. -/
structure Download where
  aborted : Check → Bool
  response : Option Response
  /-- What is extracted, below the folder it is extracted to. -/
  unpacked : Path → Option Entry
  /-- Of the extraction or of the file that is saved. -/
  write : Outcome

/-- The answers when an extra file is moved. -/
structure Moving where
  copy : Outcome
  remove : Outcome
  /-- Whether the folder of the input is empty. -/
  emptied : Except String Bool

structure ExtraWorld where
  aborted : Bool
  download : Download
  moving : Nat → Moving

structure World where
  /-- On entering, and before the temporary folder is made. -/
  aborted : Bool × Bool
  makeTemp : Outcome
  makeTempFolder : Outcome
  main : Download
  makeBin : Outcome
  /-- By the place of a file among those that match. -/
  extra : Nat → ExtraWorld
  /-- The `package.json` of the temporary folder, which comes from an archive. -/
  packageText : Option Bytes
  writePackage : Outcome
  makeDestination : Outcome
  removeOld : Outcome
  makeFolder : Outcome
  copy : Outcome
  cleanUp : Outcome

/-- The computer, and what the packages of others do. -/
structure Computer where
  win32 : Bool
  /-- Such as `linux/x64`. -/
  currentArchString : String
  cwd : Location
  /-- The folder that `mkdtemp` makes. -/
  tempDir : Location
  underTest : Bool
  sha256 : Bytes → String
  satisfies : String → Option String → Bool
  lte : String → String → Bool
  /-- The text of a `package.json` with the data of the package, if it is one. -/
  withMetadata : Bytes → ArtifactHubHeadlampPkg → Option Bytes
  artifacthubVersion : Bytes → Option String
  version_written : ∀ {content pkg written}, withMetadata content pkg = some written → artifacthubVersion written = some pkg.version
  lte_refl : ∀ version, lte version version = true

inductive ProgressType where
  | info
  | success
  | error
deriving DecidableEq

structure Progress where
  type : ProgressType
  message : String
deriving DecidableEq

structure State where
  disk : Disk
  /-- The places that have been created, overwritten or deleted. -/
  touched : Location → Bool
  /-- The last progress. -/
  progress : Option Progress
  /-- The new version, once it is complete. -/
  assembled : Option Contents

def start (disk : Disk) : State := ⟨disk, fun _ => false, none, none⟩

abbrev Action := EStateM String State

/-- Change the places of a region, all of them if the call succeeds. -/
def perform (outcome : Outcome) (region : Disk → Location → Bool) (content : Disk → Location → Option Entry) : Action Unit := do
  modify fun state =>
    let done := fun location => region state.disk location && (outcome.succeeds || outcome.reached location)
    { state with
      disk := fun location => if done location then content state.disk location else state.disk location
      touched := fun location => state.touched location || done location }
  if outcome.succeeds then pure () else throw outcome.message

/-- With `recursive`. The first of the folders made is returned. -/
def mkdirSync (outcome : Outcome) (target : Location) : Action (Option Location) := do
  let state ← get
  perform outcome (fun disk location => location ∈ missing disk target) fun _ _ => some .directory
  return (missing state.disk target).head?

def makeIfMissing (outcome : Outcome) (folder : Location) : Action Unit := do
  let state ← get
  if (state.disk folder).isNone then do
    let _ ← mkdirSync outcome folder

def writeFileSync (outcome : Outcome) (path : Location) (content : Bytes) : Action Unit :=
  perform outcome (fun _ location => location = path) fun _ _ => some (.file content)

/-- Of an input that is not on the disk something unknown is copied, for which an empty file stands. -/
def copyFileSync (outcome : Outcome) (input output : Location) : Action Unit :=
  perform outcome (fun _ location => location = output) fun disk _ => some ((disk input).getD (.file []))

def rmSync (outcome : Outcome) (path : Location) : Action Unit := perform outcome (fun _ location => location = path) fun _ _ => none

def rmSyncRecursive (outcome : Outcome) (path : Location) : Action Unit := perform outcome (fun _ location => path.under location) fun _ _ => none

def cpSync (outcome : Outcome) (source target : Location) : Action Unit :=
  perform outcome (fun disk location => target.under location && (disk (source.below (target.from location))).isSome)
    fun disk location => disk (source.below (target.from location))

section Programs
variable (computer : Computer) (world : World) (progressCallback : Bool)

def report (type : ProgressType) (message : String) : Action Unit :=
  modify fun state => if progressCallback then { state with progress := some ⟨type, message⟩ } else state

def checkAborted (aborted : Bool) : Action Unit := if aborted then throw "Download cancelled" else pure ()

section Archives
variable (download : Download)

def extract (folder : Location) : Action Unit :=
  perform download.write (fun _ location => folder.under location && location ≠ folder && (download.unpacked (folder.from location)).isSome)
    fun _ location => download.unpacked (folder.from location)

/-- Up to the comparison of the checksums. -/
def fetchArchive (archiveChecksum : String) : Action Bytes := do
  checkAborted (download.aborted .request)
  match download.response with
  | none => throw "Failed to fetch archive. Please check the URL and your network connection."
  | some response =>
    if !response.ok then throw ("Failed to download file. Status code: " ++ toString response.status)
    else do
      checkAborted (download.aborted .response)
      match response.body with
      | none => throw "Download empty"
      | some (.error message) => throw message
      | some (.ok content) =>
        if computer.sha256 content ≠ bareChecksum archiveChecksum then throw "Checksum mismatch."
        else do
          checkAborted (download.aborted .checksum)
          return content

def extractArchive (extractFolder : Location) : Action Unit := do
  report progressCallback .info "Extracting plugin"
  extract download extractFolder
  checkAborted (download.aborted .extraction)
  report progressCallback .info "Plugin extracted"

def fileNameOf (archiveURL : String) : String :=
  basename computer.win32 (String.ofList (archiveURL.toList.takeWhile (· ≠ '?')))

def validFileName (fileName : String) : Bool :=
  !(includes fileName ".." || startsWith fileName "/" || startsWith fileName "\\" || fileName = "" || fileName = "." || fileName = "..")

def saveFile (archiveURL : String) (content : Bytes) (extractFolder : Location) : Action Unit :=
  let fileName := fileNameOf computer archiveURL
  let outPath := (join computer.win32 extractFolder fileName).location
  if !validFileName fileName then throw "Invalid file name in archive URL"
  -- the path of a root ends with a separator already, and no path goes on with two
  else if extractFolder.path = [] || !(extractFolder.under outPath && outPath ≠ extractFolder) then
    throw "Attempted path traversal in file name"
  else do
    report progressCallback .info ("Saving file to " ++ outPath.text computer.win32)
    writeFileSync download.write outPath content
    report progressCallback .info "File downloaded"

def downloadAndExtractSingleArchive (archiveURL archiveChecksum : Option String) (extractFolder : Location) : Action Unit :=
  match archiveURL, archiveChecksum with
  | none, _ => throw typeError
  | some archiveURL, archiveChecksum =>
    if !validateArchiveURL computer.underTest archiveURL then throw ("Invalid plugin/archive-url:" ++ archiveURL)
    else if archiveURL = "" || archiveChecksum.getD "" = "" then throw "Invalid plugin metadata. Please check the plugin details."
    else do
      let content ← fetchArchive computer download (archiveChecksum.getD "")
      if isTarGz archiveURL then extractArchive progressCallback download extractFolder
      else saveFile computer progressCallback download archiveURL content extractFolder

end Archives

def toLowerCase (text : String) : String := String.ofList (text.toList.map Char.toLower)

/-- There is none when a file has no `arch`. -/
def getMatchingExtraFiles (extraFiles : List ExtraFile) : Option (List ExtraFile) :=
  if extraFiles.all (·.arch.isSome) then
    some (extraFiles.filter fun file => toLowerCase (file.arch.getD "") = toLowerCase computer.currentArchString)
  else none

def inputOf (binDir : Location) (value : Output) : Joined := join computer.win32 binDir value.input

def outputOf (binDir : Location) (value : Output) : Joined :=
  let outputFile := join computer.win32 binDir value.output
  if computer.win32 && !endsWith value.output ".js" then outputFile.withExe else outputFile

def moves (binDir : Location) (value : Output) : Bool :=
  value.output ≠ "" && value.input ≠ "" && value.input ≠ value.output && inputOf computer binDir value ≠ outputOf computer binDir value

def moveOutput (binDir : Location) (moving : Moving) (value : Output) : Action Unit :=
  if moves computer binDir value then do
    let inputFile := (inputOf computer binDir value).location
    let outputFile := (outputOf computer binDir value).location
    copyFileSync moving.copy inputFile outputFile
    rmSync moving.remove inputFile
    match moving.emptied with
    | .error message => throw message
    -- a folder cannot be removed without `recursive`
    | .ok true => throw "ERR_FS_EISDIR"
    | .ok false => report progressCallback .info ("Moved platform-specific file to " ++ outputFile.text computer.win32)
  else pure ()

def downloadExtraFile (binDir : Location) (extra : ExtraWorld) (file : ExtraFile) : Action Unit := do
  checkAborted extra.aborted
  report progressCallback .info
    ("Downloading platform-specific file for " ++ file.arch.getD "" ++ ": " ++ basename computer.win32 file.url)
  tryCatch (downloadAndExtractSingleArchive computer progressCallback extra.download (some file.url) file.checksum binDir) fun message =>
    if progressCallback then report progressCallback .error ("Failed to download extra file " ++ file.url ++ ": " ++ message)
    else throw message
  forM file.output.zipIdx fun (value, place) => moveOutput computer progressCallback binDir (extra.moving place) value

def downloadExtraFiles (extraFiles : Option (List ExtraFile)) (extractFolder : Location) : Action Unit :=
  if extraFiles.getD [] = [] then pure ()
  else
    match getMatchingExtraFiles computer (extraFiles.getD []) with
    | none => throw typeError
    | some [] => report progressCallback .info ("No extra files found for platform " ++ computer.currentArchString)
    | some matchingExtraFiles => do
      let binDir := extractFolder.child "bin"
      makeIfMissing world.makeBin binDir
      forM matchingExtraFiles.zipIdx fun (file, place) => downloadExtraFile computer progressCallback binDir (world.extra place) file
      report progressCallback .info
        ("Downloaded " ++ toString matchingExtraFiles.length ++ " extra files for " ++ computer.currentArchString)

/-- Where `${tempFolder}/package.json` is. -/
def packageJson (tempFolder : Option Location) : Location :=
  match tempFolder with
  | some folder => folder.child "package.json"
  | none => ⟨computer.cwd.root, ["package.json"]⟩

def addMetadata (pluginInfo : ArtifactHubHeadlampPkg) (tempFolder : Option Location) : Action Unit :=
  match world.packageText with
  | none => throw "ENOENT"
  | some content =>
    match computer.withMetadata content pluginInfo with
    | none => throw "SyntaxError"
    | some packageJSON => writeFileSync world.writePackage (packageJson computer tempFolder) packageJSON

def checkCompatibility (pluginInfo : ArtifactHubHeadlampPkg) (headlampVersion : String) : Action Unit :=
  if headlampVersion = "" then pure ()
  else do
    report progressCallback .info "Checking compatibility with Headlamp version"
    if computer.satisfies headlampVersion pluginInfo.versionCompat then report progressCallback .info "Headlamp version is compatible"
    else throw "Headlamp version is not compatible with the plugin"

def makeTempFolder (pluginName : String) : Action (Option Location) := do
  perform world.makeTemp (fun _ location => location = computer.tempDir) fun _ _ => some .directory
  mkdirSync world.makeTempFolder (join computer.win32 computer.tempDir pluginName).location

/-- What `downloadExtractArchive` does in the temporary folder. -/
def assemble (pluginInfo : ArtifactHubHeadlampPkg) (tempFolder : Option Location) : Action (String × Option Location) := do
  report progressCallback .info "Downloading main plugin archive"
  downloadAndExtractSingleArchive computer progressCallback world.main pluginInfo.archiveURL pluginInfo.archiveChecksum
    (tempFolder.getD computer.cwd)
  downloadExtraFiles computer world progressCallback pluginInfo.extraFiles (tempFolder.getD computer.cwd)
  addMetadata computer world pluginInfo tempFolder
  modify fun state => { state with assembled := tempFolder.map (held state.disk) }
  return (pluginInfo.name, tempFolder)

/-- The name and the temporary folder, which is an empty path when the folder for the plugin had not to be made. -/
def downloadExtractArchive (pluginInfo : ArtifactHubHeadlampPkg) (headlampVersion : String) : Action (String × Option Location) := do
  checkAborted world.aborted.1
  if !validatePluginName pluginInfo.name then throw "Invalid plugin name"
  else do
    checkCompatibility computer progressCallback pluginInfo headlampVersion
    checkAborted world.aborted.2
    let tempFolder ← makeTempFolder computer world pluginInfo.name
    assemble computer world progressCallback pluginInfo tempFolder

/-- An empty path cannot be copied. -/
def moveDirs (currentPath : Option Location) (newPath : Location) : Action Unit :=
  match currentPath with
  | none => throw "ENOENT"
  | some currentPath => do
    cpSync world.copy currentPath newPath
    rmSyncRecursive world.cleanUp currentPath

/-- The last part of a call, which reports the error or throws it again. -/
def reporting (program : Action Unit) : Action Unit :=
  tryCatch program fun message => if progressCallback then report progressCallback .error message else throw message

def pluginFolder (destinationFolder : Location) (name : String) : Location :=
  (join computer.win32 destinationFolder (basename computer.win32 name)).location

def installFromPluginPkg (pluginData : ArtifactHubHeadlampPkg) (destinationFolder : Location) (headlampVersion : String) : Action Unit :=
  reporting progressCallback do
    let (name, tempFolder) ← downloadExtractArchive computer world progressCallback pluginData headlampVersion
    makeIfMissing world.makeDestination destinationFolder
    moveDirs world tempFolder (pluginFolder computer destinationFolder name)
    report progressCallback .success "Plugin Installed"

def fetchInfo (URL : String) (answer : Answer) : Action ArtifactHubHeadlampPkg :=
  match fetchPluginInfo computer.underTest URL answer with
  | .ok pkg => do
    report progressCallback .info "Fetching Plugin Metadata"
    match pkg.extraFiles with
    | some extraFiles => report progressCallback .info ("Found " ++ toString extraFiles.length ++ " platform-specific extra files")
    | none => pure ()
    return pkg
  | .error message => do
    report progressCallback .error message
    throw message

/-- From the address in the catalog. -/
def install (URL : String) (answer : Answer) (destinationFolder : Location) (headlampVersion : String) : Action Unit := do
  let pluginInfo ← tryCatch (some <$> fetchInfo computer progressCallback URL answer) fun message =>
    if progressCallback then do
      report progressCallback .error message
      return none
    else throw message
  match pluginInfo with
  | some pluginInfo => installFromPluginPkg computer world progressCallback pluginInfo destinationFolder headlampVersion
  | none => pure ()

/-- An entry of the list of installed plugins. -/
structure PluginData where
  pluginName : String
  folderName : String
  artifacthubURL : String

/-- What `update` does before it changes the folder of the plugin, which it finds out. -/
def prepareUpdate (pluginName : String) (installedPlugins : Option (List PluginData)) (answer : Answer) (destinationFolder : Location)
    (headlampVersion : String) : Action (Option Location × Location) :=
  match installedPlugins with
  | none => throw "InstalledPlugins not found"
  | some installedPlugins =>
    match installedPlugins.find? fun plugin => plugin.pluginName = pluginName with
    | none => throw "Plugin not found"
    | some plugin => do
      let pluginDir := (join computer.win32 destinationFolder plugin.folderName).location
      let state ← get
      match state.disk (pluginDir.child "package.json") with
      | some (.file content) => do
        let pluginData ← fetchInfo computer progressCallback plugin.artifacthubURL answer
        match computer.artifacthubVersion content with
        | none => throw typeError
        | some currentVersion =>
          if computer.lte pluginData.version currentVersion then throw "No updates available"
          else do
            let (_, tempFolder) ← downloadExtractArchive computer world progressCallback pluginData headlampVersion
            return (tempFolder, pluginDir)
      | _ => throw "ENOENT"

def removeAndMove (tempFolder : Option Location) (pluginDir : Location) : Action Unit := do
  rmSyncRecursive world.removeOld pluginDir
  let _ ← mkdirSync world.makeFolder pluginDir
  moveDirs world tempFolder pluginDir

def update (pluginName : String) (installedPlugins : Option (List PluginData)) (answer : Answer) (destinationFolder : Location)
    (headlampVersion : String) : Action Unit :=
  reporting progressCallback do
    let (tempFolder, pluginDir) ← prepareUpdate computer world progressCallback pluginName installedPlugins answer destinationFolder headlampVersion
    makeIfMissing world.makeDestination destinationFolder
    removeAndMove world tempFolder pluginDir
    report progressCallback .success "Plugin Updated"

end Programs

end K8Sense.Plugins.Installation
