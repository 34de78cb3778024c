import K8Sense.Library.Keyed
import K8Sense.Library.Text
import Mathlib.Data.List.Sort

/-! The packages of plugins as the desktop app reads them from the catalog, with their extra
files, and the tests that names and addresses have to pass. -/

namespace K8Sense.Plugins.Packages
open Text

def startsWith (text start : String) : Bool := start.toList.isPrefixOf text.toList

def endsWith (text rest : String) : Bool := rest.toList.isSuffixOf text.toList

def includes (text part : String) : Bool := contains text.toList part.toList

/-! Annotations as a tree. -/

/-- A value with the fields of an object, in the order of their insertion. -/
inductive Tree where
  | text (value : String)
  | node (fields : List (String × Tree))

abbrev Fields := List (String × Tree)

/-- A field cannot be set on a text, except that an empty one gives way to an object. -/
def assign (value : String) : List String → Fields → Except String Fields
  | [], fields => .ok fields
  | [part], fields => .ok (Keyed.upsert part (.text value) (fun _ => .text value) fields)
  | part :: rest, fields =>
    let current : Except String Fields :=
      match Keyed.lookup part fields with
      | some (.node inner) => .ok inner
      | some (.text old) => if old = "" then .ok [] else .error ("Cannot create property '" ++ rest.headD "" ++ "' on string '" ++ old ++ "'")
      | none => .ok []
    current.bind fun inner => (assign value rest inner).map fun inner => Keyed.upsert part (.node inner) (fun _ => .node inner) fields

def convertAnnotations (annotations : List (String × String)) : Except String Fields :=
  annotations.foldlM (fun result annotation => assign annotation.2 (split '/' annotation.1) result) []

def Tree.field (name : String) : Tree → Option Tree
  | .text _ => none
  | .node fields => Keyed.lookup name fields

def Tree.asText : Tree → Option String
  | .text value => some value
  | .node _ => none

/-- The number of a key that counts as an index of an array. -/
def arrayIndex (key : String) : Option Nat :=
  let index := key.toList.foldl (fun value digit => value * 10 + (digit.toNat - 48)) 0
  if key ≠ "" ∧ key.toList.all Char.isDigit ∧ (key = "0" ∨ key.toList.head? ≠ some '0') ∧ index < 4294967295 then some index else none

/-- `Object.values`, where indices come first, in their order. -/
def values (fields : Fields) : List Tree :=
  let isIndex := fun field : String × Tree => (arrayIndex field.1).isSome
  let indices := (fields.filter isIndex).insertionSort fun first second => (arrayIndex first.1).getD 0 ≤ (arrayIndex second.1).getD 0
  (indices ++ fields.filter (!isIndex ·)).map (·.2)

/-! Extra files. -/

structure Output where
  output : String
  input : String
deriving DecidableEq

structure ExtraFile where
  url : String
  checksum : Option String
  arch : Option String
  output : List Output
deriving DecidableEq

def typeError : String := "TypeError"

/-- A path that starts in a dangerous way. -/
def badStart (path : String) : Bool := startsWith path ".." || startsWith path "/" || startsWith path "\\"

def checkOutput (value : Tree) : Except String Output := do
  let output ← ((value.field "output").bind Tree.asText).elim (.error typeError) .ok
  if badStart output then .error ("Invalid extra file output path, " ++ output)
  let input ← ((value.field "input").bind Tree.asText).elim (.error typeError) .ok
  if badStart input then .error ("Invalid extra file input path, " ++ input)
  return ⟨output, input⟩

/-- Of a text the values are its characters. -/
def checkOutputs (file : Tree) : Except String (List Output) :=
  match file.field "output" with
  | some (.node outputs) => (values outputs).mapM checkOutput
  | some (.text text) => if text = "" then .ok [] else .error typeError
  | none => .error typeError

def checkURL (underTest : Bool) (file : Tree) : Except String String :=
  match file.field "url" with
  | some (.text url) =>
    if underTest && includes url "localhost" ||
      (startsWith url "https://github.com/kubernetes/minikube/releases/download/" ||
        startsWith url "https://github.com/crc-org/vfkit/releases/download/") then .ok url
    else .error ("Invalid URL, " ++ url)
  | some (.node _) => .error typeError
  | none => .error "Invalid URL, undefined"

def readFile (file : Tree) (url : String) (output : List Output) : ExtraFile where
  url := url
  checksum := (file.field "checksum").bind Tree.asText
  arch := (file.field "arch").bind Tree.asText
  output := output

/-- All outputs are checked before the first address is. -/
def getExtraFiles (underTest : Bool) (annotations : List (String × String)) : Except String (Option (List ExtraFile)) := do
  let converted ← convertAnnotations annotations
  match ((Tree.node converted).field "headlamp").bind fun headlamp => (headlamp.field "plugin").bind (Tree.field "extra-files") with
  | none => return none
  | some (.text text) => if text = "" then return none else .error typeError
  | some (.node extraFiles) =>
    let outputs ← (values extraFiles).mapM checkOutputs
    let urls ← (values extraFiles).mapM (checkURL underTest)
    return some ((((values extraFiles).zip urls).zip outputs).map fun ((file, url), output) => readFile file url output)

/-! The package. -/

structure Repository where
  name : String
  userAlias : String
deriving DecidableEq

/-- The answer of the catalog. No part of a key of the annotations is a name that every
object inherits a member under. -/
structure PkgResponse where
  name : String
  displayName : String
  version : String
  repository : Repository
  data : List (String × String)
  plain : ∀ annotation ∈ data, ∀ part ∈ split '/' annotation.1, part ∉ Keyed.inherited

structure ArtifactHubHeadlampPkg where
  name : String
  displayName : String
  repository : Repository
  version : String
  archiveURL : Option String
  archiveChecksum : Option String
  versionCompat : Option String
  extraFiles : Option (List ExtraFile)
deriving DecidableEq

/-- What comes of the request for the package. -/
inductive Answer where
  | failed (message : String)
  | status (code : Nat)
  | json (pkgResponse : PkgResponse)

def fetchPluginInfo (underTest : Bool) (URL : String) (answer : Answer) : Except String ArtifactHubHeadlampPkg :=
  if !startsWith URL "https://artifacthub.io/packages/headlamp/" then
    .error "Invalid URL. Please provide a valid URL from ArtifactHub."
  else
    match answer with
    | .failed message => .error message
    | .status code => .error ("HTTP error! status: " ++ toString code)
    | .json pkgResponse => do
      let extraFiles ← getExtraFiles underTest pkgResponse.data
      return {
        name := pkgResponse.name
        displayName := pkgResponse.displayName
        repository := pkgResponse.repository
        version := pkgResponse.version
        archiveURL := Keyed.lookup "headlamp/plugin/archive-url" pkgResponse.data
        archiveChecksum := Keyed.lookup "headlamp/plugin/archive-checksum" pkgResponse.data
        versionCompat := Keyed.lookup "headlamp/plugin/version-compat" pkgResponse.data
        extraFiles := extraFiles }

/-! Tests of names and addresses. -/

def validatePluginName (pluginName : String) : Bool := !includes pluginName "/" && !includes pluginName "\\" && !includes pluginName ".."

/-- The text has no line terminator. -/
def oneLine (text : String) : Bool :=
  text.toList.all fun char => char ≠ '\n' && char ≠ '\r' && char.toNat ≠ 0x2028 && char.toNat ≠ 0x2029

/-- The address is that of a repository of the host, followed by one of the kinds and more. -/
def isRepositoryURL (host : String) (kinds : List (List String)) (archiveURL : String) : Bool :=
  startsWith archiveURL host &&
    match split '/' (String.ofList (archiveURL.toList.drop host.length)) with
    | owner :: name :: rest =>
      owner ≠ "" && name ≠ "" && kinds.any fun kind => kind.isPrefixOf rest && kind.length < rest.length && (rest.drop kind.length).all oneLine
    | _ => false

def githubRegex : String → Bool := isRepositoryURL "https://github.com/" [["releases"], ["archive"]]

def bitbucketRegex : String → Bool := isRepositoryURL "https://bitbucket.org/" [["downloads"], ["get"]]

def gitlabRegex : String → Bool := isRepositoryURL "https://gitlab.com/" [["-", "archive"], ["releases"]]

def localRegex (archiveURL : String) : Bool :=
  ["http://localhost", "https://localhost"].any fun start => startsWith archiveURL start &&
    match archiveURL.toList.drop start.length with
    | '/' :: rest => oneLine (String.ofList rest)
    | ':' :: rest =>
      match rest.dropWhile Char.isDigit with
      | '/' :: last => rest.takeWhile Char.isDigit ≠ [] && oneLine (String.ofList last)
      | _ => false
    | _ => false

def validateArchiveURL (underTest : Bool) (archiveURL : String) : Bool :=
  let urlGood := githubRegex archiveURL || bitbucketRegex archiveURL || gitlabRegex archiveURL ||
    startsWith archiveURL "https://github.com/yolossn/headlamp-plugins/"
  urlGood || underTest && localRegex archiveURL

/-- The checksum without its prefix, of which each spelling is taken away once. -/
def bareChecksum (archiveChecksum : String) : String :=
  let without := fun text part : String =>
    -- `replace` of the first match of a text
    match splitText text part with
    | first :: second :: rest => first ++ concat part (second :: rest)
    | _ => text
  if startsWith archiveChecksum "sha256:" || startsWith archiveChecksum "SHA256:" then
    without (without archiveChecksum "sha256:") "SHA256:"
  else archiveChecksum

def isTarGz (archiveURL : String) : Bool :=
  endsWith archiveURL ".tar.gz" || endsWith archiveURL ".tgz" || endsWith archiveURL ".tar" ||
    includes archiveURL ".tar.gz?" || includes archiveURL ".tgz?" || includes archiveURL ".tar?"

end K8Sense.Plugins.Packages
