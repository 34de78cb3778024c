import K8Sense.Kubeconfig.Context
import K8Sense.Library.Keyed

/-! Reading the contexts of a kubeconfig one by one. Base64, YAML and the reader of
kubeconfigs come from other packages. -/

namespace K8Sense.Kubeconfig

inductive Key where
  | text (name : String)
  | other (shown : String)
deriving DecidableEq

inductive Yaml where
  | text (value : String)
  | other (shown : String)
  | items (entries : List Yaml)
  | fields (rows : List (Key × Yaml))

abbrev Fields := List (Key × Yaml)

abbrev Document := List (String × Yaml)

structure Packages (Bytes : Type) where
  decodeString : String → Except String Bytes
  unmarshal : Bytes → Except String Document
  marshal : Document → Except String Bytes
  load : Bytes → Except String Config
  /-- Whether the server of a cluster is a URL. -/
  setupProxy : String → Except String Unit

inductive LoadFault where
  | contextFormat
  | contextName
  | contextData (contextName : String)
  | clusterName (contextName : String)
  | userName (contextName : String)
  | missing (field : String)
  | notFound (field name : String)
  | marshal (err : String)
  | config (err : String)
  | base64 (fields : List String)
  | contextNotLoaded (contextName : String)
  | clusterNotLoaded (clusterName : String)
  | proxy (contextName err : String)
deriving DecidableEq

structure ContextLoadError where
  contextName : String
  errors : List LoadFault

def Fields.get (name : String) (fields : Fields) : Option Yaml := Keyed.lookup (.text name) fields

def extractContextInfo (rawContext : Yaml) : Except LoadFault (Fields × String) :=
  match rawContext with
  | .fields contextMap =>
    match Fields.get "name" contextMap with
    | some (.text contextName) => .ok (contextMap, contextName)
    | _ => .error .contextName
  | _ => .error .contextFormat

def extractClusterAndUserNames (contextMap : Fields) (contextName : String) : Except LoadFault (String × String) :=
  match Fields.get "context" contextMap with
  | some (.fields contextData) =>
    match Fields.get "cluster" contextData with
    | some (.text clusterName) =>
      match Fields.get "user" contextData with
      | some (.text userName) => .ok (clusterName, userName)
      | _ => .error (.userName contextName)
    | _ => .error (.clusterName contextName)
  | _ => .error (.contextData contextName)

/-- An entry of a list that has the name. -/
def Yaml.named (name : String) (entry : Yaml) : Option Fields :=
  match entry with
  | .fields rows =>
    match Fields.get "name" rows with
    | some (.text found) => if found = name then some rows else none
    | _ => none
  | _ => none

/-- The first entry with the name in the list of a field. -/
def getEntry (field : String) (kubeconfig : Document) (name : String) : Except LoadFault Fields :=
  match Keyed.lookup field kubeconfig with
  | some (.items entries) =>
    match entries.findSome? (Yaml.named name) with
    | some rows => .ok rows
    | none => .error (.notFound field name)
  | _ => .error (.missing field)

def getCluster (kubeconfig : Document) (clusterName : String) : Except LoadFault Fields :=
  getEntry "clusters" kubeconfig clusterName

def getUser (kubeconfig : Document) (userName : String) : Except LoadFault Fields := getEntry "users" kubeconfig userName

def toStringKeyMap (fields : Fields) : Fields := fields.map fun row =>
  match row.1 with
  | .text _ => row
  | .other shown => (.text shown, row.2)

def createKubeConfig (contextName : String) (context cluster user : Fields) : Document := [
  ("contexts", .items [.fields context]),
  ("clusters", .items [.fields cluster]),
  ("users", .items [.fields user]),
  ("apiVersion", .text "v1"),
  ("kind", .text "Config"),
  ("current-context", .text contextName)]

def getNameOrUnknown (data : Fields) : String :=
  match Fields.get "name" data with
  | some (.text name) => name
  | _ => "unknown"

section
variable {Bytes : Type} (packages : Packages Bytes)

/-- The fields of those given that are not base64. -/
def checkBase64Fields (names : List String) (fields : Fields) : List String := names.filter fun name =>
  match Fields.get name fields with
  | some (.text value) =>
    match packages.decodeString value with
    | .ok _ => false
    | .error _ => true
  | _ => false

/-- The fields under the key `part` of an entry. -/
def partOf (part : String) (entry : Except LoadFault Fields) : Fields :=
  match entry with
  | .ok rows =>
    match Fields.get part rows with
    | some (.fields data) => data
    | _ => []
  | .error _ => []

def checkBase64Errors (kubeconfig : Document) (clusterName userName : String) : List String :=
  checkBase64Fields packages ["client-certificate-data", "client-key-data"] (partOf "user" (getUser kubeconfig userName)) ++
    checkBase64Fields packages ["certificate-authority-data"] (partOf "cluster" (getCluster kubeconfig clusterName))

/-- No error where the text speaks of base64 and none of the fields is wrong. The
other texts are only put in other words. -/
def handleConfigLoadError (err : String) (clusterName userName : String) (kubeconfig : Document) : Option LoadFault :=
  if Text.contains err.toList "illegal base64".toList then
    match checkBase64Errors packages kubeconfig clusterName userName with
    | [] => none
    | fields => some (.base64 fields)
  else some (.config err)

/-- Nothing where neither a config nor an error is returned. -/
def createAndValidateConfig (contextName : String) (contextMap cluster user : Fields) (kubeconfig : Document) :
    Option (Except LoadFault Config) :=
  match packages.marshal (createKubeConfig contextName (toStringKeyMap contextMap) (toStringKeyMap cluster) (toStringKeyMap user)) with
  | .error err => some (.error (.marshal err))
  | .ok yamlData =>
    match packages.load yamlData with
    | .ok clientConfig => some (.ok clientConfig)
    | .error err =>
      (handleConfigLoadError packages err (getNameOrUnknown cluster) (getNameOrUnknown user) kubeconfig).map .error

def convertToContext (contextName : String) (clientConfig : Config) (source : Nat) (skipProxySetup : Bool) :
    Except LoadFault Context :=
  match clientConfig.contexts contextName with
  | none => .error (.contextNotLoaded contextName)
  | some context =>
    match clientConfig.clusters context.cluster with
    | none => .error (.clusterNotLoaded context.cluster)
    | some cluster =>
      let newContext : Context :=
        ⟨makeDNSFriendly contextName, some context, cluster, clientConfig.authInfos context.authInfo, source, false, "", ""⟩
      if skipProxySetup then .ok newContext
      else match packages.setupProxy cluster.server with
      | .error err => .error (.proxy (makeDNSFriendly contextName) err)
      | .ok () => .ok newContext

/-- What was found, or what stands in for it, with the error. -/
def orElse {α : Type} (instead : α) (found : Except LoadFault α) : α × List LoadFault :=
  match found with
  | .ok value => (value, [])
  | .error fault => (instead, [fault])

/-- Nothing where the missing config is dereferenced, which panics. -/
def processContext (rawContext : Yaml) (kubeconfig : Document) (source : Nat) (skipProxySetup : Bool) :
    Option (Except ContextLoadError Context) :=
  let ((contextMap, contextName), infoErrs) := orElse ([], "") (extractContextInfo rawContext)
  let ((clusterName, userName), nameErrs) := orElse ("", "") (extractClusterAndUserNames contextMap contextName)
  let (cluster, clusterErrs) := orElse [] (getCluster kubeconfig clusterName)
  let (user, userErrs) := orElse [] (getUser kubeconfig userName)
  let errs := infoErrs ++ nameErrs ++ clusterErrs ++ userErrs
  match createAndValidateConfig packages contextName contextMap cluster user kubeconfig with
  | none => none
  | some (.error err) => some (.error ⟨contextName, errs ++ [err]⟩)
  | some (.ok singleConfig) =>
    match convertToContext packages contextName singleConfig source skipProxySetup, errs with
    | .error err, errs => some (.error ⟨contextName, errs ++ [err]⟩)
    | .ok context, [] => some (.ok context)
    | .ok context, errs => some (.error ⟨context.name, errs⟩)

def processContexts (kubeconfig : Document) (source : Nat) (skipProxySetup : Bool) :
    List Yaml → Option (List Context × List ContextLoadError)
  | [] => some ([], [])
  | rawContext :: rest =>
    match processContext packages rawContext kubeconfig source skipProxySetup with
    | none => none
    | some processed =>
      (processContexts kubeconfig source skipProxySetup rest).map fun (contexts, contextErrors) =>
        match processed with
        | .ok context => (context :: contexts, contextErrors)
        | .error contextError => (contexts, contextError :: contextErrors)

/-- Nothing where it panics. -/
def loadContextsFromData (data : Bytes) (source : Nat) (skipProxySetup : Bool) :
    Option (Except String (List Context × List ContextLoadError)) :=
  match packages.unmarshal data with
  | .error err => some (.error ("Error in field 'kubeconfig': error unmarshaling YAML: " ++ err))
  | .ok kubeconfig =>
    match Keyed.lookup "contexts" kubeconfig with
    | some (.items rawContexts) => (processContexts packages kubeconfig source skipProxySetup rawContexts).map .ok
    | _ => some (.error "Error in field 'contexts': invalid or missing contexts in kubeconfig")

def loadContextsFromBase64String (kubeConfig : String) (source : Nat) :
    Option (Except String (List Context × List ContextLoadError)) :=
  match packages.decodeString kubeConfig with
  | .error err => some (.error ("error decoding base64 kubeconfig: " ++ err))
  | .ok kubeConfigByte => loadContextsFromData packages kubeConfigByte source (source ≠ kubeConfigSource)

end

/-- A kubeconfig with one cluster and a token. -/
def tokenDocument (token : String) : Document := [
  ("contexts", .items [.fields [(.text "name", .text "prod"),
    (.text "context", .fields [(.text "cluster", .text "prod"), (.text "user", .text "admin")])]]),
  ("clusters", .items [.fields [(.text "name", .text "prod"),
    (.text "cluster", .fields [(.text "server", .text "https://prod")])]]),
  ("users", .items [.fields [(.text "name", .text "admin"), (.text "user", .fields [(.text "token", .text token)])]])]

def tokenConfig (token : String) : Config where
  contexts key := if key = "prod" then some ⟨"prod", "admin", none⟩ else none
  clusters key := if key = "prod" then some ⟨"https://prod", "", false, "", "", ""⟩ else none
  authInfos key := if key = "admin" then some ⟨"", "", "", "", token, "", "", "", "", none, none⟩ else none

/-- Kubeconfigs that differ in the token only, written as the token. -/
def tokenPackages : Packages String where
  decodeString token := .ok token
  unmarshal token := .ok (tokenDocument token)
  marshal document :=
    match Fields.get "token" (partOf "user" (getUser document "admin")) with
    | some (.text token) => .ok token
    | _ => .error "no token"
  load token := .ok (tokenConfig token)
  setupProxy _ := .ok ()

end K8Sense.Kubeconfig
