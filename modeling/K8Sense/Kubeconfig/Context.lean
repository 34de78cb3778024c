import K8Sense.Cache.Expiring
import K8Sense.Library.Text

/-! Contexts of kubeconfigs, and the store that has them under their names. -/

namespace K8Sense.Kubeconfig
open Cache (Store CacheValue)

structure Cluster where
  server : String
  tlsServerName : String
  insecureSkipTLSVerify : Bool
  certificateAuthority : String
  certificateAuthorityData : String
  proxyURL : String
deriving DecidableEq

structure AuthInfo where
  clientCertificate : String
  clientCertificateData : String
  clientKey : String
  clientKeyData : String
  token : String
  tokenFile : String
  impersonate : String
  username : String
  password : String
  authProvider : Option (String × List (String × String))
  exec : Option (String × List String × List (String × String))
deriving DecidableEq

/-- What becomes of the extension `headlamp_info` when it is marshaled and decoded: an
error, or the custom name. -/
inductive CustomObject where
  | fault (err : String)
  | custom (customName : String)
deriving DecidableEq

/-- An entry of `contexts`, with the names of its cluster and its user. -/
structure ApiContext where
  cluster : String
  authInfo : String
  headlampInfo : Option CustomObject
deriving DecidableEq

structure Config where
  contexts : String → Option ApiContext
  clusters : String → Option Cluster
  authInfos : String → Option AuthInfo

structure Context where
  name : String
  kubeContext : Option ApiContext
  cluster : Cluster
  authInfo : Option AuthInfo
  source : Nat
  internal : Bool
  kubeConfigPath : String
  clusterID : String
deriving DecidableEq

def kubeConfigSource : Nat := 1

def dynamicClusterSource : Nat := 2

def makeDNSFriendly (name : String) : String := Text.replaceAll (Text.replaceAll name "/" "--") " " "__"

/-- The order in which a loop goes through a map. -/
structure Enumerates {α : Type} (order : List String) (table : String → Option α) : Prop where
  nodup : order.Nodup
  mem : ∀ key, key ∈ order ↔ table key ≠ none

/-- The custom name, where there is one, and the name otherwise. -/
def nameIn (info : Option CustomObject) (name : String) : Except String String :=
  match info with
  | none => .ok name
  | some (.fault err) => .error err
  | some (.custom customName) => .ok (if customName ≠ "" then customName else name)

section
variable (config : Config)

/-- The custom name of an entry, where it decodes and is not empty. -/
def customNameOf (key : String) : Option String :=
  match (config.contexts key).bind fun context => context.headlampInfo with
  | some (.custom customName) => if customName ≠ "" then some customName else none
  | _ => none

/-- The name under which the context of an entry is stored. -/
def nameOf (key : String) : String := (customNameOf config key).getD (makeDNSFriendly key)

def clusterOf (key : String) : Option Cluster :=
  (config.contexts key).bind fun context => config.clusters context.cluster

def authInfoOf (key : String) : Option AuthInfo :=
  (config.contexts key).bind fun context => config.authInfos context.authInfo

end

/-- The name under which `AddContext` stores a context. -/
def Context.storedName (context : Context) : Except String String :=
  nameIn (context.kubeContext.bind fun kubeContext => kubeContext.headlampInfo) context.name

/-- The row that a context is stored as. -/
def storedRow (context : Context) : Option (String × CacheValue Context) :=
  context.storedName.toOption.map fun name => (name, ⟨{ context with name }, none⟩)

def addContext (headlampContext : Context) (store : Store Context) : Except String (Store Context) :=
  match headlampContext.storedName with
  | .error err => .error err
  | .ok name => .ok (store.set name { headlampContext with name })

def removeContext (name : String) (store : Store Context) : Store Context := store.delete name

def addContextWithKeyAndTTL (headlampContext : Context) (key : String) (ttl now : Nat) (store : Store Context) :
    Store Context :=
  store.setWithTTL key { headlampContext with name := key } ttl now

section
variable (setupProxy : String → Except String Unit)

/-- One turn of the loop of `LoadContextsFromAPIConfig`. -/
def loadContext (config : Config) (skipProxySetup : Bool) (contextName : String) (context : ApiContext) :
    Except String Context :=
  match config.clusters context.cluster with
  | none => .error ("cluster not found for context: " ++ contextName.quote)
  | some cluster =>
    let loaded : Context :=
      ⟨makeDNSFriendly contextName, some context, cluster, config.authInfos context.authInfo, 0, false, "", ""⟩
    if skipProxySetup then .ok loaded
    else match setupProxy cluster.server with
    | .error err => .error ("couldnt setup proxy for context: " ++ (makeDNSFriendly contextName).quote ++ ", err:" ++ err.quote)
    | .ok () => .ok loaded

def loadContextsFromAPIConfig (config : Config) (skipProxySetup : Bool) : List String → List Context × List String
  | [] => ([], [])
  | contextName :: rest =>
    let (contexts, errors) := loadContextsFromAPIConfig config skipProxySetup rest
    match config.contexts contextName with
    | none => (contexts, errors)
    | some context =>
      match loadContext setupProxy config skipProxySetup contextName context with
      | .error err => (contexts, err :: errors)
      | .ok loaded => (loaded :: contexts, errors)

end

end K8Sense.Kubeconfig
