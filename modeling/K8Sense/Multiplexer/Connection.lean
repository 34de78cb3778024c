/-! The messages of the websocket multiplexer and one connection to a cluster:
its status, what its client is told of it and how it is closed. -/

namespace K8Sense.Multiplexer

/-- What a client asks a stream of. -/
structure Route where
  clusterID : String
  path : String
  query : String
  userID : String
deriving DecidableEq, Repr

structure Message extends Route where
  data : String
  type : String
deriving DecidableEq, Repr

inductive ConnectionState where
  | connecting
  | connected
  | error
  | closed
deriving DecidableEq, Repr

/-- A message read from a cluster. A JSON payload brings the resource versions
of its metadata and of its object's metadata. -/
structure ClusterMessage where
  binary : Bool
  payload : List UInt8
  versions : Option (String × String)
deriving DecidableEq, Repr

/-- The type of a message to a client, with what its `data` encodes. -/
inductive Content where
  | data (binary : Bool) (payload : List UInt8)
  | complete
  | status (state : ConnectionState) (error : String)
  | error (text : String)
deriving DecidableEq, Repr

structure Frame extends Route where
  content : Content
deriving DecidableEq, Repr

/-- A connection to a cluster. `wsOpen` says that this side has not closed the
websocket; `closed` also stands for the closed `Done` channel. -/
structure Connection extends Route where
  state : ConnectionState
  error : String
  client : Option Nat
  closed : Bool
  wsOpen : Bool
deriving DecidableEq, Repr

def createConnectionKey (clusterID path userID : String) : String :=
  clusterID ++ ":" ++ path ++ ":" ++ userID

def Route.key (route : Route) : String := createConnectionKey route.clusterID route.path route.userID

namespace Connection

/-- A status message names the cluster and the path only. -/
def statusFrame (conn : Connection) : Frame where
  clusterID := conn.clusterID
  path := conn.path
  query := ""
  userID := ""
  content := .status conn.state conn.error

def notify (conn : Connection) : List Frame :=
  if conn.client.isSome then [conn.statusFrame] else []

def safeClose (conn : Connection) : Connection × List Frame :=
  if conn.closed then (conn, [])
  else
    let updated := { conn with state := .closed, error := "" }
    ({ updated with closed := true, wsOpen := false }, if conn.state ≠ .closed then updated.notify else [])

def updateStatus (state : ConnectionState) (err : Option String) (conn : Connection) : Connection × List Frame :=
  if conn.closed then (conn, [])
  else
    let updated := { conn with state, error := err.getD "" }
    if state = .closed then
      let (shut, frames) := updated.safeClose
      (shut, updated.notify ++ frames)
    else (updated, updated.notify)

/-- What `closeClientConnections` does to a connection of the client. -/
def abandon (conn : Connection) : Connection :=
  ({ conn with client := none, state := .closed, error := "" } : Connection).safeClose.1

end Connection

def createConnection (route : Route) (client : Option Nat) : Connection where
  toRoute := route
  state := .connecting
  error := ""
  client := client
  closed := false
  wsOpen := true

def completeMessage (conn : Connection) : Frame := ⟨conn.toRoute, .complete⟩

def createWrapperMessage (conn : Connection) (message : ClusterMessage) : Frame :=
  ⟨conn.toRoute, .data message.binary message.payload⟩

def errorMessage (route : Route) (err : String) : Frame := ⟨route, .error err⟩

/-- `metadata.resourceVersion`, else that of the object, empty if there is none. -/
def ClusterMessage.resourceVersion (message : ClusterMessage) : String :=
  match message.versions with
  | none => ""
  | some (own, object) => if own = "" then object else own

/-- What a data message carries, for a client that looks for one route. -/
def Frame.dataOf (route : Route) (frame : Frame) : Option (Bool × List UInt8) :=
  match frame.content with
  | .data binary payload => if frame.toRoute = route then some (binary, payload) else none
  | _ => none

/-- Only the status of a connection changes, and its client gets no data of it. -/
structure Administrative (change : Connection → Connection × List Frame) : Prop where
  route : ∀ conn, (change conn).1.toRoute = conn.toRoute
  silent : ∀ conn route, ∀ frame ∈ (change conn).2, frame.dataOf route = none

theorem notify_silent (conn : Connection) (route : Route) : ∀ frame ∈ conn.notify, frame.dataOf route = none := by
  intro frame member
  unfold Connection.notify at member
  split at member
  next =>
    obtain rfl := List.mem_singleton.mp member
    rfl
  next => exact absurd member List.not_mem_nil

theorem safeClose_administrative : Administrative Connection.safeClose := by
  constructor
  · intro conn
    unfold Connection.safeClose
    split <;> rfl
  · intro conn route frame member
    unfold Connection.safeClose at member
    split at member
    next => exact absurd member List.not_mem_nil
    next =>
      dsimp only at member
      split at member
      next => exact notify_silent _ route frame member
      next => exact absurd member List.not_mem_nil

theorem updateStatus_administrative (state : ConnectionState) (err : Option String) :
    Administrative (Connection.updateStatus state err) := by
  constructor
  · intro conn
    unfold Connection.updateStatus
    split
    next => rfl
    next =>
      dsimp only
      split
      next => exact safeClose_administrative.route _
      next => rfl
  · intro conn route frame member
    unfold Connection.updateStatus at member
    split at member
    next => exact absurd member List.not_mem_nil
    next =>
      dsimp only at member
      split at member
      next =>
        rcases List.mem_append.mp member with told | told
        · exact notify_silent _ route frame told
        · exact safeClose_administrative.silent _ route frame told
      next => exact notify_silent _ route frame member

theorem abandon_route (conn : Connection) : conn.abandon.toRoute = conn.toRoute :=
  safeClose_administrative.route _

end K8Sense.Multiplexer
