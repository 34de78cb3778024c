import Mathlib.Logic.Function.Basic
import K8Sense.Library.Transition
import K8Sense.Multiplexer.Connection

/-! The multiplexer: one map of connections for all browser sockets. A socket
handles its messages one after the other, each connection has a goroutine that
reads the cluster and one that monitors it, and their steps come in any order. -/

namespace K8Sense.Multiplexer

inductive ReaderPhase where
  | reading
  | delivering (message : ClusterMessage)
  /-- Out of the loop, before the deferred cleanup. -/
  | leaving
  /-- The connection is closed, its key not yet deleted. -/
  | unlisting
  | finished
deriving DecidableEq, Repr

/-- A `handleClusterMessages` goroutine. -/
structure Reader where
  clientConn : Nat
  lastResourceVersion : String
  phase : ReaderPhase
deriving DecidableEq, Repr

/-- A connection with its reader. `opener` is the socket whose request it was
dialled for, `messages` what was read from the cluster and `sent` what was
written to it. -/
structure Stream where
  connection : Connection
  reader : Option Reader
  opener : Nat
  messages : List ClusterMessage
  sent : List String
deriving DecidableEq, Repr

inductive Monitor where
  | watching (stream : Nat)
  /-- Dialling again for the stream, for the client it had. -/
  | redialing (stream : Nat) (client : Option Nat)
  | stopped
deriving DecidableEq, Repr

inductive Socket where
  | idle
  /-- In `establishClusterConnection` for the message. -/
  | dialing (message : Message)
  | gone
deriving DecidableEq, Repr

/-- A request that was answered without an error, with the stream it was given. -/
structure Accepted where
  socket : Nat
  message : Message
  stream : Nat
deriving DecidableEq, Repr

structure State where
  connections : String → Option Nat
  streams : List Stream
  monitors : List Monitor
  sockets : Nat → Socket
  /-- Writes to the socket succeed. -/
  writable : Nat → Bool
  inbox : Nat → List Frame
  accepted : List Accepted

def NewMultiplexer : State where
  connections _ := none
  streams := []
  monitors := []
  sockets _ := .idle
  writable _ := true
  inbox _ := []
  accepted := []

/-- How dialling a cluster ends. -/
inductive Dialed where
  /-- No usable cluster or token. -/
  | refused (err : String)
  /-- A connection was set up and could not be dialled. -/
  | failed (err : String)
  | connected
deriving DecidableEq, Repr

inductive Event where
  | receive (socket : Nat) (msg : Message) (cookieErr writeErr : Option String)
  | dialed (socket : Nat) (outcome : Dialed) (writeErr : Option String)
  | read (stream : Nat) (message : ClusterMessage)
  | deliver (stream : Nat)
  | leave (stream : Nat)
  | shut (stream : Nat)
  | unlist (stream : Nat)
  | beat (monitor : Nat) (err : String)
  | redialed (monitor : Nat) (outcome : Dialed)
  | stop (monitor : Nat)
  /-- The network under the socket is lost. -/
  | hangUp (socket : Nat)
  | disconnect (socket : Nat)
deriving DecidableEq, Repr

def Message.Routable (msg : Message) : Prop :=
  msg.clusterID ≠ "" ∧ msg.path ≠ "" ∧ msg.userID ≠ "" ∧ msg.type ≠ ""

instance : DecidablePred Message.Routable := fun _ => inferInstanceAs (Decidable (_ ∧ _))

def post (client : Option Nat) (frames : List Frame) (state : State) : State :=
  match client with
  | none => state
  | some socket =>
    if state.writable socket then
      { state with inbox := Function.update state.inbox socket (state.inbox socket ++ frames) }
    else state

/-- Change a connection and tell its client. -/
def change (f : Connection → Connection × List Frame) (id : Nat) (state : State) : State :=
  match state.streams[id]? with
  | none => state
  | some stream =>
    let (connection, frames) := f stream.connection
    post stream.connection.client frames
      { state with streams := state.streams.set id { stream with connection } }

def sendClientError (socket : Nat) (route : Route) (err : String) (state : State) : State :=
  post (some socket) [errorMessage route err] state

/-- `CloseConnection` -/
def closeConnection (clusterID path userID : String) (state : State) : State :=
  let key := createConnectionKey clusterID path userID
  match state.connections key with
  | none => state
  | some id =>
    change Connection.safeClose id (change (Connection.updateStatus .closed none) id
      { state with connections := Function.update state.connections key none })

def writeMessageToCluster (id : Nat) (data : String) (writeErr : Option String) (state : State) : State :=
  match writeErr with
  | some err => change (Connection.updateStatus .error (some err)) id state
  | none =>
    match state.streams[id]? with
    | none => state
    | some stream => { state with streams := state.streams.set id { stream with sent := stream.sent ++ [data] } }

/-- The end of `processClientMessage`, once there is a connection. -/
def acceptRequest (socket : Nat) (msg : Message) (id : Nat) (writeErr : Option String) (state : State) : State :=
  let state := { state with accepted := state.accepted ++ [⟨socket, msg, id⟩] }
  match state.streams[id]? with
  | none => state
  | some stream =>
    if stream.connection.state = .connected then writeMessageToCluster id msg.data writeErr state else state

def processClientMessage (socket : Nat) (msg : Message) (cookieErr writeErr : Option String) (state : State) : State :=
  if msg.type = "CLOSE" then closeConnection msg.clusterID msg.path msg.userID state
  else if msg.type ≠ "REQUEST" then
    sendClientError socket msg.toRoute ("unsupported message type: " ++ msg.type) state
  else match cookieErr with
  | some err => sendClientError socket msg.toRoute err state
  | none =>
    match state.connections msg.toRoute.key with
    | some id => acceptRequest socket msg id writeErr state
    | none => { state with sockets := Function.update state.sockets socket (.dialing msg) }

/-- A dialled connection is entered under its key and gets a monitor. -/
def establish (route : Route) (client : Option Nat) (opener : Nat) (reader : Option Reader) (state : State) : State :=
  let (connection, frames) := (createConnection route client).updateStatus .connected none
  post client frames
    { state with
      connections := Function.update state.connections route.key (some state.streams.length)
      streams := state.streams ++ [⟨connection, reader, opener, [], []⟩]
      monitors := state.monitors ++ [.watching state.streams.length] }

/-- The client is told of a connection that could not be dialled. -/
def reportFailure (route : Route) (client : Option Nat) (err : String) (state : State) : State :=
  post client ((createConnection route client).updateStatus .error (some err)).2 state

def dialed (socket : Nat) (msg : Message) (outcome : Dialed) (writeErr : Option String) (state : State) : State :=
  let state := { state with sockets := Function.update state.sockets socket .idle }
  match outcome with
  | .refused err => sendClientError socket msg.toRoute err state
  | .failed err => sendClientError socket msg.toRoute err (reportFailure msg.toRoute (some socket) err state)
  | .connected =>
    acceptRequest socket msg state.streams.length writeErr
      (establish msg.toRoute (some socket) socket (some ⟨socket, "", .reading⟩) state)

/-- A message is read from the cluster and not yet sent on. -/
def read (id : Nat) (stream : Stream) (reader : Reader) (message : ClusterMessage) (state : State) : State :=
  { state with
    streams := state.streams.set id
      { stream with reader := some { reader with phase := .delivering message }, messages := stream.messages ++ [message] } }

/-- `sendIfNewResourceVersion`, with the version to remember. -/
def sendIfNewResourceVersion (conn : Connection) (reader : Reader) (message : ClusterMessage) : String × List Frame :=
  let version := message.resourceVersion
  if version = "" ∨ version = reader.lastResourceVersion then (reader.lastResourceVersion, [])
  else (version, if conn.closed then [] else [completeMessage conn])

def deliver (id : Nat) (stream : Stream) (reader : Reader) (message : ClusterMessage) (state : State) : State :=
  let (lastResourceVersion, frames) := sendIfNewResourceVersion stream.connection reader message
  let phase := if state.writable reader.clientConn then .reading else .leaving
  post (some reader.clientConn) (frames ++ [createWrapperMessage stream.connection message])
    { state with
      streams := state.streams.set id { stream with reader := some { reader with lastResourceVersion, phase } } }

def setPhase (id : Nat) (stream : Stream) (reader : Reader) (phase : ReaderPhase) (state : State) : State :=
  { state with streams := state.streams.set id { stream with reader := some { reader with phase } } }

/-- `reconnect`, up to the dialling. -/
def beat (monitor id : Nat) (err : String) (state : State) : State :=
  let state := change (Connection.updateStatus .error (some ("heartbeat failed: " ++ err))) id state
  match state.streams[id]? with
  | none => state
  | some stream =>
    if stream.connection.closed then state
    else
      { state with
        streams := state.streams.set id { stream with connection := { stream.connection with wsOpen := false } }
        monitors := state.monitors.set monitor (.redialing id stream.connection.client) }

/-- The new connection is monitored twice, and nothing reads it. -/
def redialed (monitor id : Nat) (client : Option Nat) (stream : Stream) (outcome : Dialed) (state : State) : State :=
  match outcome with
  | .refused _ => { state with monitors := state.monitors.set monitor (.watching id) }
  | .failed err =>
    reportFailure stream.connection.toRoute client err
      { state with monitors := state.monitors.set monitor (.watching id) }
  | .connected =>
    establish stream.connection.toRoute client stream.opener none
      { state with monitors := state.monitors.set monitor (.watching state.streams.length) }

/-- The map's entry for its key is the stream, and it is the socket's. -/
def ownedBy (socket : Nat) (state : State) (id : Nat) (stream : Stream) : Bool :=
  stream.connection.client = some socket && state.connections stream.connection.toRoute.key = some id

def closeClientConnections (socket : Nat) (state : State) : State :=
  { state with
    connections := fun key => (state.connections key).filter fun id =>
      (state.streams[id]?).all fun stream => stream.connection.client ≠ some socket
    streams := state.streams.mapIdx fun id stream =>
      if ownedBy socket state id stream then { stream with connection := stream.connection.abandon } else stream }

/-- The stream with its reader, if it has one. -/
def readerOf (id : Nat) (state : State) : Option (Stream × Reader) :=
  (state.streams[id]?).bind fun stream => stream.reader.map fun reader => (stream, reader)

def step (state : State) : Event → Option State
  | .receive socket msg cookieErr writeErr =>
    if state.sockets socket = .idle then
      if msg.Routable then some (processClientMessage socket msg cookieErr writeErr state) else some state
    else none
  | .dialed socket outcome writeErr =>
    match state.sockets socket with
    | .dialing msg => some (dialed socket msg outcome writeErr state)
    | _ => none
  | .read id message =>
    match readerOf id state with
    | none => none
    | some (stream, reader) =>
      if reader.phase = .reading ∧ stream.connection.wsOpen then some (read id stream reader message state) else none
  | .deliver id =>
    match readerOf id state with
    | none => none
    | some (stream, reader) =>
      match reader.phase with
      | .delivering message => some (deliver id stream reader message state)
      | _ => none
  | .leave id =>
    match readerOf id state with
    | none => none
    | some (stream, reader) =>
      if reader.phase = .reading then some (setPhase id stream reader .leaving state) else none
  | .shut id =>
    match readerOf id state with
    | none => none
    | some (stream, reader) =>
      if reader.phase = .leaving then
        some (change Connection.safeClose id (setPhase id stream reader .unlisting state))
      else none
  | .unlist id =>
    match readerOf id state with
    | none => none
    | some (stream, reader) =>
      if reader.phase = .unlisting then
        some (setPhase id stream reader .finished
          { state with connections := Function.update state.connections stream.connection.toRoute.key none })
      else none
  | .beat monitor err =>
    match state.monitors[monitor]? with
    | some (.watching id) => some (beat monitor id err state)
    | _ => none
  | .redialed monitor outcome =>
    match state.monitors[monitor]? with
    | some (.redialing id client) => (state.streams[id]?).map fun stream => redialed monitor id client stream outcome state
    | _ => none
  | .stop monitor =>
    match state.monitors[monitor]? with
    | some (.watching id) =>
      if (state.streams[id]?).any fun stream => stream.connection.closed then
        some (change (Connection.updateStatus .closed none) id
          { state with monitors := state.monitors.set monitor .stopped })
      else none
    | _ => none
  | .hangUp socket => some { state with writable := Function.update state.writable socket false }
  | .disconnect socket =>
    if state.sockets socket = .idle then
      some (closeClientConnections socket
        { state with
          sockets := Function.update state.sockets socket .gone
          writable := Function.update state.writable socket false })
    else none

variable {state next : State}

theorem readerOf_eq {id : Nat} {stream : Stream} {reader : Reader} (found : readerOf id state = some (stream, reader)) :
    state.streams[id]? = some stream ∧ stream.reader = some reader := by
  simp only [readerOf, Option.bind_eq_some_iff, Option.map_eq_some_iff, Prod.mk.injEq] at found
  obtain ⟨_, held, _, reads, rfl, rfl⟩ := found
  exact ⟨held, reads⟩

/-- What the steps do, with what they find. -/
inductive Takes (state : State) : Event → State → Prop where
  | received {socket : Nat} {msg : Message} {cookieErr writeErr : Option String} (routable : msg.Routable) :
    Takes state (.receive socket msg cookieErr writeErr) (processClientMessage socket msg cookieErr writeErr state)
  | ignored {socket : Nat} {msg : Message} {cookieErr writeErr : Option String} :
    Takes state (.receive socket msg cookieErr writeErr) state
  | dialed {socket : Nat} {msg : Message} {outcome : Dialed} {writeErr : Option String} (dialing : state.sockets socket = .dialing msg) :
    Takes state (.dialed socket outcome writeErr) (dialed socket msg outcome writeErr state)
  | read {id : Nat} {message : ClusterMessage} {stream : Stream} {reader : Reader} (held : state.streams[id]? = some stream)
      (reads : stream.reader = some reader) (phase : reader.phase = .reading) :
    Takes state (.read id message) (read id stream reader message state)
  | deliver {id : Nat} {message : ClusterMessage} {stream : Stream} {reader : Reader} (held : state.streams[id]? = some stream)
      (reads : stream.reader = some reader) (phase : reader.phase = .delivering message) :
    Takes state (.deliver id) (deliver id stream reader message state)
  | leave {id : Nat} {stream : Stream} {reader : Reader} (held : state.streams[id]? = some stream)
      (reads : stream.reader = some reader) (phase : reader.phase = .reading) :
    Takes state (.leave id) (setPhase id stream reader .leaving state)
  | shut {id : Nat} {stream : Stream} {reader : Reader} (held : state.streams[id]? = some stream)
      (reads : stream.reader = some reader) (phase : reader.phase = .leaving) :
    Takes state (.shut id) (change Connection.safeClose id (setPhase id stream reader .unlisting state))
  | unlist {id : Nat} {stream : Stream} {reader : Reader} (held : state.streams[id]? = some stream)
      (reads : stream.reader = some reader) (phase : reader.phase = .unlisting) :
    Takes state (.unlist id) (setPhase id stream reader .finished
      { state with connections := Function.update state.connections stream.connection.toRoute.key none })
  | beat {monitor id : Nat} {err : String} : Takes state (.beat monitor err) (beat monitor id err state)
  | redialed {monitor id : Nat} {outcome : Dialed} {client : Option Nat} {stream : Stream} :
    Takes state (.redialed monitor outcome) (redialed monitor id client stream outcome state)
  | stop {monitor id : Nat} : Takes state (.stop monitor)
    (change (Connection.updateStatus .closed none) id { state with monitors := state.monitors.set monitor .stopped })
  | hangUp {socket : Nat} : Takes state (.hangUp socket) { state with writable := Function.update state.writable socket false }
  | disconnect {socket : Nat} : Takes state (.disconnect socket) (closeClientConnections socket
      { state with
        sockets := Function.update state.sockets socket .gone
        writable := Function.update state.writable socket false })

theorem step_takes {event : Event} (taken : step state event = some next) : Takes state event next := by
  cases event with
  | receive =>
    simp only [step] at taken
    split at taken
    next =>
      split at taken
      next routable =>
        cases taken
        exact .received routable
      next =>
        cases taken
        exact .ignored
    next => cases taken
  | dialed =>
    simp only [step] at taken
    split at taken
    next dialing =>
      cases taken
      exact .dialed dialing
    next => cases taken
  | read =>
    simp only [step] at taken
    split at taken
    next => cases taken
    next found =>
      obtain ⟨held, reads⟩ := readerOf_eq found
      split at taken
      next reading =>
        cases taken
        exact .read held reads reading.1
      next => cases taken
  | leave =>
    simp only [step] at taken
    split at taken
    next => cases taken
    next found =>
      obtain ⟨held, reads⟩ := readerOf_eq found
      split at taken
      next phase =>
        cases taken
        exact .leave held reads phase
      next => cases taken
  | shut =>
    simp only [step] at taken
    split at taken
    next => cases taken
    next found =>
      obtain ⟨held, reads⟩ := readerOf_eq found
      split at taken
      next phase =>
        cases taken
        exact .shut held reads phase
      next => cases taken
  | unlist =>
    simp only [step] at taken
    split at taken
    next => cases taken
    next found =>
      obtain ⟨held, reads⟩ := readerOf_eq found
      split at taken
      next phase =>
        cases taken
        exact .unlist held reads phase
      next => cases taken
  | deliver =>
    simp only [step] at taken
    split at taken
    next => cases taken
    next found =>
      obtain ⟨held, reads⟩ := readerOf_eq found
      split at taken
      next phase =>
        cases taken
        exact .deliver held reads phase
      next => cases taken
  | beat =>
    simp only [step] at taken
    split at taken
    next =>
      cases taken
      exact .beat
    next => cases taken
  | redialed =>
    simp only [step] at taken
    split at taken
    next =>
      obtain ⟨stream, -, rfl⟩ := Option.map_eq_some_iff.mp taken
      exact .redialed
    next => cases taken
  | stop =>
    simp only [step] at taken
    split at taken
    next =>
      split at taken
      next =>
        cases taken
        exact .stop
      next => cases taken
    next => cases taken
  | hangUp =>
    cases taken
    exact .hangUp
  | disconnect =>
    simp only [step] at taken
    split at taken
    next =>
      cases taken
      exact .disconnect
    next => cases taken

end K8Sense.Multiplexer
