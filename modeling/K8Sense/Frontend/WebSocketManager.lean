import K8Sense.Library.Keyed

/-! The frontend's side of the multiplexer: one socket for all watches. Calls, timers and
the callbacks of sockets each run to their end; a `subscribe` goes on when its connection
is there. -/

namespace K8Sense.Frontend.WebSocketManager

structure Subscription where
  clusterId : String
  path : String
  query : String
deriving DecidableEq

def createKey (subscription : Subscription) : String :=
  subscription.clusterId ++ ":" ++ subscription.path ++ ":" ++ subscription.query

/-- A socket is `closing` from when it is no longer open, after an error for example, up
to its close callback. -/
inductive ReadyState where
  | connecting
  | opened
  | closing
  | closed
deriving DecidableEq

/-- A socket, with the keys of which a REQUEST has been sent over it and no CLOSE since. -/
structure Socket where
  readyState : ReadyState
  streams : String → Bool

/-- What a `subscribe` waits for: the callbacks of the socket that it has created, the
next check of its interval, or only its turn. -/
inductive Wait where
  | opening (socket : Nat)
  | polling
  | ready (socket : Nat)
deriving DecidableEq

structure Call where
  subscription : Subscription
  wait : Wait

universe u v
variable {L : Type u} {E : Type v} [DecidableEq L] [DecidableEq E]

/-- The manager, with the sockets and the calls of `subscribe` that wait. A set of listeners
that becomes empty is deleted, so none is an empty one. `subscribed` is history: whether
the last call for the listener has subscribed it. -/
structure State (L : Type u) (E : Type v) where
  socketMultiplexer : Option Nat
  connecting : Bool
  isReconnecting : Bool
  listeners : String → List L
  errorListeners : String → List E
  completedPaths : String → Bool
  activeSubscriptions : List (String × Subscription)
  pendingUnsubscribes : String → Option Subscription
  sockets : Nat → Option Socket
  created : Nat
  calls : Nat → Option Call
  subscribed : String → L → Bool

def start : State L E :=
  ⟨none, false, false, fun _ => [], fun _ => [], fun _ => false, [], fun _ => none, fun _ => none, 0, fun _ => none,
    fun _ _ => false⟩

/-- A message of the server, with empty texts for what is not there. -/
structure WebSocketMessage where
  clusterId : String
  path : String
  query : String
  type : String
  data : String

inductive Event (L : Type u) (E : Type v) where
  /-- A call of `subscribe`, with whether a socket can be constructed. -/
  | subscribe (call : Nat) (subscription : Subscription) (onMessage : L) (onError : Option E) (constructs : Bool)
  | checkConnection (call : Nat)
  /-- The `subscribe` goes on with its connection. -/
  | request (call : Nat)
  | onopen (socket : Nat)
  | onerror (socket : Nat)
  /-- The socket is no longer open. -/
  | closing (socket : Nat)
  | onclose (socket : Nat)
  | onmessage (socket : Nat) (message : WebSocketMessage)
  | unsubscribe (subscription : Subscription) (onMessage : L) (onError : Option E)
  /-- The timer of a key. -/
  | timeout (key : String)

/-- A set in the order of its insertions. -/
def add {α : Type u} [DecidableEq α] (item : α) (items : List α) : List α := if item ∈ items then items else items ++ [item]

namespace State

def isOpen (state : State L E) (socket : Nat) : Bool :=
  (state.sockets socket).any fun found => found.readyState = .opened

/-- The socket in use, where it is open. -/
def current (state : State L E) : Option Nat := state.socketMultiplexer.filter state.isOpen

def setSocket (state : State L E) (socket : Nat) (value : Socket) : State L E :=
  { state with sockets := Function.update state.sockets socket (some value) }

def setCall (state : State L E) (call : Nat) (value : Option Call) : State L E :=
  { state with calls := Function.update state.calls call value }

/-- Nothing for a promise that is rejected. -/
def connect (constructs : Bool) (state : State L E) : State L E × Option Wait :=
  match state.current with
  | some socket => (state, some (.ready socket))
  | none =>
    if state.connecting then (state, some .polling)
    else if constructs then
      ({ state.setSocket state.created ⟨.connecting, fun _ => false⟩ with connecting := true, created := state.created + 1 },
        some (.opening state.created))
    else (state, none)

/-- What a `subscribe` does before it waits. -/
def register (subscription : Subscription) (onMessage : L) (onError : Option E) (state : State L E) : State L E :=
  let key := createKey subscription
  { state with
    activeSubscriptions := Keyed.upsert key subscription (fun _ => subscription) state.activeSubscriptions
    listeners := Function.update state.listeners key (add onMessage (state.listeners key))
    errorListeners := match onError with
      | some onError => Function.update state.errorListeners key (add onError (state.errorListeners key))
      | none => state.errorListeners
    subscribed := Function.update state.subscribed key (Function.update (state.subscribed key) onMessage true) }

def subscribe (call : Nat) (subscription : Subscription) (onMessage : L) (onError : Option E) (constructs : Bool)
    (state : State L E) : Option (State L E) :=
  match state.calls call with
  | some _ => none
  | none =>
    let (connected, wait) := (state.register subscription onMessage onError).connect constructs
    some (connected.setCall call (wait.map fun wait => ⟨subscription, wait⟩))

/-- A check of the interval of a call. -/
def checkConnection (call : Nat) (state : State L E) : Option (State L E) :=
  match state.calls call with
  | some ⟨subscription, .polling⟩ =>
    match state.current with
    | some socket => some (state.setCall call (some ⟨subscription, .ready socket⟩))
    | none => if state.connecting then some state else some (state.setCall call none)
  | _ => none

/-- What is sent over a socket that is not open is dropped. -/
def send (socket : Nat) (requested : Bool) (key : String) (state : State L E) : State L E :=
  match state.sockets socket with
  | some ⟨.opened, streams⟩ => state.setSocket socket ⟨.opened, Function.update streams key requested⟩
  | _ => state

def request (call : Nat) (state : State L E) : Option (State L E) :=
  match state.calls call with
  | some ⟨subscription, .ready socket⟩ => some ((state.send socket true (createKey subscription)).setCall call none)
  | _ => none

/-- A REQUEST for each of the active subscriptions. -/
def resubscribeAll (activeSubscriptions : List (String × Subscription)) (streams : String → Bool) : String → Bool :=
  activeSubscriptions.foldl (fun streams row => Function.update streams (createKey row.2) true) streams

def onopen (socket : Nat) (state : State L E) : Option (State L E) :=
  match state.sockets socket with
  | some ⟨.connecting, streams⟩ =>
    let streams := if state.isReconnecting then resubscribeAll state.activeSubscriptions streams else streams
    some { state.setSocket socket ⟨.opened, streams⟩ with
      socketMultiplexer := some socket
      connecting := false
      isReconnecting := false
      calls := fun call => (state.calls call).map fun waiting =>
        if waiting.wait = .opening socket then ⟨waiting.subscription, .ready socket⟩ else waiting }
  | _ => none

/-- The promise of the call that has created the socket is rejected, where it is not there
yet. -/
def onerror (socket : Nat) (state : State L E) : Option (State L E) :=
  match state.sockets socket with
  | some ⟨.connecting, streams⟩ | some ⟨.opened, streams⟩ => some { state.setSocket socket ⟨.closing, streams⟩ with
      connecting := false
      calls := fun call => (state.calls call).filter fun waiting => waiting.wait ≠ .opening socket }
  | _ => none

def closing (socket : Nat) (state : State L E) : Option (State L E) :=
  match state.sockets socket with
  | some ⟨.opened, streams⟩ => some (state.setSocket socket ⟨.closing, streams⟩)
  | _ => none

def handleWebSocketClose (state : State L E) : State L E :=
  { state with
    socketMultiplexer := none
    connecting := false
    completedPaths := fun _ => false
    isReconnecting := !state.activeSubscriptions.isEmpty }

def onclose (socket : Nat) (state : State L E) : Option (State L E) :=
  match state.sockets socket with
  | some ⟨.opened, streams⟩ | some ⟨.closing, streams⟩ => some (state.setSocket socket ⟨.closed, streams⟩).handleWebSocketClose
  | _ => none

def unsubscribe (subscription : Subscription) (onMessage : L) (onError : Option E) (state : State L E) : State L E :=
  let key := createKey subscription
  let listeners := (state.listeners key).erase onMessage
  let pending := Function.update state.pendingUnsubscribes key none
  { state with
    listeners := Function.update state.listeners key listeners
    pendingUnsubscribes :=
      if state.listeners key ≠ [] ∧ listeners = [] then Function.update pending key (some subscription) else pending
    errorListeners := match onError with
      | some onError => Function.update state.errorListeners key ((state.errorListeners key).erase onError)
      | none => state.errorListeners
    subscribed := Function.update state.subscribed key (Function.update (state.subscribed key) onMessage false) }

/-- The CLOSE goes over the socket in use, where it is open. -/
def close (key : String) (state : State L E) : State L E :=
  match state.current with
  | some socket => state.send socket false key
  | none => state

def timeout (key : String) (state : State L E) : Option (State L E) :=
  match state.pendingUnsubscribes key with
  | none => none
  | some subscription =>
    let ended := { state with pendingUnsubscribes := Function.update state.pendingUnsubscribes key none }
    if state.listeners key = [] then
      some ({ ended with
        activeSubscriptions := Keyed.erase key state.activeSubscriptions
        completedPaths := Function.update state.completedPaths key false }.close (createKey subscription))
    else some ended

end State

/-! Messages. -/

/-- What the functions of the language for JSON say. -/
structure JSON (J : Type) where
  parse : String → Option J
  /-- An object or an array. -/
  isObject : J → Bool
  /-- The field `error` as a text, empty where it counts as false; nothing for `null`. -/
  error : J → Option String

inductive Update (J : Type) where
  | parsed (value : J)
  | message (data : WebSocketMessage)
  | error (key errorMessage : String)

inductive Invocation (L : Type u) (E : Type v) (J : Type) where
  | onMessage (listener : L) (update : Update J)
  | onError (listener : E) (errorMessage : String)

section
variable {J : Type} (json : JSON J)

def errorMessage (data : String) : String :=
  let unknown := "Unknown error"
  let fallback := if data = "" then unknown else data
  if data = "" then unknown
  else match json.parse data with
  | none => fallback
  | some parsedData =>
    match json.error parsedData with
    | none => fallback
    | some error => if error = "" then unknown else error

def keyOf (message : WebSocketMessage) : String := createKey ⟨message.clusterId, message.path, message.query⟩

/-- What the listeners are told of a message that is neither COMPLETE nor ERROR. -/
def updateOf (message : WebSocketMessage) : Option (Update J) :=
  if message.data = "" then some (.message message)
  else (json.parse message.data).bind fun value => if json.isObject value then some (.parsed value) else none

def State.notify (state : State L E) (key : String) (update : Update J) : List (Invocation L E J) :=
  (state.listeners key).map fun listener => .onMessage listener update

/-- The calls of the listeners. An exception of one is caught. -/
def handleWebSocketMessage (message : WebSocketMessage) (state : State L E) : List (Invocation L E J) :=
  if message.clusterId = "" ∨ message.path = "" ∨ message.type = "COMPLETE" then []
  else if message.type = "ERROR" then
    match state.errorListeners (keyOf message) with
    | [] => state.notify (keyOf message) (.error (keyOf message) (errorMessage json message.data))
    | errListeners => errListeners.map fun listener => .onError listener (errorMessage json message.data)
  else match updateOf json message with
  | some update => state.notify (keyOf message) update
  | none => []

end

def State.onmessage (socket : Nat) (message : WebSocketMessage) (state : State L E) : Option (State L E) :=
  if state.isOpen socket then
    if message.clusterId ≠ "" ∧ message.path ≠ "" ∧ message.type = "COMPLETE" then
      some { state with completedPaths := Function.update state.completedPaths (keyOf message) true }
    else some state
  else none

def step (state : State L E) : Event L E → Option (State L E)
  | .subscribe call subscription onMessage onError constructs => state.subscribe call subscription onMessage onError constructs
  | .checkConnection call => state.checkConnection call
  | .request call => state.request call
  | .onopen socket => state.onopen socket
  | .onerror socket => state.onerror socket
  | .closing socket => state.closing socket
  | .onclose socket => state.onclose socket
  | .onmessage socket message => state.onmessage socket message
  | .unsubscribe subscription onMessage onError => some (state.unsubscribe subscription onMessage onError)
  | .timeout key => state.timeout key

end K8Sense.Frontend.WebSocketManager
