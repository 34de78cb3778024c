import K8Sense.Forwarding.Store
import K8Sense.Library.Transition

/-! The tunnels of one id: the requests that start, stop and delete them, and the
goroutines that each of them has. What is done under a lock, or with one access to the
cache, is one step. -/

namespace K8Sense.Forwarding.Lifecycle
open Transition

/-- A request to start a tunnel of the id. -/
structure StartRequest (id : String) where
  req : PortForwardRequest
  named : req.id = id
  identified : req.id ≠ ""

/-- What a handler does once it has stored the outcome. -/
inductive Next where
  /-- The pod is watched from now on. -/
  | watch
  | close
  | nothing
deriving DecidableEq

/-- The goroutine with `ForwardPorts`, which is alive while that has not ended. -/
inductive ForwardPorts where
  | alive
  | storing (snapshot : PortForward) (err : Option String)
  | closing
  | finished

/-- The handler of the request, which waits for the tunnel to be ready. -/
inductive Readiness where
  | waiting
  | storing (snapshot : PortForward) (next : Next)
  | closing
  | finished

inductive Monitor where
  | absent
  | watching
  | storing (snapshot : PortForward)
  | closing
  | finished

/-- `record` is shared by the goroutines; `forwardErr` is what can be received from
`forwardErrChan`, an error or that it is closed. -/
structure Tunnel where
  record : PortForward
  closed : Bool
  forwarding : ForwardPorts
  readiness : Readiness
  monitor : Monitor
  forwardErr : Option (Option String)

/-- The one request that has its key in `inFlightPortForwards`. -/
inductive Launch (id : String) where
  | preparing (request : StartRequest id)
  | waiting (tunnel : Nat)

/-- A request to stop or to delete, with its copy of the entry. -/
inductive Handler where
  | got (copy : PortForward) (isStopRequest : Bool)
  | signalled (copy : PortForward) (isStopRequest : Bool)
  | returned

/-- `entry` is what the cache has for the id. Tunnels go by the order in which they were
started. That the entry was deleted and nothing started since is not recorded by the
code. -/
structure State (id : String) where
  entry : Option PortForward
  tunnels : List Tunnel
  checked : List (StartRequest id)
  inFlight : Option (Launch id)
  handlers : List Handler
  deleted : Bool

/-- What `handlePortForwardReadiness` receives. -/
inductive Outcome where
  | ready (errOut : String)
  | forwardErr
  | timeout
  | closed

inductive Event (id : String) where
  | start (request : StartRequest id)
  | enter (index : Nat)
  | refuse
  | launch
  | readiness (tunnel : Nat) (outcome : Outcome)
  | storeReadiness (tunnel : Nat)
  | closeReadiness (tunnel : Nat)
  | finishStart
  | forwardEnd (tunnel : Nat) (err : Option String)
  | storeForward (tunnel : Nat)
  | closeForward (tunnel : Nat)
  | podFailed (tunnel : Nat) (errMsg : String)
  | storeMonitor (tunnel : Nat)
  | closeMonitor (tunnel : Nat)
  | endMonitor (tunnel : Nat)
  | stopOrDelete (isStopRequest : Bool)
  | signal (index : Nat)
  | finish (index : Nat)

section
variable {id : String}

def initial : State id := ⟨none, [], [], none, [], false⟩

def running (entry : Option PortForward) : Bool := entry.any fun p => p.status = .running

def Tunnel.fail (errMsg : String) (t : Tunnel) : Tunnel :=
  { t with
    record := t.record.set .stopped errMsg
    readiness := .storing (t.record.set .stopped errMsg) .close }

/-- The outcome as it is written to the record. An error that is received is not nil. -/
def Tunnel.receive (t : Tunnel) : Outcome → Option Tunnel
  | .ready errOut =>
    if errOut ≠ "" then some (t.fail ("portforward failed, stderr: " ++ errOut))
    else some { t with
      record := t.record.set .running ""
      readiness := .storing (t.record.set .running "") .watch }
  | .forwardErr =>
    match t.forwardErr with
    | none => none
    | some none => some (t.fail "portforward stopped before ready")
    | some (some err) => some (t.fail err)
  | .timeout => some (t.fail "timeout waiting for portforward to be ready")
  | .closed =>
    if t.closed then
      let record := { t.record with
        status := if t.record.status = .running then .stopped else t.record.status
        error := if t.record.error = "" then "portforward stopped before becoming ready" else t.record.error }
      some { t with record, readiness := .storing record .nothing }
    else none

def Tunnel.endForward (err : Option String) (t : Tunnel) : Tunnel :=
  match t.record.forwardEnded err with
  | some snapshot => { t with record := snapshot, forwarding := .storing snapshot err }
  | none => { t with forwarding := .closing }

def Tunnel.failPod (errMsg : String) (t : Tunnel) : Tunnel :=
  { t with record := t.record.set .stopped errMsg, monitor := .storing (t.record.set .stopped errMsg) }

def State.setTunnel (n : Nat) (t : Tunnel) (state : State id) : State id := { state with tunnels := state.tunnels.set n t }

def State.setHandler (index : Nat) (handler : Handler) (state : State id) : State id :=
  { state with handlers := state.handlers.set index handler }

/-- `safeCloseChan`. -/
def State.close (n : Nat) (state : State id) : State id :=
  { state with tunnels := state.tunnels.modify n fun t => { t with closed := true } }

/-- `portforwardstore`. -/
def State.store (p : PortForward) (state : State id) : State id := { state with entry := some p }

/-- A step of a goroutine of a tunnel. -/
def State.atTunnel (n : Nat) (body : Tunnel → Option (State id)) (state : State id) : Option (State id) :=
  (state.tunnels[n]?).bind body

variable (cluster userID : String)

def State.startTunnel (request : StartRequest id) (state : State id) : State id :=
  let n := state.tunnels.length
  { state with
    tunnels := state.tunnels ++
      [⟨newPortForward request.req cluster userID n request.identified, false, .alive, .waiting, .absent, none⟩]
    inFlight := some (.waiting n)
    deleted := false }

def step (state : State id) : Event id → Option (State id)
  | .start request =>
    some (if running state.entry then state else { state with checked := state.checked ++ [request] })
  | .enter index =>
    match state.checked[index]? with
    | none => none
    | some request =>
      let state := { state with checked := state.checked.eraseIdx index }
      some (if state.inFlight.isSome then state else { state with inFlight := some (.preparing request) })
  | .refuse =>
    match state.inFlight with
    | some (.preparing _) => some { state with inFlight := none }
    | _ => none
  | .launch =>
    match state.inFlight with
    | some (.preparing request) =>
      match request.req.validate with
      | .ok () => some (state.startTunnel cluster userID request)
      | .error _ => none
    | _ => none
  | .readiness n outcome => state.atTunnel n fun t =>
    match t.readiness with
    | .waiting => (t.receive outcome).map fun t => state.setTunnel n t
    | _ => none
  | .storeReadiness n => state.atTunnel n fun t =>
    match t.readiness with
    | .storing snapshot .watch =>
      some ((state.store snapshot).setTunnel n { t with readiness := .finished, monitor := .watching })
    | .storing snapshot .close => some ((state.store snapshot).setTunnel n { t with readiness := .closing })
    | .storing snapshot .nothing => some ((state.store snapshot).setTunnel n { t with readiness := .finished })
    | _ => none
  | .closeReadiness n => state.atTunnel n fun t =>
    match t.readiness with
    | .closing => some (state.setTunnel n { t with readiness := .finished, closed := true })
    | _ => none
  | .finishStart =>
    match state.inFlight with
    | some (.waiting n) => state.atTunnel n fun t =>
      match t.readiness with
      | .finished => some { state with inFlight := none }
      | _ => none
    | _ => none
  | .forwardEnd n err => state.atTunnel n fun t =>
    match t.forwarding with
    | .alive => some (state.setTunnel n (t.endForward err))
    | _ => none
  | .storeForward n => state.atTunnel n fun t =>
    match t.forwarding with
    | .storing snapshot err =>
      some ((state.store snapshot).setTunnel n { t with forwarding := .closing, forwardErr := err.map some })
    | _ => none
  | .closeForward n => state.atTunnel n fun t =>
    match t.forwarding with
    | .closing =>
      some (state.setTunnel n { t with forwarding := .finished, closed := true, forwardErr := t.forwardErr.or (some none) })
    | _ => none
  | .podFailed n errMsg => state.atTunnel n fun t =>
    match t.monitor with
    | .watching => some (state.setTunnel n (t.failPod errMsg))
    | _ => none
  | .storeMonitor n => state.atTunnel n fun t =>
    match t.monitor with
    | .storing snapshot => some ((state.store snapshot).setTunnel n { t with monitor := .closing })
    | _ => none
  | .closeMonitor n => state.atTunnel n fun t =>
    match t.monitor with
    | .closing => some (state.setTunnel n { t with monitor := .finished, closed := true })
    | _ => none
  | .endMonitor n => state.atTunnel n fun t =>
    match t.monitor with
    | .watching => if t.closed then some (state.setTunnel n { t with monitor := .finished }) else none
    | _ => none
  | .stopOrDelete isStopRequest =>
    match state.entry with
    | none => some state
    | some copy => some { state with handlers := state.handlers ++ [.got copy isStopRequest] }
  | .signal index =>
    match state.handlers[index]? with
    | some (.got copy isStopRequest) =>
      some ((state.close copy.closeChan).setHandler index (.signalled copy isStopRequest))
    | _ => none
  | .finish index =>
    match state.handlers[index]? with
    | some (.signalled copy isStopRequest) =>
      let state := state.setHandler index .returned
      some (if isStopRequest then state.store { copy with status := .stopped }
        else { state with entry := none, deleted := true })
    | _ => none

end

/-! What should hold of the tunnels. -/

def Tunnel.alive (t : Tunnel) : Bool :=
  match t.forwarding with
  | .alive => true
  | _ => false

/-- The end of `ForwardPorts` has been stored, or is not going to be. -/
def Tunnel.ended (t : Tunnel) : Bool :=
  match t.forwarding with
  | .closing | .finished => true
  | _ => false

/-- The outcome of the start has been stored. -/
def Tunnel.stored (t : Tunnel) : Bool :=
  match t.readiness with
  | .closing | .finished => true
  | _ => false

def Readiness.ending : Readiness → Bool
  | .storing _ .close | .closing => true
  | _ => false

def Monitor.ending : Monitor → Bool
  | .storing _ | .closing => true
  | _ => false

/-- The channel is closed, or a goroutine of the tunnel is about to close it. -/
def Tunnel.ending (t : Tunnel) : Bool := t.closed || t.readiness.ending || t.monitor.ending

def Readiness.watches : Readiness → Bool
  | .storing _ next => next = .watch
  | _ => false

/-- The tunnel that a handler is about to end. -/
def Handler.copied : Handler → Option Nat
  | .got copy _ => some copy.closeChan
  | _ => none

def Handler.stops : Handler → Bool
  | .signalled _ isStopRequest => isStopRequest
  | _ => false

section
variable {id : String} (state : State id)

/-- Nothing is under way for the tunnel but that it forwards and its pod is watched. -/
structure Tunnel.Resting (t : Tunnel) : Prop where
  readiness : t.readiness = .finished
  forwarding : t.forwarding = .alive ∧ t.closed = false ∨ t.forwarding = .finished
  monitor : t.monitor = .absent ∨ t.monitor = .watching ∧ t.closed = false ∨ t.monitor = .finished

structure Quiescent : Prop where
  checked : state.checked = []
  inFlight : state.inFlight = none
  handlers : ∀ handler ∈ state.handlers, handler = .returned
  tunnels : ∀ t ∈ state.tunnels, t.Resting

/-- Something is about to end the tunnel. -/
def Doomed (n : Nat) (t : Tunnel) : Prop :=
  t.ending = true ∨ ∃ copy isStopRequest, Handler.got copy isStopRequest ∈ state.handlers ∧ copy.closeChan = n

/-- A request that finds the entry closes the channel of the tunnel. -/
def Endable (cluster userID : String) (n : Nat) : Prop :=
  ∀ isStopRequest, ∃ after t,
    run (step cluster userID) state [.stopOrDelete isStopRequest, .signal state.handlers.length] = some after ∧
      after.tunnels[n]? = some t ∧ t.closed = true

structure Sound (cluster userID : String) : Prop where
  running : Quiescent state → (running state.entry = true ↔ ∃ t, state.tunnels.getLast? = some t ∧ t.alive = true)
  endable : Quiescent state → ∀ n t, state.tunnels[n]? = some t → t.alive = true → Endable state cluster userID n
  entered : ∀ n t, state.tunnels[n]? = some t → t.alive = true → t.stored = true →
    Doomed state n t ∨ Endable state cluster userID n
  deleted : state.deleted = true → state.entry = none

/-- The most recent tunnel has been entered, it runs, and nothing is about to end it. -/
def Exposed : Prop :=
  ∃ n t, n + 1 = state.tunnels.length ∧ state.tunnels[n]? = some t ∧ t.alive = true ∧ t.stored = true ∧ ¬Doomed state n t

/-- A tunnel that is exposed is neither followed by another nor are its entry deleted or
one stored that says it has stopped; nothing is stored after a delete; and that a tunnel
runs is not stored after it has ended. -/
def Allowed : Event id → Prop
  | .launch => ¬Exposed state
  | .storeForward _ | .storeMonitor _ => ¬Exposed state ∧ state.deleted = false
  | .storeReadiness n => state.deleted = false ∧ ∀ t snapshot, state.tunnels[n]? = some t →
      t.readiness = .storing snapshot .watch → t.ended = false
  | .finish index => ¬Exposed state ∧
      ∀ copy, state.handlers[index]? = some (.signalled copy true) → state.deleted = false
  | _ => True

variable {state}

instance (n : Nat) (t : Tunnel) : Decidable (Doomed state n t) :=
  decidable_of_iff (t.ending = true ∨ ∃ handler ∈ state.handlers, handler.copied = some n) <| by
    refine or_congr_right ⟨?_, ?_⟩
    · rintro ⟨handler, member, is⟩
      cases handler with
      | got copy isStopRequest => exact ⟨copy, isStopRequest, member, Option.some.inj is⟩
      | signalled => cases is
      | returned => cases is
    · rintro ⟨copy, isStopRequest, member, is⟩
      exact ⟨_, member, congrArg some is⟩

instance : Decidable (Exposed state) :=
  decidable_of_iff (∃ t ∈ state.tunnels.getLast?, t.alive = true ∧ t.stored = true ∧ ¬Doomed state (state.tunnels.length - 1) t) <| by
    rw [List.getLast?_eq_getElem?]
    constructor
    · rintro ⟨t, is, holds⟩
      have inside := (List.getElem?_eq_some_iff.mp is).1
      exact ⟨_, t, by omega, is, holds⟩
    · rintro ⟨n, t, last, is, holds⟩
      have here : state.tunnels.length - 1 = n := by omega
      exact ⟨t, by rwa [here], by rwa [here]⟩

instance : ∀ event, Decidable (Allowed state event)
  | .launch => inferInstanceAs (Decidable (¬Exposed state))
  | .storeForward _ | .storeMonitor _ => inferInstanceAs (Decidable (¬Exposed state ∧ state.deleted = false))
  | .storeReadiness n =>
    decidable_of_iff (state.deleted = false ∧ ∀ t ∈ state.tunnels[n]?, t.readiness.watches = true → t.ended = false) <| by
      refine and_congr_right fun _ => ⟨?_, ?_⟩
      · intro holds t snapshot is storing
        exact holds t is (by rw [storing]; rfl)
      · intro holds t is watches
        cases storing : t.readiness with
        | storing snapshot next =>
          rw [storing] at watches
          cases of_decide_eq_true watches
          exact holds t snapshot is storing
        | waiting | closing | finished => rw [storing] at watches; cases watches
  | .finish index =>
    decidable_of_iff (¬Exposed state ∧ (state.handlers[index]?.any Handler.stops = true → state.deleted = false)) <| by
      refine and_congr_right fun _ => ⟨?_, ?_⟩
      · intro holds copy is
        exact holds (by rw [is]; rfl)
      · intro holds stops
        obtain ⟨handler, is, stops⟩ := (Option.any_eq_true _ _).mp stops
        cases handler with
        | signalled copy isStopRequest =>
          subst stops
          exact holds copy is
        | got | returned => cases stops
  | .start _ | .enter _ | .refuse | .readiness _ _ | .closeReadiness _ | .finishStart | .forwardEnd _ _
  | .closeForward _ | .podFailed _ _ | .closeMonitor _ | .endMonitor _ | .stopOrDelete _ | .signal _ => isTrue trivial

end

end K8Sense.Forwarding.Lifecycle
