import K8Sense.Multiplexer.Server

/-! Which stream serves which request. A stream is found by its key, so requests
are kept apart exactly if their keys are. -/

namespace K8Sense.Multiplexer
open Transition

def Message.Request (msg : Message) : Prop := msg.Routable ∧ msg.type = "REQUEST"

def Message.Close (msg : Message) : Prop := msg.Routable ∧ msg.type = "CLOSE"

/-- What the stream has passed on of the messages it read. -/
def Stream.forwarded (stream : Stream) : List (Bool × List UInt8) :=
  let read := match stream.reader with
    | some ⟨_, _, .delivering _⟩ => stream.messages.dropLast
    | _ => stream.messages
  read.map fun message => (message.binary, message.payload)

/-- What its reader has read and not yet passed on. -/
def Stream.inHand (stream : Stream) : List ClusterMessage :=
  match stream.reader with
  | some ⟨_, _, .delivering message⟩ => [message]
  | _ => []

/-- The cluster can still send on the stream: nobody has closed it, and no reader has
met its end. -/
def Stream.Open (stream : Stream) : Prop :=
  stream.connection.closed = false ∧ stream.connection.wsOpen = true ∧
    ∀ reader, stream.reader = some reader → reader.phase = .reading ∨ ∃ message, reader.phase = .delivering message

/-- The reader passes on what it has in hand, and then the next message. -/
def Stream.passing (id : Nat) (message : ClusterMessage) (stream : Stream) : List Event :=
  stream.inHand.map (fun _ => .deliver id) ++ [.read id message, .deliver id]

/-- What a socket gets from the stream on a route. -/
def Stream.share (socket : Nat) (route : Route) (stream : Stream) : List (Bool × List UInt8) :=
  if stream.opener = socket ∧ stream.connection.toRoute = route then stream.forwarded else []

/-- The data that the frames bring on a route. -/
def dataOn (route : Route) (frames : List Frame) : List (Bool × List UInt8) :=
  frames.filterMap (Frame.dataOf route)

/-- Every accepted request is served by a stream of its own socket and route,
its socket got on this route what those streams passed on and nothing else, what the
cluster sends on one of them while it is open comes next, and a CLOSE leaves the streams
of other requests as they are. -/
structure Routed (sent : Nat → Message → Prop) (state : State) : Prop where
  own : ∀ request ∈ state.accepted, ∃ stream, state.streams[request.stream]? = some stream ∧
    stream.opener = request.socket ∧ stream.connection.toRoute = request.message.toRoute
  apart : ∀ request ∈ state.accepted, ∀ other ∈ state.accepted, request.stream = other.stream →
    request.socket = other.socket ∧ request.message.toRoute = other.message.toRoute
  received : ∀ request ∈ state.accepted, state.writable request.socket = true →
    dataOn request.message.toRoute (state.inbox request.socket) =
      state.streams.flatMap (Stream.share request.socket request.message.toRoute)
  upstream : ∀ request ∈ state.accepted, state.writable request.socket = true → ∀ (id : Nat) (stream : Stream),
    state.streams[id]? = some stream → stream.opener = request.socket → stream.connection.toRoute = request.message.toRoute →
      stream.Open → ∀ message, ∃ next, run step state (stream.passing id message) = some next ∧
        dataOn request.message.toRoute (next.inbox request.socket) =
          dataOn request.message.toRoute (state.inbox request.socket) ++
            (stream.inHand ++ [message]).map fun message => (message.binary, message.payload)
  closes : ∀ socket msg cookieErr writeErr next, sent socket msg → msg.Close →
    step state (.receive socket msg cookieErr writeErr) = some next → ∀ request ∈ state.accepted,
      ¬ (request.socket = socket ∧ request.message.toRoute = msg.toRoute) →
        next.streams[request.stream]? = state.streams[request.stream]?

/-- The sockets send nothing else. -/
def Sent (sent : Nat → Message → Prop) : Event → Prop
  | .receive socket msg _ _ => sent socket msg
  | _ => True

/-- No later stream has the key. -/
def Latest (id : Nat) (state : State) : Prop :=
  ∀ stream later other, state.streams[id]? = some stream → id < later → state.streams[later]? = some other →
    other.connection.toRoute.key ≠ stream.connection.toRoute.key

/-- A reader passes on and cleans up only while no later stream has its key, and no
monitor succeeds in dialling a stream again. -/
def Prompt (state : State) : Event → Prop
  | .deliver id | .unlist id => Latest id state
  | .redialed _ outcome => outcome ≠ .connected
  | _ => True

/-- Two messages with one key are of one socket and one route. -/
def KeysApart (sent : Nat → Message → Prop) : Prop :=
  ∀ socket msg other msg', sent socket msg → msg.Request → sent other msg' → msg'.Request ∨ msg'.Close →
    msg.toRoute.key = msg'.toRoute.key → socket = other ∧ msg.toRoute = msg'.toRoute

/-- The reader of a stream writes to the socket the stream was opened for. -/
def Stream.Sound (stream : Stream) : Prop :=
  ∀ reader, stream.reader = some reader → reader.clientConn = stream.opener ∧
    ∀ message, reader.phase = .delivering message → ∃ earlier, stream.messages = earlier ++ [message]

structure Wired (sent : Nat → Message → Prop) (state : State) : Prop where
  listed : ∀ key id, state.connections key = some id →
    ∃ stream, state.streams[id]? = some stream ∧ stream.connection.toRoute.key = key
  opened : ∀ stream ∈ state.streams, ∃ msg, sent stream.opener msg ∧ msg.Request ∧
    msg.toRoute = stream.connection.toRoute
  sound : ∀ stream ∈ state.streams, stream.Sound
  dialing : ∀ socket msg, state.sockets socket = .dialing msg → sent socket msg ∧ msg.Request
  accepted : ∀ request ∈ state.accepted, sent request.socket request.message ∧ request.message.Request ∧
    ∃ stream, state.streams[request.stream]? = some stream ∧
      stream.connection.toRoute.key = request.message.toRoute.key

/-- A socket has got on each route what its streams passed on there. -/
def Received (state : State) : Prop :=
  ∀ socket route, state.writable socket = true →
    dataOn route (state.inbox socket) = state.streams.flatMap (Stream.share socket route)

/-- The stream stands for the same. -/
structure Stream.Same (old new : Stream) : Prop where
  opener : new.opener = old.opener
  route : new.connection.toRoute = old.connection.toRoute
  attended : new.reader.isSome = old.reader.isSome
  sound : old.Sound → new.Sound

/-- Nothing is opened or accepted. -/
structure Steady (state next : State) : Prop where
  length : next.streams.length = state.streams.length
  streams : ∀ (id : Nat) (old new : Stream), state.streams[id]? = some old → next.streams[id]? = some new → old.Same new
  connections : ∀ (key : String) (id : Nat), next.connections key = some id → state.connections key = some id
  sockets : ∀ socket msg, next.sockets socket = .dialing msg → state.sockets socket = .dialing msg
  accepted : next.accepted = state.accepted

/-- Nothing is passed on either. -/
structure Quiet (state next : State) : Prop extends Steady state next where
  forwarded : ∀ (id : Nat) (old new : Stream), state.streams[id]? = some old → next.streams[id]? = some new →
    new.forwarded = old.forwarded
  writable : ∀ socket, next.writable socket = true → state.writable socket = true
  received : ∀ socket route, dataOn route (next.inbox socket) = dataOn route (state.inbox socket)

variable {sent : Nat → Message → Prop} {state next : State}

theorem Stream.Same.refl (stream : Stream) : stream.Same stream := ⟨rfl, rfl, rfl, id⟩

theorem Stream.Same.trans {first middle last : Stream} (before : first.Same middle) (after : middle.Same last) :
    first.Same last :=
  ⟨after.opener.trans before.opener, after.route.trans before.route, after.attended.trans before.attended,
    fun sound => after.sound (before.sound sound)⟩

theorem share_same {old new : Stream} (same : old.Same new) (forwarded : new.forwarded = old.forwarded) (socket : Nat)
    (route : Route) : new.share socket route = old.share socket route := by
  simp only [Stream.share, same.opener, same.route, forwarded]

theorem same_connection (stream : Stream) {connection : Connection}
    (route : connection.toRoute = stream.connection.toRoute) : stream.Same { stream with connection } :=
  ⟨rfl, route, rfl, id⟩

theorem forwarded_idle {stream : Stream} {reader : Reader} (reads : stream.reader = some reader)
    (idle : ∀ message, reader.phase ≠ .delivering message) :
    stream.forwarded = stream.messages.map fun message => (message.binary, message.payload) := by
  obtain ⟨clientConn, version, phase⟩ := reader
  simp only [Stream.forwarded, reads]
  cases phase with
  | delivering message => exact absurd rfl (idle message)
  | _ => rfl

theorem set_cases {streams : List Stream} {id other : Nat} {old new before after : Stream} (found : streams[id]? = some old)
    (held : streams[other]? = some before) (stored : (streams.set id new)[other]? = some after) :
    before = old ∧ after = new ∨ after = before := by
  by_cases here : id = other
  · subst here
    rw [List.getElem?_set_self (List.getElem?_eq_some_iff.mp found).1] at stored
    exact Or.inl ⟨Option.some.inj (held.symm.trans found), (Option.some.inj stored).symm⟩
  · rw [List.getElem?_set_ne here] at stored
    exact Or.inr (Option.some.inj (stored.symm.trans held))

namespace Steady

theorem refl (state : State) : Steady state state where
  length := rfl
  streams id old new before after := by
    obtain rfl := Option.some.inj (before.symm.trans after)
    exact .refl old
  connections _ _ := id
  sockets _ _ := id
  accepted := rfl

theorem forward (steady : Steady state next) {id : Nat} {old : Stream} (found : state.streams[id]? = some old) :
    ∃ new, next.streams[id]? = some new ∧ old.Same new := by
  have inside : id < next.streams.length := by
    have bound := (List.getElem?_eq_some_iff.mp found).1
    have length := steady.length
    omega
  exact ⟨_, List.getElem?_eq_getElem inside, steady.streams id _ _ found (List.getElem?_eq_getElem inside)⟩

theorem backward (steady : Steady state next) {new : Stream} (member : new ∈ next.streams) :
    ∃ old ∈ state.streams, old.Same new := by
  obtain ⟨id, inside, rfl⟩ := List.getElem_of_mem member
  have before : id < state.streams.length := steady.length ▸ inside
  exact ⟨_, List.getElem_mem before,
    steady.streams id _ _ (List.getElem?_eq_getElem before) (List.getElem?_eq_getElem inside)⟩

theorem trans {middle : State} (first : Steady state middle) (last : Steady middle next) : Steady state next where
  length := last.length.trans first.length
  streams id old new before after := by
    obtain ⟨between, found, same⟩ := first.forward before
    exact same.trans (last.streams id between new found after)
  connections key id listed := first.connections key id (last.connections key id listed)
  sockets socket msg dialing := first.sockets socket msg (last.sockets socket msg dialing)
  accepted := last.accepted.trans first.accepted

theorem wired (steady : Steady state next) (wired : Wired sent state) : Wired sent next where
  listed key id listed := by
    obtain ⟨old, found, named⟩ := wired.listed key id (steady.connections key id listed)
    obtain ⟨new, still, same⟩ := steady.forward found
    exact ⟨new, still, by rw [same.route, named]⟩
  opened new member := by
    obtain ⟨old, before, same⟩ := steady.backward member
    rw [same.opener, same.route]
    exact wired.opened old before
  sound new member := by
    obtain ⟨old, before, same⟩ := steady.backward member
    exact same.sound (wired.sound old before)
  dialing socket msg dialing := wired.dialing socket msg (steady.sockets socket msg dialing)
  accepted request member := by
    obtain ⟨origin, kind, old, found, named⟩ := wired.accepted request (steady.accepted ▸ member)
    obtain ⟨new, still, same⟩ := steady.forward found
    exact ⟨origin, kind, new, still, by rw [same.route, named]⟩

theorem set {id : Nat} {old new : Stream} (found : state.streams[id]? = some old) (same : old.Same new) :
    Steady state { state with streams := state.streams.set id new } :=
  { Steady.refl state with
    length := List.length_set
    streams := by
      intro other before after held stored
      rcases set_cases found held stored with ⟨rfl, rfl⟩ | rfl
      · exact same
      · exact .refl _ }

end Steady

namespace Quiet

theorem refl (state : State) : Quiet state state where
  toSteady := .refl state
  forwarded id old new before after := by
    obtain rfl := Option.some.inj (before.symm.trans after)
    rfl
  writable _ := id
  received _ _ := rfl

theorem trans {middle : State} (first : Quiet state middle) (last : Quiet middle next) : Quiet state next where
  toSteady := first.toSteady.trans last.toSteady
  forwarded id old new before after := by
    obtain ⟨between, found, same⟩ := first.toSteady.forward before
    exact (last.forwarded id between new found after).trans (first.forwarded id old between before found)
  writable socket writes := first.writable socket (last.writable socket writes)
  received socket route := (last.received socket route).trans (first.received socket route)

theorem shares (quiet : Quiet state next) (socket : Nat) (route : Route) :
    next.streams.flatMap (Stream.share socket route) = state.streams.flatMap (Stream.share socket route) := by
  simp only [List.flatMap_def]
  congr 1
  apply List.ext_getElem
  · simp [quiet.length]
  · intro id after before
    simp only [List.length_map] at after before
    simp only [List.getElem_map]
    have was := List.getElem?_eq_getElem before
    have is := List.getElem?_eq_getElem after
    exact share_same (quiet.streams id _ _ was is) (quiet.forwarded id _ _ was is) socket route

theorem delivered (quiet : Quiet state next) (received : Received state) : Received next := by
  intro socket route writes
  rw [quiet.received, quiet.shares]
  exact received socket route (quiet.writable socket writes)

theorem set {id : Nat} {old new : Stream} (found : state.streams[id]? = some old) (same : old.Same new)
    (forwarded : new.forwarded = old.forwarded) : Quiet state { state with streams := state.streams.set id new } :=
  { Quiet.refl state with
    toSteady := .set found same
    forwarded := by
      intro other before after held stored
      rcases set_cases found held stored with ⟨rfl, rfl⟩ | rfl
      · exact forwarded
      · rfl }

theorem monitored (quiet : Quiet state next) (monitors : List Monitor) : Quiet state { next with monitors } :=
  ⟨⟨quiet.length, quiet.streams, quiet.connections, quiet.sockets, quiet.accepted⟩,
    quiet.forwarded, quiet.writable, quiet.received⟩

theorem delete (key : String) (state : State) :
    Quiet state { state with connections := Function.update state.connections key none } :=
  { Quiet.refl state with
    connections := by
      intro other id listed
      by_cases same : other = key
      · subst same
        simp at listed
      · simpa [same] using listed }

theorem post {frames : List Frame} (silent : ∀ route, ∀ frame ∈ frames, frame.dataOf route = none) (client : Option Nat)
    (state : State) : Quiet state (post client frames state) := by
  unfold Multiplexer.post
  split
  next => exact .refl state
  next socket =>
    split
    next =>
      refine { Quiet.refl state with received := ?_ }
      intro other route
      dsimp only
      by_cases same : other = socket
      · subst same
        have nothing : dataOn route frames = [] := List.filterMap_eq_nil_iff.mpr (silent route)
        rw [Function.update_self, dataOn, List.filterMap_append]
        unfold dataOn at nothing
        rw [nothing, List.append_nil]
        rfl
      · rw [Function.update_of_ne same]
    next => exact .refl state

theorem change {f : Connection → Connection × List Frame} (administrative : Administrative f) (id : Nat) (state : State) :
    Quiet state (change f id state) := by
  unfold Multiplexer.change
  split
  next => exact .refl state
  next stream found =>
    refine (Quiet.set found (same_connection stream (administrative.route stream.connection)) rfl).trans ?_
    exact .post (administrative.silent stream.connection) _ _

theorem sendClientError (socket : Nat) (route : Route) (err : String) (state : State) :
    Quiet state (sendClientError socket route err state) := by
  apply Quiet.post
  intro other frame member
  obtain rfl := List.mem_singleton.mp member
  rfl

theorem closeConnection (clusterID path userID : String) (state : State) :
    Quiet state (closeConnection clusterID path userID state) := by
  unfold Multiplexer.closeConnection
  dsimp only
  split
  next => exact .refl state
  next =>
    apply Quiet.trans (.delete (createConnectionKey clusterID path userID) state)
    exact (Quiet.change (updateStatus_administrative _ _) _ _).trans (Quiet.change safeClose_administrative _ _)

theorem writeMessageToCluster (id : Nat) (data : String) (writeErr : Option String) (state : State) :
    Quiet state (writeMessageToCluster id data writeErr state) := by
  unfold Multiplexer.writeMessageToCluster
  split
  next => exact .change (updateStatus_administrative _ _) _ _
  next =>
    split
    next => exact .refl state
    next stream found => exact .set found ⟨rfl, rfl, rfl, fun sound => sound⟩ rfl

theorem reportFailure (route : Route) (client : Option Nat) (err : String) (state : State) :
    Quiet state (reportFailure route client err state) :=
  .post ((updateStatus_administrative _ _).silent _) _ _

theorem setPhase {id : Nat} {stream : Stream} {reader : Reader} {phase : ReaderPhase}
    (found : state.streams[id]? = some stream) (reads : stream.reader = some reader)
    (before : ∀ message, reader.phase ≠ .delivering message) (after : ∀ message, phase ≠ .delivering message) :
    Quiet state (setPhase id stream reader phase state) := by
  refine .set found ⟨rfl, rfl, by simp [reads], ?_⟩ ?_
  · intro sound other held
    cases held
    exact ⟨(sound reader reads).1, fun message pending => absurd pending (after message)⟩
  · rw [forwarded_idle reads before, forwarded_idle rfl after]

theorem read {id : Nat} {stream : Stream} {reader : Reader} (message : ClusterMessage)
    (found : state.streams[id]? = some stream) (reads : stream.reader = some reader) (idle : reader.phase = .reading) :
    Quiet state (read id stream reader message state) := by
  refine .set found ⟨rfl, rfl, by simp [reads], ?_⟩ ?_
  · intro sound other held
    cases held
    refine ⟨(sound reader reads).1, ?_⟩
    intro pending delivering
    cases delivering
    exact ⟨stream.messages, rfl⟩
  · rw [forwarded_idle reads (by simp [idle])]
    simp [Stream.forwarded]

theorem closeClientConnections (socket : Nat) (state : State) : Quiet state (closeClientConnections socket state) := by
  have each : ∀ (id : Nat) (old new : Stream), state.streams[id]? = some old →
      (Multiplexer.closeClientConnections socket state).streams[id]? = some new →
        old.Same new ∧ new.forwarded = old.forwarded := by
    intro id old new before after
    simp only [Multiplexer.closeClientConnections, List.getElem?_mapIdx, before, Option.map_some, Option.some.injEq] at after
    subst after
    split
    · exact ⟨same_connection old (abandon_route old.connection), rfl⟩
    · exact ⟨.refl old, rfl⟩
  refine ⟨⟨?_, fun id old new before after => (each id old new before after).1, ?_, fun _ _ => id, rfl⟩,
    fun id old new before after => (each id old new before after).2, fun _ => id, fun _ _ => rfl⟩
  · simp [Multiplexer.closeClientConnections]
  · intro key id listed
    exact (Option.filter_eq_some_iff.mp listed).1

theorem beat (monitor id : Nat) (err : String) (state : State) : Quiet state (beat monitor id err state) := by
  have told := Quiet.change (updateStatus_administrative .error (some ("heartbeat failed: " ++ err))) id state
  unfold Multiplexer.beat
  dsimp only
  split
  next => exact told
  next stream found =>
    split
    next => exact told
    next =>
      have route : ({ stream.connection with wsOpen := false } : Connection).toRoute = stream.connection.toRoute := rfl
      exact told.trans ((Quiet.set found (same_connection stream route) rfl).monitored _)

end Quiet

theorem post_eq (client : Option Nat) (frames : List Frame) (state : State) :
    ∃ inbox, post client frames state = { state with inbox } := by
  unfold post
  split
  next => exact ⟨state.inbox, rfl⟩
  next =>
    split
    next => exact ⟨_, rfl⟩
    next => exact ⟨state.inbox, rfl⟩

@[simp] theorem post_streams (client : Option Nat) (frames : List Frame) (state : State) :
    (post client frames state).streams = state.streams := by
  obtain ⟨inbox, same⟩ := post_eq client frames state
  rw [same]

theorem change_streams (f : Connection → Connection × List Frame) {id other : Nat} (apart : id ≠ other) :
    (change f id state).streams[other]? = state.streams[other]? := by
  unfold change
  split
  next => rfl
  next => rw [post_streams, List.getElem?_set_ne apart]

@[simp] theorem post_writable (client : Option Nat) (frames : List Frame) (state : State) :
    (post client frames state).writable = state.writable := by
  obtain ⟨inbox, same⟩ := post_eq client frames state
  rw [same]

theorem steady_post (client : Option Nat) (frames : List Frame) (state : State) : Steady state (post client frames state) := by
  obtain ⟨inbox, same⟩ := post_eq client frames state
  rw [same]
  exact { Steady.refl state with }

theorem post_data (socket : Nat) (frames : List Frame) (state : State) (other : Nat) (route : Route) :
    dataOn route ((post (some socket) frames state).inbox other) = dataOn route (state.inbox other) ++
      if state.writable socket = true ∧ other = socket then dataOn route frames else [] := by
  unfold post
  by_cases writes : state.writable socket = true
  · by_cases same : other = socket
    · subst same
      simp [writes, dataOn]
    · simp [writes, same]
  · simp [writes]

theorem sendIfNewResourceVersion_silent (conn : Connection) (reader : Reader) (message : ClusterMessage) (route : Route) :
    dataOn route (sendIfNewResourceVersion conn reader message).2 = [] := by
  unfold sendIfNewResourceVersion
  dsimp only
  split
  next => rfl
  next =>
    split
    next => rfl
    next => rfl

theorem shares_set {streams : List Stream} {id socket : Nat} {route : Route} {old new : Stream}
    {more : List (Bool × List UInt8)} (found : streams[id]? = some old)
    (later : ∀ other stream, id < other → streams[other]? = some stream → stream.share socket route = [])
    (grown : new.share socket route = old.share socket route ++ more) :
    (streams.set id new).flatMap (Stream.share socket route) = streams.flatMap (Stream.share socket route) ++ more := by
  induction streams generalizing id with
  | nil => cases found
  | cons first rest ih =>
    cases id with
    | zero =>
      cases found
      have silent : rest.flatMap (Stream.share socket route) = [] := by
        rw [List.flatMap_eq_nil_iff]
        intro stream member
        obtain ⟨index, inside, rfl⟩ := List.getElem_of_mem member
        exact later (index + 1) _ (Nat.succ_pos index) (by simp)
      simp [silent, grown]
    | succ id =>
      have tail := @ih id found (fun other stream after held => later (other + 1) stream (by omega) held)
      simp [tail]

theorem shares_kept {streams : List Stream} {id socket : Nat} {route : Route} {old new : Stream}
    (found : streams[id]? = some old) (kept : new.share socket route = old.share socket route) :
    (streams.set id new).flatMap (Stream.share socket route) = streams.flatMap (Stream.share socket route) := by
  induction streams generalizing id with
  | nil => cases found
  | cons first rest ih =>
    cases id with
    | zero =>
      cases found
      simp [kept]
    | succ id => simp [@ih id found]

section Deliver
variable {id : Nat} {stream : Stream} {reader : Reader} {message : ClusterMessage}

theorem steady_deliver (found : state.streams[id]? = some stream) (reads : stream.reader = some reader) :
    Steady state (deliver id stream reader message state) := by
  unfold deliver
  apply Steady.trans (Steady.set found _) (steady_post _ _ _)
  refine ⟨rfl, rfl, by simp [reads], ?_⟩
  intro sound other held
  cases held
  refine ⟨(sound reader reads).1, ?_⟩
  intro pending delivering
  dsimp only at delivering
  split at delivering <;> cases delivering

private theorem forwarded_pending {earlier : List ClusterMessage} (reads : stream.reader = some reader)
    (phase : reader.phase = .delivering message) (read : stream.messages = earlier ++ [message]) :
    stream.forwarded = earlier.map fun message => (message.binary, message.payload) := by
  obtain ⟨clientConn, version, current⟩ := reader
  cases phase
  simp [Stream.forwarded, reads, read]

private theorem wrapper_data (conn : Connection) (message : ClusterMessage) (route : Route) :
    dataOn route [createWrapperMessage conn message] =
      if conn.toRoute = route then [(message.binary, message.payload)] else [] := by
  by_cases same : conn.toRoute = route <;> simp [dataOn, createWrapperMessage, Frame.dataOf, same]

theorem delivered_deliver (found : state.streams[id]? = some stream) (reads : stream.reader = some reader)
    (phase : reader.phase = .delivering message) (sound : stream.Sound) (latest : Latest id state)
    (received : Received state) : Received (deliver id stream reader message state) := by
  obtain ⟨client, pending⟩ := sound reader reads
  obtain ⟨earlier, read⟩ := pending message phase
  have silent := sendIfNewResourceVersion_silent stream.connection reader message
  intro socket route writes
  simp only [deliver, post_writable] at writes
  simp only [deliver, post_streams, post_data]
  have told : dataOn route ((sendIfNewResourceVersion stream.connection reader message).2 ++
      [createWrapperMessage stream.connection message]) =
        if stream.connection.toRoute = route then [(message.binary, message.payload)] else [] := by
    rw [dataOn, List.filterMap_append, ← dataOn, ← dataOn, silent, wrapper_data, List.nil_append]
  rw [received socket route writes, told, client]
  by_cases mine : stream.opener = socket ∧ stream.connection.toRoute = route
  · obtain ⟨rfl, rfl⟩ := mine
    simp only [writes, and_self, if_true]
    refine (shares_set found ?_ ?_).symm
    · intro later other after held
      have apart : other.connection.toRoute ≠ stream.connection.toRoute := by
        intro same
        exact latest stream later other found after held (by rw [same])
      simp [Stream.share, apart]
    · simp only [Stream.share, and_self, if_true]
      rw [forwarded_pending reads phase read, forwarded_idle rfl (by simp), read, List.map_append]
      rfl
  · have nothing : (if state.writable stream.opener = true ∧ socket = stream.opener then
        if stream.connection.toRoute = route then [(message.binary, message.payload)] else [] else []) = [] := by
      by_cases there : socket = stream.opener
      · have elsewhere : stream.connection.toRoute ≠ route := fun same => mine ⟨there.symm, same⟩
        simp [elsewhere]
      · simp [there]
    rw [nothing, List.append_nil]
    refine (shares_kept found ?_).symm
    simp [Stream.share, mine]

end Deliver

/-- The state with a stream opened, before its client is told. -/
private def opened (new : Stream) (monitors : List Monitor) (state : State) : State :=
  { state with
    connections := Function.update state.connections new.connection.toRoute.key (some state.streams.length)
    streams := state.streams ++ [new]
    monitors }

private theorem append_found {streams : List Stream} {id : Nat} {stream : Stream} (new : Stream)
    (found : streams[id]? = some stream) : (streams ++ [new])[id]? = some stream := by
  rw [List.getElem?_append_left (List.getElem?_eq_some_iff.mp found).1]
  exact found

private theorem wired_opened {new : Stream} {msg : Message} (origin : sent new.opener msg) (request : msg.Request)
    (routed : msg.toRoute = new.connection.toRoute) (sound : new.Sound) (monitors : List Monitor)
    (wired : Wired sent state) : Wired sent (opened new monitors state) where
  listed key id listed := by
    dsimp only [opened] at listed ⊢
    by_cases same : key = new.connection.toRoute.key
    · rw [same, Function.update_self] at listed
      cases listed
      exact ⟨new, by simp, same.symm⟩
    · rw [Function.update_of_ne same] at listed
      obtain ⟨stream, found, named⟩ := wired.listed key id listed
      exact ⟨stream, append_found new found, named⟩
  opened stream member := by
    rcases List.mem_append.mp member with old | added
    · exact wired.opened stream old
    · obtain rfl := List.mem_singleton.mp added
      exact ⟨msg, origin, request, routed⟩
  sound stream member := by
    rcases List.mem_append.mp member with old | added
    · exact wired.sound stream old
    · obtain rfl := List.mem_singleton.mp added
      exact sound
  dialing := wired.dialing
  accepted accepted member := by
    obtain ⟨origin, kind, stream, found, named⟩ := wired.accepted accepted member
    exact ⟨origin, kind, stream, append_found new found, named⟩

private theorem received_opened {new : Stream} (nothing : new.forwarded = []) (monitors : List Monitor)
    (received : Received state) : Received (opened new monitors state) := by
  intro socket route writes
  have none : new.share socket route = [] := by simp [Stream.share, nothing]
  simp only [opened, List.flatMap_append, List.flatMap_singleton, none, List.append_nil]
  exact received socket route writes

section Establish
variable {route : Route} {opener : Nat} {reader : Option Reader}

/-- The connection of a request that was dialled, its first stream included. -/
private def fresh (route : Route) (client : Option Nat) (opener : Nat) (reader : Option Reader) : Stream :=
  ⟨((createConnection route client).updateStatus .connected none).1, reader, opener, [], []⟩

private theorem fresh_route (client : Option Nat) : (fresh route client opener reader).connection.toRoute = route :=
  (updateStatus_administrative .connected none).route _

private theorem establish_quiet (client : Option Nat) (state : State) :
    Quiet (opened (fresh route client opener reader) (state.monitors ++ [Monitor.watching state.streams.length]) state)
      (establish route client opener reader state) := by
  have silent := (updateStatus_administrative .connected none).silent (createConnection route client)
  unfold opened
  rw [fresh_route]
  exact Quiet.post silent client _

private theorem fresh_sound (sound : ∀ held, reader = some held → held.clientConn = opener ∧ held.phase = .reading)
    (client : Option Nat) : (fresh route client opener reader).Sound := by
  intro held same
  obtain ⟨mine, idle⟩ := sound held same
  refine ⟨mine, ?_⟩
  intro message delivering
  exact absurd (idle.symm.trans delivering) (by simp)

theorem wired_establish {msg : Message} (origin : sent opener msg) (request : msg.Request) (routed : msg.toRoute = route)
    (client : Option Nat) (sound : ∀ held, reader = some held → held.clientConn = opener ∧ held.phase = .reading)
    (wired : Wired sent state) : Wired sent (establish route client opener reader state) := by
  apply (establish_quiet client state).toSteady.wired
  exact wired_opened origin request (routed.trans (fresh_route client).symm) (fresh_sound sound client) _ wired

theorem received_establish (route : Route) (client : Option Nat)
    (sound : ∀ held, reader = some held → held.clientConn = opener ∧ held.phase = .reading) (received : Received state) :
    Received (establish route client opener reader state) := by
  apply (establish_quiet client state).delivered
  apply received_opened
  · cases reader with
    | none => rfl
    | some held =>
      rw [forwarded_idle rfl (by simp [(sound held rfl).2])]
      rfl
  · exact received

end Establish

theorem establish_found (route : Route) (client : Option Nat) (opener : Nat) (reader : Option Reader) (state : State) :
    ∃ stream, (establish route client opener reader state).streams[state.streams.length]? = some stream ∧
      stream.connection.toRoute = route :=
  ⟨fresh route client opener reader, by simp [establish, fresh], fresh_route client⟩

def Attended (state : State) : Prop := ∀ stream ∈ state.streams, stream.reader.isSome = true

theorem Steady.attended (steady : Steady state next) (attended : Attended state) : Attended next := by
  intro new member
  obtain ⟨old, before, same⟩ := steady.backward member
  rw [same.attended]
  exact attended old before

theorem attended_establish (route : Route) (client : Option Nat) (opener : Nat) (reader : Reader)
    (attended : Attended state) : Attended (establish route client opener (some reader) state) := by
  intro stream member
  simp only [establish, post_streams, List.mem_append, List.mem_singleton] at member
  rcases member with old | rfl
  · exact attended stream old
  · rfl

structure Steered (sent : Nat → Message → Prop) (state : State) : Prop where
  wired : Wired sent state
  received : Received state
  attended : Attended state

theorem Quiet.steered (quiet : Quiet state next) (steered : Steered sent state) : Steered sent next :=
  ⟨quiet.toSteady.wired steered.wired, quiet.delivered steered.received, quiet.toSteady.attended steered.attended⟩

theorem steered_accept {socket id : Nat} {msg : Message} {stream : Stream} (origin : sent socket msg) (request : msg.Request)
    (found : state.streams[id]? = some stream) (named : stream.connection.toRoute.key = msg.toRoute.key)
    (writeErr : Option String) (steered : Steered sent state) : Steered sent (acceptRequest socket msg id writeErr state) := by
  obtain ⟨wired, received, attended⟩ := steered
  have accepted : Steered sent { state with accepted := state.accepted ++ [⟨socket, msg, id⟩] } := by
    refine ⟨⟨wired.listed, wired.opened, wired.sound, wired.dialing, ?_⟩, received, attended⟩
    intro other member
    rcases List.mem_append.mp member with old | added
    · exact wired.accepted other old
    · obtain rfl := List.mem_singleton.mp added
      exact ⟨origin, request, stream, found, named⟩
  unfold acceptRequest
  dsimp only
  rw [found]
  dsimp only
  split
  · exact (Quiet.writeMessageToCluster id msg.data writeErr _).steered accepted
  · exact accepted

theorem quiet_settle (socket : Nat) {status : Socket} (settled : ∀ msg, status ≠ .dialing msg) (state : State) :
    Quiet state { state with sockets := Function.update state.sockets socket status } := by
  refine { Quiet.refl state with toSteady := { Steady.refl state with sockets := ?_ } }
  intro other msg dialing
  dsimp only at dialing
  by_cases same : other = socket
  · subst same
    rw [Function.update_self] at dialing
    exact absurd dialing (settled msg)
  · rwa [Function.update_of_ne same] at dialing

theorem quiet_hangUp (socket : Nat) (state : State) :
    Quiet state { state with writable := Function.update state.writable socket false } := by
  refine { Quiet.refl state with writable := ?_ }
  intro other writes
  dsimp only at writes
  by_cases same : other = socket
  · subst same
    simp at writes
  · rwa [Function.update_of_ne same] at writes

theorem steered_initial (sent : Nat → Message → Prop) : Steered sent NewMultiplexer := by
  refine ⟨⟨?_, ?_, ?_, ?_, ?_⟩, ?_, ?_⟩ <;> simp [NewMultiplexer, Received, Attended, dataOn]

theorem steered_process {socket : Nat} {msg : Message} (origin : sent socket msg) (routable : msg.Routable)
    (cookieErr writeErr : Option String) (steered : Steered sent state) :
    Steered sent (processClientMessage socket msg cookieErr writeErr state) := by
  unfold processClientMessage
  split
  next => exact (Quiet.closeConnection _ _ _ _).steered steered
  next =>
    split
    next => exact (Quiet.sendClientError _ _ _ _).steered steered
    next type =>
      have request : msg.Request := ⟨routable, not_not.mp type⟩
      split
      next => exact (Quiet.sendClientError _ _ _ _).steered steered
      next =>
        split
        next id listed =>
          obtain ⟨stream, found, named⟩ := steered.wired.listed _ id listed
          exact steered_accept origin request found named writeErr steered
        next =>
          obtain ⟨wired, received, attended⟩ := steered
          refine ⟨⟨wired.listed, wired.opened, wired.sound, ?_, wired.accepted⟩, received, attended⟩
          intro other pending dialing
          dsimp only at dialing
          by_cases same : other = socket
          · subst same
            rw [Function.update_self] at dialing
            cases dialing
            exact ⟨origin, request⟩
          · rw [Function.update_of_ne same] at dialing
            exact wired.dialing other pending dialing

theorem steered_dialed {socket : Nat} {msg : Message} (dialing : state.sockets socket = .dialing msg) (outcome : Dialed)
    (writeErr : Option String) (steered : Steered sent state) : Steered sent (dialed socket msg outcome writeErr state) := by
  obtain ⟨origin, request⟩ := steered.wired.dialing socket msg dialing
  have settled : ∀ msg, Socket.idle ≠ .dialing msg := by simp
  have idle := (quiet_settle socket settled state).steered steered
  unfold dialed
  cases outcome with
  | refused err => exact (Quiet.sendClientError _ _ _ _).steered idle
  | failed err => exact ((Quiet.reportFailure _ _ _ _).trans (Quiet.sendClientError _ _ _ _)).steered idle
  | connected =>
    have sound : ∀ held, some (⟨socket, "", .reading⟩ : Reader) = some held → held.clientConn = socket ∧ held.phase = .reading := by
      rintro held ⟨⟩
      exact ⟨rfl, rfl⟩
    have established : Steered sent (establish msg.toRoute (some socket) socket (some ⟨socket, "", .reading⟩) _) :=
      ⟨wired_establish origin request rfl (some socket) sound idle.wired,
        received_establish msg.toRoute (some socket) sound idle.received, attended_establish _ _ _ _ idle.attended⟩
    obtain ⟨stream, found, routed⟩ := establish_found msg.toRoute (some socket) socket (some ⟨socket, "", .reading⟩)
      { state with sockets := Function.update state.sockets socket .idle }
    exact steered_accept origin request found (by rw [routed]) writeErr established

theorem steered_redialed {monitor id : Nat} {client : Option Nat} {stream : Stream} {outcome : Dialed}
    (again : outcome ≠ .connected) (steered : Steered sent state) :
    Steered sent (redialed monitor id client stream outcome state) := by
  have monitored := fun monitors => ((Quiet.refl state).monitored monitors).steered steered
  unfold redialed
  cases outcome with
  | refused err => exact monitored _
  | failed err => exact (Quiet.reportFailure _ _ _ _).steered (monitored _)
  | connected => exact absurd rfl again

theorem steered_step {event : Event} (steered : Steered sent state) (origin : Sent sent event) (prompt : Prompt state event)
    (taken : step state event = some next) : Steered sent next := by
  cases step_takes taken with
  | received routable => exact steered_process origin routable _ _ steered
  | ignored => exact steered
  | dialed dialing => exact steered_dialed dialing _ _ steered
  | read held reads phase => exact (Quiet.read _ held reads phase).steered steered
  | deliver held reads phase =>
    have sound := steered.wired.sound _ (List.mem_of_getElem? held)
    exact ⟨(steady_deliver held reads).wired steered.wired, delivered_deliver held reads phase sound prompt steered.received,
      (steady_deliver held reads).attended steered.attended⟩
  | leave held reads phase => exact (Quiet.setPhase held reads (by simp [phase]) (by simp)).steered steered
  | shut held reads phase =>
    apply ((Quiet.setPhase held reads ?_ ?_).trans (Quiet.change safeClose_administrative _ _)).steered steered
    · simp [phase]
    · simp
  | unlist held reads phase =>
    exact ((Quiet.delete _ state).trans (Quiet.setPhase held reads (by simp [phase]) (by simp))).steered steered
  | beat => exact (Quiet.beat _ _ _ state).steered steered
  | redialed => exact steered_redialed prompt steered
  | stop => exact (((Quiet.refl state).monitored _).trans (Quiet.change (updateStatus_administrative _ _) _ _)).steered steered
  | hangUp => exact (quiet_hangUp _ state).steered steered
  | disconnect =>
    have gone : ∀ msg, Socket.gone ≠ .dialing msg := by simp
    exact (((quiet_settle _ gone state).trans (quiet_hangUp _ _)).trans (Quiet.closeClientConnections _ _)).steered steered

theorem closeConnection_streams {clusterID path userID : String} {id : Nat}
    (other : state.connections (createConnectionKey clusterID path userID) ≠ some id) :
    (closeConnection clusterID path userID state).streams[id]? = state.streams[id]? := by
  unfold closeConnection
  dsimp only
  split
  next => rfl
  next closed listed =>
    have apart : closed ≠ id := fun same => other (same ▸ listed)
    rw [change_streams _ apart, change_streams _ apart]

section Upstream
variable {id : Nat} {stream : Stream} {reader : Reader} {message : ClusterMessage}

/-- The stream once the message in its reader's hand has been passed on. -/
private def passed (stream : Stream) (reader : Reader) (message : ClusterMessage) : Stream :=
  { stream with
    reader := some
      { reader with
        lastResourceVersion := (sendIfNewResourceVersion stream.connection reader message).1
        phase := .reading } }

theorem deliver_reaches (found : state.streams[id]? = some stream) (reads : stream.reader = some reader)
    (phase : reader.phase = .delivering message) (writes : state.writable reader.clientConn = true) :
    ∃ next, step state (.deliver id) = some next ∧ next.streams[id]? = some (passed stream reader message) ∧
      next.writable = state.writable ∧
      dataOn stream.connection.toRoute (next.inbox reader.clientConn) =
        dataOn stream.connection.toRoute (state.inbox reader.clientConn) ++ [(message.binary, message.payload)] := by
  have inside := (List.getElem?_eq_some_iff.mp found).1
  refine ⟨deliver id stream reader message state, ?_, ?_, ?_, ?_⟩
  · simp [step, readerOf, found, reads, phase]
  · simp only [deliver, post_streams, writes, if_true, passed]
    exact List.getElem?_set_self inside
  · simp [deliver]
  · have silent := sendIfNewResourceVersion_silent stream.connection reader message stream.connection.toRoute
    simp only [deliver, post_data, writes, and_self, if_true]
    rw [dataOn, dataOn, List.filterMap_append, ← dataOn, ← dataOn, ← dataOn, silent, wrapper_data, if_pos rfl, List.nil_append]

theorem read_reaches (found : state.streams[id]? = some stream) (reads : stream.reader = some reader)
    (idle : reader.phase = .reading) (connected : stream.connection.wsOpen = true)
    (writes : state.writable reader.clientConn = true) (message : ClusterMessage) :
    ∃ next, run step state [.read id message, .deliver id] = some next ∧
      dataOn stream.connection.toRoute (next.inbox reader.clientConn) =
        dataOn stream.connection.toRoute (state.inbox reader.clientConn) ++ [(message.binary, message.payload)] := by
  have inside := (List.getElem?_eq_some_iff.mp found).1
  have taken : step state (.read id message) = some (read id stream reader message state) := by
    simp [step, readerOf, found, reads, idle, connected]
  have held : (read id stream reader message state).streams[id]? = _ := List.getElem?_set_self inside
  obtain ⟨next, delivered, -, -, reached⟩ := deliver_reaches held rfl rfl writes
  refine ⟨next, ?_, reached⟩
  rw [run_cons, taken]
  simp only [Option.bind_some, run_cons, delivered, run_nil]

theorem passing_reaches (attended : Attended state) (sound : stream.Sound) (found : state.streams[id]? = some stream)
    (isOpen : stream.Open) (writes : state.writable stream.opener = true) (message : ClusterMessage) :
    ∃ next, run step state (stream.passing id message) = some next ∧
      dataOn stream.connection.toRoute (next.inbox stream.opener) =
        dataOn stream.connection.toRoute (state.inbox stream.opener) ++
          (stream.inHand ++ [message]).map fun message => (message.binary, message.payload) := by
  obtain ⟨reader, reads⟩ := Option.isSome_iff_exists.mp (attended stream (List.mem_of_getElem? found))
  obtain ⟨-, connected, loops⟩ := isOpen
  obtain ⟨mine, -⟩ := sound reader reads
  rw [← mine] at writes ⊢
  rcases loops reader reads with idle | ⟨pending, phase⟩
  · have empty : stream.inHand = [] := by
      obtain ⟨clientConn, version, current⟩ := reader
      cases idle
      simp [Stream.inHand, reads]
    rw [Stream.passing, empty]
    exact read_reaches found reads idle connected writes message
  · have one : stream.inHand = [pending] := by
      obtain ⟨clientConn, version, current⟩ := reader
      cases phase
      simp [Stream.inHand, reads]
    obtain ⟨middle, delivered, still, writable, first⟩ := deliver_reaches found reads phase writes
    have unclosed : middle.writable reader.clientConn = true := by rw [writable]; exact writes
    obtain ⟨next, ran, last⟩ := read_reaches still rfl rfl connected unclosed message
    refine ⟨next, ?_, ?_⟩
    · rw [Stream.passing, one, List.map_singleton, List.singleton_append, run_cons, delivered]
      exact ran
    · rw [one, List.map_append, ← List.append_assoc, List.map_singleton, List.map_singleton, ← first]
      exact last

end Upstream

theorem routed_of_steered (apart : KeysApart sent) (steered : Steered sent state) : Routed sent state := by
  have own : ∀ request ∈ state.accepted, ∃ stream, state.streams[request.stream]? = some stream ∧
      stream.opener = request.socket ∧ stream.connection.toRoute = request.message.toRoute := by
    intro request member
    obtain ⟨origin, kind, stream, found, named⟩ := steered.wired.accepted request member
    obtain ⟨msg, opened, dialled, routed⟩ := steered.wired.opened stream (List.mem_of_getElem? found)
    obtain ⟨socket, route⟩ := apart _ msg _ request.message opened dialled origin (Or.inl kind) (by rw [routed, named])
    exact ⟨stream, found, socket, routed.symm.trans route⟩
  refine ⟨own, ?_, ?_, ?_, ?_⟩
  · intro request member other member' same
    obtain ⟨stream, found, socket, route⟩ := own request member
    obtain ⟨stream', found', socket', route'⟩ := own other member'
    rw [same] at found
    obtain rfl := Option.some.inj (found.symm.trans found')
    exact ⟨socket.symm.trans socket', route.symm.trans route'⟩
  · exact fun request _ writes => steered.received request.socket request.message.toRoute writes
  · intro request member writes id stream found socket route isOpen message
    rw [← socket] at writes ⊢
    rw [← route]
    exact passing_reaches steered.attended (steered.wired.sound stream (List.mem_of_getElem? found)) found isOpen writes message
  · intro socket msg cookieErr writeErr next origin close taken request member different
    cases step_takes taken with
    | ignored => rfl
    | received =>
      unfold processClientMessage
      rw [if_pos close.2]
      apply closeConnection_streams
      intro listed
      obtain ⟨sentOwn, kind, stream, found, named⟩ := steered.wired.accepted request member
      obtain ⟨stream', found', named'⟩ := steered.wired.listed _ _ listed
      obtain rfl := Option.some.inj (found.symm.trans found')
      exact different (apart _ request.message _ msg sentOwn kind origin (Or.inr close) (named.symm.trans named'))

/-- The multiplexer after one request, dialled without a failure. -/
private def served (socket : Nat) (msg : Message) : State :=
  dialed socket msg .connected none
    { NewMultiplexer with sockets := Function.update NewMultiplexer.sockets socket (.dialing msg) }

private theorem run_served (socket : Nat) {msg : Message} (request : msg.Request) :
    run step NewMultiplexer [.receive socket msg none none, .dialed socket .connected none] = some (served socket msg) := by
  obtain ⟨routable, type⟩ := request
  simp [step, processClientMessage, routable, type, NewMultiplexer, served]

/-- The stream of the one request. -/
private def first (socket : Nat) (msg : Message) : Stream where
  connection := { toRoute := msg.toRoute, state := .connected, error := "", client := some socket, closed := false, wsOpen := true }
  reader := some ⟨socket, "", .reading⟩
  opener := socket
  messages := []
  sent := [msg.data]

private theorem served_streams (socket : Nat) (msg : Message) : (served socket msg).streams = [first socket msg] := by
  simp [served, dialed, acceptRequest, establish, NewMultiplexer, createConnection, Connection.updateStatus,
    writeMessageToCluster, post, first]

private theorem served_accepted (socket : Nat) (msg : Message) : (served socket msg).accepted = [⟨socket, msg, 0⟩] := by
  simp [served, dialed, acceptRequest, establish, NewMultiplexer, createConnection, Connection.updateStatus,
    writeMessageToCluster, post]

private theorem served_connections (socket : Nat) (msg : Message) : (served socket msg).connections msg.toRoute.key = some 0 := by
  simp [served, dialed, acceptRequest, establish, NewMultiplexer, createConnection, Connection.updateStatus,
    writeMessageToCluster, post]

private theorem served_sockets (socket : Nat) (msg : Message) (other : Nat) : (served socket msg).sockets other = .idle := by
  simp [served, dialed, acceptRequest, establish, NewMultiplexer, createConnection, Connection.updateStatus,
    writeMessageToCluster, post]

theorem acceptRequest_accepted (socket : Nat) (msg : Message) (id : Nat) (writeErr : Option String) (state : State) :
    (acceptRequest socket msg id writeErr state).accepted = state.accepted ++ [⟨socket, msg, id⟩] := by
  unfold acceptRequest
  dsimp only
  split
  next => rfl
  next =>
    split
    next => exact (Quiet.writeMessageToCluster _ _ _ _).accepted
    next => rfl

private theorem request_shares (socket other : Nat) {msg msg' : Message} (request : msg'.Request)
    (named : msg.toRoute.key = msg'.toRoute.key) :
    ∃ last, step (served socket msg) (.receive other msg' none none) = some last ∧
      last.accepted = [⟨socket, msg, 0⟩, ⟨other, msg', 0⟩] := by
  obtain ⟨routable, type⟩ := request
  refine ⟨acceptRequest other msg' 0 none (served socket msg), ?_, ?_⟩
  · have listed : (served socket msg).connections msg'.toRoute.key = some 0 := by
      rw [← named, served_connections]
    simp [step, served_sockets, routable, processClientMessage, type, listed]
  · rw [acceptRequest_accepted, served_accepted]
    rfl

private theorem close_ends (socket other : Nat) {msg msg' : Message} (close : msg'.Close)
    (named : msg.toRoute.key = msg'.toRoute.key) :
    ∃ last, step (served socket msg) (.receive other msg' none none) = some last ∧
      last.streams[0]? ≠ (served socket msg).streams[0]? := by
  obtain ⟨routable, type⟩ := close
  have listed : (served socket msg).connections (createConnectionKey msg'.clusterID msg'.path msg'.userID) = some 0 := by
    have same := served_connections socket msg
    rw [named] at same
    exact same
  refine ⟨closeConnection msg'.clusterID msg'.path msg'.userID (served socket msg), ?_, ?_⟩
  · simp [step, served_sockets, routable, processClientMessage, type]
  · simp [closeConnection, listed, change, served_streams, first, Connection.updateStatus, Connection.safeClose]

/-- Requests are routed in every run exactly if no two of the messages sent, one
a REQUEST and one a REQUEST or CLOSE, share a key without being of one socket
and one route. -/
theorem requests_routed_iff (sent : Nat → Message → Prop) :
    (∀ events last, Meets step (fun state event => Sent sent event ∧ Prompt state event) NewMultiplexer events →
      run step NewMultiplexer events = some last → Routed sent last) ↔ KeysApart sent := by
  constructor
  · intro routed socket msg other msg' origin request origin' kind named
    have ran := run_served socket request
    have allowed : ∀ event ∈ [Event.receive socket msg none none, .dialed socket .connected none], ∀ state,
        Sent sent event ∧ Prompt state event := by
      simp [Sent, Prompt, origin]
    rcases kind with again | close
    · obtain ⟨last, taken, accepted⟩ := request_shares socket other again named
      have whole : run step NewMultiplexer ([Event.receive socket msg none none, Event.dialed socket .connected none] ++
          [Event.receive other msg' none none]) = some last := by
        rw [run_snoc, ran]
        exact taken
      have shared := routed _ last (meets_of_forall ?_ NewMultiplexer) whole
      · exact shared.apart ⟨socket, msg, 0⟩ (by simp [accepted]) ⟨other, msg', 0⟩ (by simp [accepted]) rfl
      · intro event member
        rcases List.mem_append.mp member with before | after
        · exact allowed event before
        · obtain rfl := List.mem_singleton.mp after
          exact fun _ => ⟨origin', trivial⟩
    · have alone := routed _ _ (meets_of_forall allowed NewMultiplexer) ran
      obtain ⟨last, taken, ended⟩ := close_ends socket other close named
      by_contra different
      apply ended
      apply alone.closes other msg' none none last origin' close taken ⟨socket, msg, 0⟩
      · simp [served_accepted]
      · exact different
  · intro apart events last meets ran
    apply routed_of_steered apart
    refine invariant (Steered sent) ?_ (steered_initial sent) meets ran
    exact fun state event next held allowed taken => steered_step held allowed.1 allowed.2 taken

/-- A request for the pods of a cluster. -/
private def watchPods (query : String) : Message := ⟨⟨"c", "/api/v1/pods", query, "ada"⟩, "", "REQUEST"⟩

/-- A watch with another query is given the stream of the first. -/
theorem query_shares_stream : ¬ ∀ (sent : Nat → Message → Prop) (events : List Event) (last : State),
    (∀ event ∈ events, Sent sent event) → run step NewMultiplexer events = some last → Routed sent last := by
  intro routed
  have first : (watchPods "labelSelector=app=a").Request := ⟨by decide, rfl⟩
  have second : (watchPods "labelSelector=app=b").Request := ⟨by decide, rfl⟩
  obtain ⟨last, taken, accepted⟩ := request_shares 0 0 second
    (rfl : (watchPods "labelSelector=app=a").toRoute.key = (watchPods "labelSelector=app=b").toRoute.key)
  have ran : run step NewMultiplexer ([Event.receive 0 (watchPods "labelSelector=app=a") none none, Event.dialed 0 .connected none] ++
      [Event.receive 0 (watchPods "labelSelector=app=b") none none]) = some last := by
    rw [run_snoc, run_served 0 first]
    exact taken
  have shared := (routed (fun _ _ => True) _ last ?_ ran).apart ⟨0, watchPods "labelSelector=app=a", 0⟩ (by simp [accepted])
    ⟨0, watchPods "labelSelector=app=b", 0⟩ (by simp [accepted]) rfl
  · exact absurd shared.2 (by decide)
  · intro event _
    cases event <;> trivial

end K8Sense.Multiplexer
