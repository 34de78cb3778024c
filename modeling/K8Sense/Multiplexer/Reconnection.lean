import K8Sense.Multiplexer.Routing

/-! What becomes of a stream whose connection is dialled again. The goroutine that
reads a connection is started by the request that opened it, and by nothing else. -/

namespace K8Sense.Multiplexer
open Transition

/-- A stream that its client gets the messages of: it has a reader in its loop, it is
the entry of its key, and what the cluster sends can be passed on. -/
structure Alive (state : State) (id : Nat) : Prop where
  read : ∃ stream reader, readerOf id state = some (stream, reader) ∧
    reader.phase ≠ .leaving ∧ reader.phase ≠ .unlisting ∧ reader.phase ≠ .finished
  listed : ∃ stream, state.streams[id]? = some stream ∧ state.connections stream.connection.toRoute.key = some id
  forwarded : ∀ message : ClusterMessage, ∃ events next stream, run step state events = some next ∧
    next.streams[id]? = some stream ∧ (message.binary, message.payload) ∈ stream.forwarded

/-- The client has not closed the stream. -/
def Open (state : State) (id : Nat) : Prop :=
  ∃ stream, state.streams[id]? = some stream ∧ stream.connection.closed = false

def Unread (state : State) (id : Nat) : Prop :=
  ∃ stream, state.streams[id]? = some stream ∧ stream.reader = none ∧ stream.messages = []

/-- The reader of a stream and what it has read are the same. -/
def SameReader (id : Nat) (state next : State) : Prop :=
  ∀ old, state.streams[id]? = some old → ∃ new, next.streams[id]? = some new ∧ new.reader = old.reader ∧
    new.messages = old.messages

variable {state middle next : State} {id : Nat}

namespace SameReader

theorem refl (state : State) : SameReader id state state := fun old found => ⟨old, found, rfl, rfl⟩

theorem trans (first : SameReader id state middle) (last : SameReader id middle next) : SameReader id state next := by
  intro old found
  obtain ⟨between, there, reader, messages⟩ := first old found
  obtain ⟨new, final, reader', messages'⟩ := last between there
  exact ⟨new, final, reader'.trans reader, messages'.trans messages⟩

theorem of_streams (same : next.streams = state.streams) : SameReader id state next :=
  fun old found => ⟨old, same ▸ found, rfl, rfl⟩

theorem onwards (kept : SameReader id middle next) (same : middle.streams = state.streams) : SameReader id state next :=
  (of_streams same).trans kept

theorem set {place : Nat} {old : Stream} (new : Stream) (found : state.streams[place]? = some old)
    (same : place = id → new.reader = old.reader ∧ new.messages = old.messages)
    (streams : next.streams = state.streams.set place new) : SameReader id state next := by
  intro before there
  rw [streams]
  by_cases here : place = id
  · subst here
    cases found.symm.trans there
    exact ⟨new, List.getElem?_set_self (List.getElem?_eq_some_iff.mp found).1, same rfl⟩
  · exact ⟨before, (List.getElem?_set_ne here).trans there, rfl, rfl⟩

theorem append (new : Stream) (streams : next.streams = state.streams ++ [new]) : SameReader id state next := by
  intro old found
  rw [streams]
  exact ⟨old, (List.getElem?_append_left (List.getElem?_eq_some_iff.mp found).1).trans found, rfl, rfl⟩

theorem post (client : Option Nat) (frames : List Frame) (state : State) : SameReader id state (post client frames state) := by
  unfold Multiplexer.post
  split
  next => exact refl state
  next =>
    split
    next => exact of_streams rfl
    next => exact refl state

theorem change (f : Connection → Connection × List Frame) (place : Nat) (state : State) :
    SameReader id state (change f place state) := by
  unfold Multiplexer.change
  split
  next => exact refl state
  next stream found => exact (set { stream with connection := (f stream.connection).1 } found (fun _ => ⟨rfl, rfl⟩) rfl).trans (post _ _ _)

theorem closeConnection (clusterID path userID : String) (state : State) :
    SameReader id state (closeConnection clusterID path userID state) := by
  unfold Multiplexer.closeConnection
  dsimp only
  split
  next => exact refl state
  next => exact ((change _ _ _).trans (change _ _ _)).onwards rfl

theorem writeMessageToCluster (place : Nat) (data : String) (writeErr : Option String) (state : State) :
    SameReader id state (writeMessageToCluster place data writeErr state) := by
  unfold Multiplexer.writeMessageToCluster
  split
  next => exact change _ _ _
  next =>
    split
    next => exact refl state
    next stream found => exact set { stream with sent := stream.sent ++ [data] } found (fun _ => ⟨rfl, rfl⟩) rfl

theorem acceptRequest (socket : Nat) (msg : Message) (place : Nat) (writeErr : Option String) (state : State) :
    SameReader id state (acceptRequest socket msg place writeErr state) := by
  unfold Multiplexer.acceptRequest
  dsimp only
  split
  next => exact of_streams rfl
  next =>
    split
    next => exact (writeMessageToCluster _ _ _ _).onwards rfl
    next => exact of_streams rfl

theorem processClientMessage (socket : Nat) (msg : Message) (cookieErr writeErr : Option String) (state : State) :
    SameReader id state (processClientMessage socket msg cookieErr writeErr state) := by
  unfold Multiplexer.processClientMessage
  split
  next => exact closeConnection _ _ _ state
  next =>
    split
    next => exact post _ _ state
    next =>
      split
      next => exact post _ _ state
      next =>
        split
        next => exact acceptRequest _ _ _ _ state
        next => exact of_streams rfl

theorem establish (route : Route) (client : Option Nat) (opener : Nat) (reader : Option Reader) (state : State) :
    SameReader id state (establish route client opener reader state) := by
  unfold Multiplexer.establish
  exact (append ⟨_, reader, opener, [], []⟩ rfl).trans (post _ _ _)

theorem dialed (socket : Nat) (msg : Message) (outcome : Dialed) (writeErr : Option String) (state : State) :
    SameReader id state (dialed socket msg outcome writeErr state) := by
  unfold Multiplexer.dialed
  cases outcome with
  | refused err => exact (post _ _ _).onwards rfl
  | failed err => exact ((post _ _ _).trans (post _ _ _)).onwards rfl
  | connected => exact ((establish _ _ _ _ _).trans (acceptRequest _ _ _ _ _)).onwards rfl

theorem redialed (monitor place : Nat) (client : Option Nat) (stream : Stream) (outcome : Dialed) (state : State) :
    SameReader id state (redialed monitor place client stream outcome state) := by
  unfold Multiplexer.redialed
  cases outcome with
  | refused err => exact of_streams rfl
  | failed err => exact (post _ _ _).onwards rfl
  | connected => exact (establish _ _ _ _ _).onwards rfl

theorem beat (monitor place : Nat) (err : String) (state : State) : SameReader id state (beat monitor place err state) := by
  unfold Multiplexer.beat
  dsimp only
  split
  next => exact change _ _ _
  next stream found =>
    split
    next => exact change _ _ _
    next =>
      refine (change (Connection.updateStatus .error (some ("heartbeat failed: " ++ err))) place state).trans ?_
      exact set { stream with connection := { stream.connection with wsOpen := false } } found (fun _ => ⟨rfl, rfl⟩) rfl

theorem closeClientConnections (socket : Nat) (state : State) : SameReader id state (closeClientConnections socket state) := by
  intro old found
  simp only [Multiplexer.closeClientConnections, List.getElem?_mapIdx, found, Option.map_some, Option.some.injEq,
    exists_eq_left']
  split <;> exact ⟨rfl, rfl⟩

theorem reader {place : Nat} {stream new : Stream} {held : Reader} (unread : Unread state id)
    (there : state.streams[place]? = some stream) (reads : stream.reader = some held) (streams : next.streams = state.streams.set place new) :
    SameReader id state next := by
  obtain ⟨other, stored, none, -⟩ := unread
  refine set new there (fun same => ?_) streams
  subst same
  cases there.symm.trans stored
  cases reads.symm.trans none

end SameReader

theorem SameReader.unread (same : SameReader id state next) (unread : Unread state id) : Unread next id := by
  obtain ⟨old, found, none, nothing⟩ := unread
  obtain ⟨new, there, reader, messages⟩ := same old found
  exact ⟨new, there, reader.trans none, messages.trans nothing⟩

theorem unread_step {event : Event} (unread : Unread state id) (taken : step state event = some next) : Unread next id := by
  refine SameReader.unread (?_ : SameReader id state next) unread
  cases step_takes taken with
  | received => exact .processClientMessage _ _ _ _ _
  | ignored => exact .refl _
  | dialed => exact .dialed _ _ _ _ _
  | read held reads => exact .reader unread held reads rfl
  | deliver held reads =>
    unfold deliver
    dsimp only
    refine SameReader.trans ?_ (.post _ _ _)
    exact .reader unread held reads rfl
  | leave held reads => exact .reader unread held reads rfl
  | shut held reads => exact SameReader.trans (.reader unread held reads rfl) (.change _ _ _)
  | unlist held reads => exact .reader unread held reads rfl
  | beat => exact .beat _ _ _ _
  | redialed => exact .redialed _ _ _ _ _ _
  | stop => exact (SameReader.change _ _ _).onwards rfl
  | hangUp => exact .of_streams rfl
  | disconnect => exact (SameReader.closeClientConnections _ _).onwards rfl

theorem unread_run {events : List Event} (unread : Unread state id) (ran : run step state events = some next) : Unread next id :=
  always (fun state => Unread state id) (fun _ _ _ unread taken => unread_step unread taken) unread ran

theorem redialed_unread {monitor : Nat} (taken : step state (.redialed monitor .connected) = some next) :
    Unread next state.streams.length := by
  cases step_takes taken with
  | redialed =>
    refine (SameReader.post _ _ _).unread ?_
    exact ⟨_, List.getElem?_concat_length, rfl, rfl⟩

theorem unread_silent {events : List Event} {stream : Stream} (unread : Unread state id)
    (ran : run step state events = some next) (found : next.streams[id]? = some stream) : stream.forwarded = [] := by
  obtain ⟨_, there, none, nothing⟩ := unread_run unread ran
  cases found.symm.trans there
  simp [Stream.forwarded, none, nothing]

/-- After a reconnect the client has lost the stream: whatever happens then, nothing
reads the new connection and none of its messages is passed on. -/
theorem reconnect_silent {after : List Event} {monitor : Nat} {last : State}
    (went : run step middle (.redialed monitor .connected :: after) = some last) :
    ¬ Alive last middle.streams.length := by
  rw [run_cons, Option.bind_eq_some_iff] at went
  obtain ⟨next, taken, went⟩ := went
  have unread := unread_run (redialed_unread taken) went
  intro alive
  obtain ⟨events, later, stream, goes, found, passed⟩ := alive.forwarded ⟨false, [], none⟩
  rw [unread_silent unread goes found] at passed
  cases passed

/-- A stream of pods, whose cluster stops to answer. -/
private def unanswered : List Event := [
  .receive 0 ⟨⟨"prod", "/api/v1/pods", "watch=true", "alice"⟩, "", "REQUEST"⟩ none none, .dialed 0 .connected none,
  .beat 0 "timeout"]

theorem redialed_stream_silent : ∃ middle last, run step NewMultiplexer unanswered = some middle ∧
    run step middle [.redialed 0 .connected, .leave 0, .shut 0, .unlist 0] = some last ∧ ¬ Alive last middle.streams.length := by
  have goes : (run step NewMultiplexer unanswered).any fun middle =>
      (run step middle [.redialed 0 .connected, .leave 0, .shut 0, .unlist 0]).isSome := by
    decide
  obtain ⟨middle, ran, went⟩ := (Option.any_eq_true _ _).mp goes
  obtain ⟨last, went⟩ := Option.isSome_iff_exists.mp went
  exact ⟨middle, last, ran, went, reconnect_silent went⟩

/-- The new stream is open, and nothing reads it. -/
theorem stream_lost : ¬ ∀ (before after : List Event) (monitor : Nat) (middle last : State),
    run step NewMultiplexer before = some middle → run step middle (.redialed monitor .connected :: after) = some last →
      Open last middle.streams.length → Alive last middle.streams.length := by
  intro always
  have goes : (run step NewMultiplexer unanswered).any fun middle =>
      (run step middle [.redialed 0 .connected]).any fun last =>
        (last.streams[middle.streams.length]?).any fun stream => !stream.connection.closed && stream.reader = none := by
    decide
  obtain ⟨middle, ran, goes⟩ := (Option.any_eq_true _ _).mp goes
  obtain ⟨last, went, goes⟩ := (Option.any_eq_true _ _).mp goes
  obtain ⟨stream, found, shown⟩ := (Option.any_eq_true _ _).mp goes
  rw [Bool.and_eq_true, Bool.not_eq_true', decide_eq_true_eq] at shown
  have alive := always unanswered [] 0 middle last ran went ⟨stream, found, shown.1⟩
  obtain ⟨_, reader, held, -⟩ := alive.read
  have reads := readerOf_eq held
  cases found.symm.trans reads.1
  rw [shown.2] at reads
  cases reads.2

end K8Sense.Multiplexer
