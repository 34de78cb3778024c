import K8Sense.Library.Transition
import K8Sense.Library.Keyed

/-! Live progress of one scan: the history kept for replay, the channels of the
subscribed event streams, and the streams reading them. The mutex makes every
operation one step, so a schedule is a list of operations in any order. The
payload of an event is never inspected here and stays a parameter. -/

namespace K8Sense.Doctor.LiveScan
open Transition Keyed

universe u
variable {α : Type u}

/-- Buffer size of a subscriber's channel. -/
def capacity : Nat := 16

structure Channel (α : Type u) where
  buffer : List α
  closed : Bool

/-- A run-time panic of a channel operation. -/
inductive Fault where
  | sendOnClosedChannel
  | closeOfClosedChannel
  deriving DecidableEq

/-- Where the event stream request stands: reading its channel, returned after
the end of the scan, or gone because its client disconnected. -/
inductive Phase where
  | reading
  | returned
  | left
  deriving DecidableEq

/-- One event stream. `observed` is what it has written to its client. -/
structure Subscriber (α : Type u) where
  channel : Option (Channel α)
  observed : List α
  phase : Phase

/-- Events that are still to be read from the channel. -/
def Subscriber.pending (subscriber : Subscriber α) : List α :=
  match subscriber.channel with
  | none => []
  | some channel => channel.buffer

/-- The live scan (`events`, `listeners`, `done`) together with its streams.
A channel belongs to exactly one stream, so both go by the same number. -/
structure State (α : Type u) where
  events : List α
  listeners : List Nat
  done : Bool
  subscribers : Nat → Option (Subscriber α)
  calls : Nat
  fault : Option Fault

/-- `newLiveScan`. -/
def newLiveScan : State α := ⟨[], [], false, fun _ => none, 0, none⟩

inductive Event (α : Type u) where
  | broadcast (event : α)
  | finish
  | subscribe
  | unsubscribe (id : Nat)
  | receive (id : Nat)

/-- The `select` with a `default` branch: a full buffer drops the event. -/
def trySend (event : α) (subscriber : Subscriber α) : Except Fault (Subscriber α) :=
  match subscriber.channel with
  | none => .ok subscriber
  | some channel =>
    if channel.closed then .error .sendOnClosedChannel
    else if channel.buffer.length < capacity then
      .ok { subscriber with channel := some { channel with buffer := channel.buffer ++ [event] } }
    else .ok subscriber

def closeChannel (subscriber : Subscriber α) : Except Fault (Subscriber α) :=
  match subscriber.channel with
  | none => .ok subscriber
  | some channel =>
    if channel.closed then .error .closeOfClosedChannel
    else .ok { subscriber with channel := some { channel with closed := true } }

def broadcast (event : α) (state : State α) : State α :=
  match forEach (trySend event) state.listeners state.subscribers with
  | .ok subscribers => { state with events := state.events ++ [event], subscribers }
  | .error fault => { state with events := state.events ++ [event], fault := some fault }

def finish (state : State α) : State α :=
  match forEach closeChannel state.listeners state.subscribers with
  | .ok subscribers => { state with done := true, listeners := [], subscribers }
  | .error fault => { state with done := true, fault := some fault }

/-- `subscribe`, followed by the replay that the stream writes before it reads. -/
def subscribe (state : State α) : State α :=
  if state.done then
    { state with
      subscribers := Function.update state.subscribers state.calls (some ⟨none, state.events, .returned⟩)
      calls := state.calls + 1 }
  else
    { state with
      listeners := state.listeners ++ [state.calls]
      subscribers := Function.update state.subscribers state.calls (some ⟨some ⟨[], false⟩, state.events, .reading⟩)
      calls := state.calls + 1 }

/-- The request ends in the given phase; its deferred `unsubscribe` runs. -/
def unsubscribe (id : Nat) (phase : Phase) (state : State α) : Option (State α) :=
  match state.subscribers id with
  | some ⟨channel, observed, .reading⟩ =>
    some { state with
      listeners := state.listeners.filter (· ≠ id)
      subscribers := Function.update state.subscribers id (some ⟨channel, observed, phase⟩) }
  | _ => none

/-- One turn of the read loop. It blocks on an empty channel that is open, and
the request returns on one that is closed. -/
def receive (id : Nat) (state : State α) : Option (State α) :=
  match state.subscribers id with
  | some ⟨some ⟨event :: rest, closed⟩, observed, .reading⟩ =>
    some { state with
      subscribers := Function.update state.subscribers id (some ⟨some ⟨rest, closed⟩, observed ++ [event], .reading⟩) }
  | some ⟨some ⟨[], true⟩, _, .reading⟩ => unsubscribe id .returned state
  | _ => none

/-- A panic ends the process, so nothing follows it. -/
def step (state : State α) (event : Event α) : Option (State α) :=
  if state.fault.isSome then none
  else match event with
    | .broadcast event => some (broadcast event state)
    | .finish => some (finish state)
    | .subscribe => some (subscribe state)
    | .unsubscribe id => unsubscribe id .left state
    | .receive id => receive id state

/-- The registered channels are those of the streams that read an unfinished
scan, and a stream's channel is closed exactly when the scan is done. -/
structure Valid (state : State α) : Prop where
  distinct : state.listeners.Nodup
  member : ∀ id ∈ state.listeners, ∃ subscriber, state.subscribers id = some subscriber ∧ subscriber.phase = .reading
  known : ∀ id subscriber, state.subscribers id = some subscriber → id < state.calls
  registered : ∀ id subscriber, state.subscribers id = some subscriber → subscriber.phase = .reading →
    state.done = false → id ∈ state.listeners
  channel : ∀ id subscriber, state.subscribers id = some subscriber → subscriber.phase = .reading →
    ∃ buffer, subscriber.channel = some ⟨buffer, state.done⟩
  returned : ∀ id subscriber, state.subscribers id = some subscriber → subscriber.phase = .returned →
    state.done = true ∧ subscriber.pending = []
  finished : state.done = true → state.listeners = []
  running : state.fault = none

theorem valid_initial : Valid (newLiveScan : State α) := by
  constructor <;> simp [newLiveScan]

theorem Valid.opened {state : State α} (valid : Valid state) {id : Nat} (member : id ∈ state.listeners)
    {subscriber : Subscriber α} (found : state.subscribers id = some subscriber) :
    ∃ buffer, subscriber.channel = some ⟨buffer, false⟩ := by
  have running : state.done = false := by
    cases done : state.done with
    | false => rfl
    | true => simp [valid.finished done] at member
  obtain ⟨other, present, reading⟩ := valid.member id member
  obtain rfl : subscriber = other := Option.some.inj (found.symm.trans present)
  simpa only [running] using valid.channel id subscriber found reading

/-- What a send does to an open channel. -/
def delivered (event : α) (subscriber : Subscriber α) : Subscriber α :=
  match subscriber.channel with
  | none => subscriber
  | some channel =>
    if channel.buffer.length < capacity then
      { subscriber with channel := some { channel with buffer := channel.buffer ++ [event] } }
    else subscriber

def closed (subscriber : Subscriber α) : Subscriber α :=
  { subscriber with channel := subscriber.channel.map fun channel => { channel with closed := true } }

@[simp] theorem delivered_phase (event : α) (subscriber : Subscriber α) :
    (delivered event subscriber).phase = subscriber.phase := by
  unfold delivered
  split
  · rfl
  · split <;> rfl

@[simp] theorem delivered_observed (event : α) (subscriber : Subscriber α) :
    (delivered event subscriber).observed = subscriber.observed := by
  unfold delivered
  split
  · rfl
  · split <;> rfl

theorem delivered_channel {subscriber : Subscriber α} {buffer : List α} {flag : Bool}
    (channel : subscriber.channel = some ⟨buffer, flag⟩) (event : α) :
    (delivered event subscriber).channel =
      some ⟨if buffer.length < capacity then buffer ++ [event] else buffer, flag⟩ := by
  simp only [delivered, channel]
  split
  · rfl
  · exact channel

@[simp] theorem closed_phase (subscriber : Subscriber α) : (closed subscriber).phase = subscriber.phase := rfl

@[simp] theorem closed_observed (subscriber : Subscriber α) : (closed subscriber).observed = subscriber.observed := rfl

@[simp] theorem closed_pending (subscriber : Subscriber α) : (closed subscriber).pending = subscriber.pending := by
  unfold Subscriber.pending closed
  cases subscriber.channel <;> rfl

theorem broadcast_valid {state : State α} (valid : Valid state) (event : α) :
    broadcast event state = { state with
      events := state.events ++ [event]
      subscribers := mapAt (delivered event) state.listeners state.subscribers } := by
  have sent : ∀ id ∈ state.listeners, ∀ subscriber, state.subscribers id = some subscriber →
      trySend event subscriber = .ok (delivered event subscriber) := by
    intro id member subscriber found
    obtain ⟨buffer, channel⟩ := valid.opened member found
    simp only [trySend, delivered, channel, Bool.false_eq_true, if_false]
    split <;> rfl
  simp only [broadcast, forEach_ok (trySend event) (delivered event) valid.distinct sent]

theorem finish_valid {state : State α} (valid : Valid state) :
    finish state = { state with
      done := true
      listeners := []
      subscribers := mapAt closed state.listeners state.subscribers } := by
  have shut : ∀ id ∈ state.listeners, ∀ subscriber, state.subscribers id = some subscriber →
      closeChannel subscriber = .ok (closed subscriber) := by
    intro id member subscriber found
    obtain ⟨buffer, channel⟩ := valid.opened member found
    simp [closeChannel, closed, channel]
  simp only [finish, forEach_ok closeChannel closed valid.distinct shut]

theorem unsubscribe_cases {id : Nat} {phase : Phase} {state next : State α}
    (taken : unsubscribe id phase state = some next) :
    ∃ channel observed, state.subscribers id = some ⟨channel, observed, .reading⟩ ∧
      next = { state with
        listeners := state.listeners.filter (· ≠ id)
        subscribers := Function.update state.subscribers id (some ⟨channel, observed, phase⟩) } := by
  unfold unsubscribe at taken
  split at taken
  next channel observed found =>
    cases taken
    exact ⟨channel, observed, found, rfl⟩
  next => cases taken

/-- A turn of the read loop moves one event from the channel to the client, or
ends the request on a closed channel that has been read to the end. -/
theorem receive_cases {id : Nat} {state next : State α} (taken : receive id state = some next) :
    (∃ event rest flag observed,
      state.subscribers id = some ⟨some ⟨event :: rest, flag⟩, observed, .reading⟩ ∧
      next = { state with
        subscribers := Function.update state.subscribers id (some ⟨some ⟨rest, flag⟩, observed ++ [event], .reading⟩) }) ∨
    (∃ observed, state.subscribers id = some ⟨some ⟨[], true⟩, observed, .reading⟩ ∧
      unsubscribe id .returned state = some next) := by
  unfold receive at taken
  split at taken
  next event rest flag observed found =>
    cases taken
    exact Or.inl ⟨event, rest, flag, observed, found, rfl⟩
  next observed found => exact Or.inr ⟨observed, found, taken⟩
  next => cases taken

theorem step_running {state next : State α} {event : Event α} (valid : Valid state)
    (taken : step state event = some next) :
    match event with
    | .broadcast event => next = broadcast event state
    | .finish => next = finish state
    | .subscribe => next = subscribe state
    | .unsubscribe id => unsubscribe id .left state = some next
    | .receive id => receive id state = some next := by
  simp only [step, valid.running, Option.isSome_none, Bool.false_eq_true, if_false] at taken
  cases event <;> simp_all

theorem broadcast_preserves {state : State α} (valid : Valid state) (event : α) : Valid (broadcast event state) := by
  rw [broadcast_valid valid event]
  constructor
  · exact valid.distinct
  · intro id member
    obtain ⟨subscriber, found, reading⟩ := valid.member id member
    exact ⟨delivered event subscriber, mapAt_eq_some.mpr ⟨subscriber, found, (if_pos member).symm⟩, by simpa using reading⟩
  · intro id subscriber found
    obtain ⟨before, present, _⟩ := mapAt_eq_some.mp found
    exact valid.known id before present
  · intro id subscriber found reading running
    obtain ⟨before, present, rfl⟩ := mapAt_eq_some.mp found
    by_cases member : id ∈ state.listeners
    · exact member
    · exact valid.registered id before present (by simpa [member] using reading) running
  · intro id subscriber found reading
    obtain ⟨before, present, rfl⟩ := mapAt_eq_some.mp found
    have reading : before.phase = .reading := by
      split at reading
      · simpa using reading
      · exact reading
    obtain ⟨buffer, channel⟩ := valid.channel id before present reading
    split
    · exact ⟨_, delivered_channel channel event⟩
    · exact ⟨buffer, channel⟩
  · intro id subscriber found returned
    obtain ⟨before, present, rfl⟩ := mapAt_eq_some.mp found
    by_cases member : id ∈ state.listeners
    · have ended := (valid.returned id before present (by simpa [member] using returned)).1
      simp [valid.finished ended] at member
    · simp only [member, if_false] at returned ⊢
      exact valid.returned id before present returned
  · exact valid.finished
  · exact valid.running

theorem finish_preserves {state : State α} (valid : Valid state) : Valid (finish state) := by
  rw [finish_valid valid]
  constructor
  · exact List.nodup_nil
  · simp
  · intro id subscriber found
    obtain ⟨before, present, _⟩ := mapAt_eq_some.mp found
    exact valid.known id before present
  · simp
  · intro id subscriber found reading
    obtain ⟨before, present, rfl⟩ := mapAt_eq_some.mp found
    by_cases member : id ∈ state.listeners
    · obtain ⟨buffer, channel⟩ := valid.opened member present
      exact ⟨buffer, by simp [member, closed, channel]⟩
    · simp only [member, if_false] at reading ⊢
      obtain ⟨buffer, channel⟩ := valid.channel id before present reading
      have ended : state.done = true := by
        by_contra running
        exact member (valid.registered id before present reading (by simpa using running))
      exact ⟨buffer, by rw [channel, ended]⟩
  · intro id subscriber found returned
    obtain ⟨before, present, rfl⟩ := mapAt_eq_some.mp found
    split at returned
    · exact ⟨rfl, by simpa [*] using (valid.returned id before present (by simpa using returned)).2⟩
    · exact ⟨rfl, by simpa [*] using (valid.returned id before present returned).2⟩
  · simp
  · exact valid.running

theorem subscribe_preserves {state : State α} (valid : Valid state) : Valid (subscribe state) := by
  have older : ∀ id subscriber, state.subscribers id = some subscriber → id ≠ state.calls :=
    fun id subscriber found => Nat.ne_of_lt (valid.known id subscriber found)
  unfold subscribe
  split
  next ended =>
    constructor
    · exact valid.distinct
    · simp [valid.finished ended]
    · intro id subscriber found
      rcases update_eq_some.mp found with ⟨rfl, _⟩ | ⟨_, found⟩
      · exact Nat.lt_succ_self _
      · exact Nat.lt_succ_of_lt (valid.known id subscriber found)
    · simp [ended]
    · intro id subscriber found reading
      rcases update_eq_some.mp found with ⟨_, rfl⟩ | ⟨_, found⟩
      · cases reading
      · exact valid.channel id subscriber found reading
    · intro id subscriber found returned
      rcases update_eq_some.mp found with ⟨_, rfl⟩ | ⟨_, found⟩
      · exact ⟨ended, rfl⟩
      · exact valid.returned id subscriber found returned
    · exact valid.finished
    · exact valid.running
  next running =>
    have running : state.done = false := by simpa using running
    constructor
    · refine List.nodup_append.mpr ⟨valid.distinct, List.nodup_singleton _, ?_⟩
      intro id member other new same
      obtain ⟨subscriber, found, _⟩ := valid.member id member
      exact older id subscriber found (same.trans (List.mem_singleton.mp new))
    · intro id member
      rcases List.mem_append.mp member with member | new
      · obtain ⟨subscriber, found, reading⟩ := valid.member id member
        exact ⟨subscriber, update_eq_some.mpr (Or.inr ⟨older id subscriber found, found⟩), reading⟩
      · exact ⟨_, update_eq_some.mpr (Or.inl ⟨List.mem_singleton.mp new, rfl⟩), rfl⟩
    · intro id subscriber found
      rcases update_eq_some.mp found with ⟨rfl, _⟩ | ⟨_, found⟩
      · exact Nat.lt_succ_self _
      · exact Nat.lt_succ_of_lt (valid.known id subscriber found)
    · intro id subscriber found reading _
      rcases update_eq_some.mp found with ⟨rfl, _⟩ | ⟨_, found⟩
      · simp
      · exact List.mem_append_left _ (valid.registered id subscriber found reading running)
    · intro id subscriber found reading
      rcases update_eq_some.mp found with ⟨_, rfl⟩ | ⟨_, found⟩
      · exact ⟨[], by rw [running]⟩
      · exact valid.channel id subscriber found reading
    · intro id subscriber found returned
      rcases update_eq_some.mp found with ⟨_, rfl⟩ | ⟨_, found⟩
      · cases returned
      · exact valid.returned id subscriber found returned
    · intro ended
      rw [running] at ended
      cases ended
    · exact valid.running

/-- A request may end because its client left at any time, or because it read a
channel of the finished scan to the end. -/
theorem unsubscribe_preserves {id : Nat} {phase : Phase} {state next : State α} (valid : Valid state)
    (ending : phase = .left ∨ phase = .returned ∧ state.done = true ∧
      ∀ subscriber, state.subscribers id = some subscriber → subscriber.pending = [])
    (taken : unsubscribe id phase state = some next) : Valid next := by
  obtain ⟨channel, observed, found, rfl⟩ := unsubscribe_cases taken
  have stopped : phase ≠ .reading := by rcases ending with rfl | ⟨rfl, _⟩ <;> simp
  constructor
  · exact valid.distinct.filter _
  · intro other member
    obtain ⟨member, different⟩ := List.mem_filter.mp member
    obtain ⟨subscriber, present, reading⟩ := valid.member other member
    exact ⟨subscriber, update_eq_some.mpr (Or.inr ⟨by simpa using different, present⟩), reading⟩
  · intro other subscriber present
    rcases update_eq_some.mp present with ⟨rfl, _⟩ | ⟨_, present⟩
    · exact valid.known _ _ found
    · exact valid.known other subscriber present
  · intro other subscriber present reading running
    rcases update_eq_some.mp present with ⟨_, rfl⟩ | ⟨different, present⟩
    · exact absurd reading stopped
    · exact List.mem_filter.mpr ⟨valid.registered other subscriber present reading running, by simpa using different⟩
  · intro other subscriber present reading
    rcases update_eq_some.mp present with ⟨_, rfl⟩ | ⟨_, present⟩
    · exact absurd reading stopped
    · exact valid.channel other subscriber present reading
  · intro other subscriber present returned
    rcases update_eq_some.mp present with ⟨_, rfl⟩ | ⟨_, present⟩
    · rcases ending with gone | ⟨_, ended, read⟩
      · rw [show phase = Phase.returned from returned] at gone
        cases gone
      · have emptied := read _ found
        exact ⟨ended, emptied⟩
    · exact valid.returned other subscriber present returned
  · intro ended
    simp [valid.finished ended]
  · exact valid.running

theorem receive_preserves {id : Nat} {state next : State α} (valid : Valid state)
    (taken : receive id state = some next) : Valid next := by
  rcases receive_cases taken with ⟨event, rest, flag, observed, found, rfl⟩ | ⟨observed, found, taken⟩
  · constructor
    · exact valid.distinct
    · intro other member
      obtain ⟨subscriber, present, reading⟩ := valid.member other member
      by_cases same : other = id
      · exact ⟨_, update_eq_some.mpr (Or.inl ⟨same, rfl⟩), rfl⟩
      · exact ⟨subscriber, update_eq_some.mpr (Or.inr ⟨same, present⟩), reading⟩
    · intro other subscriber present
      rcases update_eq_some.mp present with ⟨rfl, _⟩ | ⟨_, present⟩
      · exact valid.known _ _ found
      · exact valid.known other subscriber present
    · intro other subscriber present reading running
      rcases update_eq_some.mp present with ⟨rfl, _⟩ | ⟨_, present⟩
      · exact valid.registered _ _ found rfl running
      · exact valid.registered other subscriber present reading running
    · intro other subscriber present reading
      rcases update_eq_some.mp present with ⟨rfl, rfl⟩ | ⟨_, present⟩
      · obtain ⟨buffer, channel⟩ := valid.channel _ _ found rfl
        cases channel
        exact ⟨rest, rfl⟩
      · exact valid.channel other subscriber present reading
    · intro other subscriber present returned
      rcases update_eq_some.mp present with ⟨_, rfl⟩ | ⟨_, present⟩
      · cases returned
      · exact valid.returned other subscriber present returned
    · exact valid.finished
    · exact valid.running
  · obtain ⟨buffer, channel⟩ := valid.channel _ _ found rfl
    have ended : state.done = true := by
      simp only [Option.some.injEq, Channel.mk.injEq] at channel
      exact channel.2.symm
    refine unsubscribe_preserves valid (Or.inr ⟨rfl, ended, ?_⟩) taken
    intro subscriber present
    obtain rfl := Option.some.inj (found.symm.trans present)
    rfl

theorem step_preserves {state next : State α} {event : Event α} (valid : Valid state)
    (taken : step state event = some next) : Valid next := by
  have cases' := step_running valid taken
  cases event with
  | broadcast event => exact cases' ▸ broadcast_preserves valid event
  | finish => exact cases' ▸ finish_preserves valid
  | subscribe => exact cases' ▸ subscribe_preserves valid
  | unsubscribe id => exact unsubscribe_preserves valid (Or.inl rfl) cases'
  | receive id => exact receive_preserves valid cases'

theorem reachable_valid {events : List (Event α)} {last : State α}
    (ran : run step newLiveScan events = some last) : Valid last :=
  always Valid (fun _ _ _ valid taken => step_preserves valid taken) valid_initial ran

/-- What the stream has written once it has read its channel to the end. -/
def Subscriber.transcript (subscriber : Subscriber α) : List α := subscriber.observed ++ subscriber.pending

theorem delivered_transcript {subscriber : Subscriber α} {buffer : List α} {flag : Bool}
    (channel : subscriber.channel = some ⟨buffer, flag⟩) (event : α) :
    (delivered event subscriber).transcript =
      if buffer.length < capacity then subscriber.transcript ++ [event] else subscriber.transcript := by
  simp only [Subscriber.transcript, Subscriber.pending, delivered_observed, delivered_channel channel, channel]
  split
  · rw [List.append_assoc]
  · rfl

/-- A broadcast finds the stream, once subscribed, before the end of the scan
and with fewer than `capacity` events waiting to be read. -/
def Room (id : Nat) (state : State α) : Event α → Prop
  | .broadcast _ => ∀ subscriber ∈ state.subscribers id, state.done = false ∧ subscriber.pending.length < capacity
  | _ => True

instance (id : Nat) (state : State α) : ∀ event, Decidable (Room id state event)
  | .broadcast _ => inferInstanceAs (Decidable (∀ subscriber ∈ state.subscribers id, _))
  | .finish | .subscribe | .unsubscribe _ | .receive _ => isTrue trivial

/-- The transcript of a stream that has not left is the whole history, or it has
lost an event for good, according to whether every broadcast found room. -/
def Accounted (id : Nat) (events : List (Event α)) (state : State α) : Prop :=
  match state.subscribers id with
  | none => Meets step (Room id) newLiveScan events
  | some subscriber => subscriber.phase ≠ .left →
      Meets step (Room id) newLiveScan events ∧ subscriber.transcript = state.events ∨
      ¬ Meets step (Room id) newLiveScan events ∧ subscriber.transcript.length < state.events.length

theorem meets_room_quiet {id : Nat} {events : List (Event α)} {event : Event α}
    (quiet : ∀ state : State α, Room id state event) :
    Meets step (Room id) newLiveScan (events ++ [event]) ↔ Meets step (Room id) newLiveScan events := by
  rw [meets_snoc]
  exact and_iff_left fun middle _ => quiet middle

theorem meets_room_broadcast {id : Nat} {events : List (Event α)} {event : α} {state : State α}
    (ran : run step newLiveScan events = some state) :
    Meets step (Room id) newLiveScan (events ++ [Event.broadcast event]) ↔
      Meets step (Room id) newLiveScan events ∧ Room id state (.broadcast event) := by
  rw [meets_snoc, ran]
  simp

/-- Steps other than a broadcast leave the transcript of every stream alone; a
new stream starts with the whole history. -/
theorem accounted_quiet {id : Nat} {events : List (Event α)} {event : Event α} {state next : State α}
    (accounted : Accounted id events state) (quiet : ∀ state : State α, Room id state event)
    (history : next.events = state.events)
    (gone : next.subscribers id = none → state.subscribers id = none)
    (kept : ∀ subscriber, next.subscribers id = some subscriber → subscriber.phase ≠ .left →
      (∃ before, state.subscribers id = some before ∧ before.phase ≠ .left ∧
        subscriber.transcript = before.transcript) ∨
      state.subscribers id = none ∧ subscriber.transcript = state.events) :
    Accounted id (events ++ [event]) next := by
  unfold Accounted at accounted ⊢
  simp only [meets_room_quiet quiet, history]
  cases present : next.subscribers id with
  | none => simpa only [gone present] using accounted
  | some subscriber =>
    intro stayed
    rcases kept subscriber present stayed with ⟨before, found, here, same⟩ | ⟨new, same⟩
    · simp only [found] at accounted
      simpa only [same] using accounted here
    · simp only [new] at accounted
      exact Or.inl ⟨accounted, same⟩

theorem accounted_broadcast {id : Nat} {events : List (Event α)} {event : α} {state : State α}
    (valid : Valid state) (ran : run step newLiveScan events = some state) (accounted : Accounted id events state) :
    Accounted id (events ++ [Event.broadcast event]) (broadcast event state) := by
  rw [broadcast_valid valid event]
  unfold Accounted at accounted ⊢
  simp only [meets_room_broadcast ran, Room, Option.mem_def, mapAt, List.length_append, List.length_singleton]
  cases found : state.subscribers id with
  | none =>
    simp only [found] at accounted
    simp [accounted]
  | some subscriber =>
    simp only [found] at accounted
    cases ended : state.done with
    | true =>
      -- The scan is over, so the stream is no longer registered and misses the event.
      simp only [valid.finished ended, List.not_mem_nil, if_false]
      intro stayed
      refine Or.inr ⟨by simp, ?_⟩
      rcases accounted stayed with ⟨_, whole⟩ | ⟨_, short⟩
      · simp [whole]
      · omega
    | false =>
      by_cases member : id ∈ state.listeners
      · obtain ⟨buffer, channel⟩ := valid.opened member found
        have pending : subscriber.pending = buffer := by simp [Subscriber.pending, channel]
        simp only [member, if_true, Option.map_some, delivered_phase, delivered_transcript channel,
          Option.some.injEq, forall_eq', true_and, pending]
        intro stayed
        by_cases room : buffer.length < capacity
        · simp only [room, if_true, and_true, List.length_append, List.length_singleton]
          rcases accounted stayed with ⟨met, whole⟩ | ⟨lost, short⟩
          · exact Or.inl ⟨met, by rw [whole]⟩
          · exact Or.inr ⟨lost, by omega⟩
        · -- A full buffer: the event is skipped and nothing replays it later.
          simp only [room, if_false, and_false, not_false_eq_true, false_and, true_and, false_or]
          rcases accounted stayed with ⟨_, whole⟩ | ⟨_, short⟩
          · simp [whole]
          · omega
      · simp only [member, if_false]
        intro stayed
        exfalso
        cases phase : subscriber.phase with
        | reading => exact member (valid.registered id subscriber found phase ended)
        | returned => simp [(valid.returned id subscriber found phase).1] at ended
        | left => exact stayed phase

theorem accounted_finish {id : Nat} {events : List (Event α)} {state : State α}
    (valid : Valid state) (accounted : Accounted id events state) :
    Accounted id (events ++ [Event.finish]) (finish state) := by
  rw [finish_valid valid]
  apply accounted_quiet accounted (fun state => show Room id state .finish from trivial)
  · rfl
  · intro absent
    simp only [mapAt] at absent
    split at absent
    · exact Option.map_eq_none_iff.mp absent
    · exact absent
  · intro subscriber present stayed
    obtain ⟨before, found, rfl⟩ := mapAt_eq_some.mp present
    refine Or.inl ⟨before, found, ?_⟩
    split at stayed
    · exact ⟨by simpa using stayed, by simp [*, Subscriber.transcript]⟩
    · exact ⟨stayed, by simp [*]⟩

theorem accounted_subscribe {id : Nat} {events : List (Event α)} {state : State α}
    (valid : Valid state) (accounted : Accounted id events state) :
    Accounted id (events ++ [Event.subscribe]) (subscribe state) := by
  have fresh : state.subscribers state.calls = none := by
    cases found : state.subscribers state.calls with
    | none => rfl
    | some subscriber => exact absurd (valid.known _ _ found) (Nat.lt_irrefl _)
  have joined : ∃ subscriber : Subscriber α, subscriber.transcript = state.events ∧
      (subscribe state).subscribers = Function.update state.subscribers state.calls (some subscriber) := by
    unfold subscribe
    split
    · exact ⟨_, by simp [Subscriber.transcript, Subscriber.pending], rfl⟩
    · exact ⟨_, by simp [Subscriber.transcript, Subscriber.pending], rfl⟩
  obtain ⟨new, whole, table⟩ := joined
  apply accounted_quiet accounted (fun state => show Room id state .subscribe from trivial)
  · unfold subscribe
    split <;> rfl
  · intro absent
    rw [table] at absent
    by_cases same : id = state.calls
    · rw [same, fresh]
    · rwa [Function.update_of_ne same] at absent
  · intro subscriber present stayed
    rw [table] at present
    rcases update_eq_some.mp present with ⟨rfl, rfl⟩ | ⟨_, present⟩
    · exact Or.inr ⟨fresh, whole⟩
    · exact Or.inl ⟨subscriber, present, stayed, rfl⟩

theorem accounted_unsubscribe {id other : Nat} {phase : Phase} {events : List (Event α)} {event : Event α}
    {state next : State α} (accounted : Accounted id events state) (quiet : ∀ state : State α, Room id state event)
    (taken : unsubscribe other phase state = some next) : Accounted id (events ++ [event]) next := by
  obtain ⟨channel, observed, found, rfl⟩ := unsubscribe_cases taken
  apply accounted_quiet accounted quiet
  · rfl
  · intro absent
    by_cases same : id = other
    · subst same
      simp at absent
    · simpa [Function.update_of_ne same] using absent
  · intro subscriber present stayed
    rcases update_eq_some.mp present with ⟨rfl, rfl⟩ | ⟨_, present⟩
    · exact Or.inl ⟨_, found, by simp, rfl⟩
    · exact Or.inl ⟨subscriber, present, stayed, rfl⟩

theorem accounted_receive {id other : Nat} {events : List (Event α)} {state next : State α}
    (accounted : Accounted id events state) (taken : receive other state = some next) :
    Accounted id (events ++ [Event.receive other]) next := by
  rcases receive_cases taken with ⟨event, rest, flag, observed, found, rfl⟩ | ⟨observed, found, taken⟩
  · apply accounted_quiet accounted (fun state => show Room id state (.receive other) from trivial)
    · rfl
    · intro absent
      by_cases same : id = other
      · subst same
        simp at absent
      · simpa [Function.update_of_ne same] using absent
    · intro subscriber present stayed
      rcases update_eq_some.mp present with ⟨rfl, rfl⟩ | ⟨_, present⟩
      · exact Or.inl ⟨_, found, by simp, by simp [Subscriber.transcript, Subscriber.pending]⟩
      · exact Or.inl ⟨subscriber, present, stayed, rfl⟩
  · exact accounted_unsubscribe accounted (fun _ => trivial) taken

theorem reachable_accounted {events : List (Event α)} {last : State α}
    (ran : run step newLiveScan events = some last) (id : Nat) : Accounted id events last := by
  refine run_induction (motive := Accounted id) ?_ ?_ ran
  · simp [Accounted, newLiveScan, Meets]
  · intro events state event after prior accounted taken
    have valid := reachable_valid prior
    have cases' := step_running valid taken
    cases event with
    | broadcast event => exact cases' ▸ accounted_broadcast valid prior accounted
    | finish => exact cases' ▸ accounted_finish valid accounted
    | subscribe => exact cases' ▸ accounted_subscribe valid accounted
    | unsubscribe other => exact accounted_unsubscribe accounted (fun _ => trivial) cases'
    | receive other => exact accounted_receive accounted cases'

/-- No schedule makes a channel operation panic. A stream that stays to the end
writes the whole history in order, each event once, exactly when every broadcast
after its subscription came before `finish` and found room in its channel. -/
theorem stream_complete_iff (events : List (Event α)) (last : State α)
    (ran : run step newLiveScan events = some last) :
    last.fault = none ∧
    ∀ id subscriber, last.subscribers id = some subscriber → subscriber.phase ≠ .left →
      (subscriber.phase = .returned → subscriber.pending = []) ∧
      (subscriber.observed ++ subscriber.pending = last.events ↔ Meets step (Room id) newLiveScan events) := by
  have valid := reachable_valid ran
  refine ⟨valid.running, ?_⟩
  intro id subscriber found stayed
  refine ⟨fun returned => (valid.returned id subscriber found returned).2, ?_⟩
  have accounted := reachable_accounted ran id
  simp only [Accounted, found] at accounted
  rcases accounted stayed with ⟨met, whole⟩ | ⟨lost, short⟩
  · exact iff_of_true whole met
  · refine iff_of_false ?_ lost
    intro whole
    rw [Subscriber.transcript, whole] at short
    exact Nat.lt_irrefl _ short

theorem stream_complete_two_events : ∃ (last : State Nat) (subscriber : Subscriber Nat),
    run step newLiveScan [.broadcast 1, .subscribe, .broadcast 2, .finish, .receive 0, .receive 0] = some last ∧
    last.subscribers 0 = some subscriber ∧ subscriber.observed ++ subscriber.pending = last.events :=
  ⟨_, _, rfl, rfl, ((stream_complete_iff
    [.broadcast 1, .subscribe, .broadcast 2, .finish, .receive 0, .receive 0] _ rfl).2 0 _ rfl (by decide)).2.mpr
    (by decide)⟩

/-- A stream that has read nothing when the seventeenth event is broadcast never
receives that event. -/
theorem slow_stream_loses_event :
    ¬ ∀ (events : List (Event Nat)) (last : State Nat), run step newLiveScan events = some last → last.done = true →
      ∀ id subscriber, last.subscribers id = some subscriber → subscriber.phase ≠ .left →
        subscriber.observed ++ subscriber.pending = last.events := by
  intro delivers
  have complete := delivers ([Event.subscribe] ++ (List.range 17).map .broadcast ++ [Event.finish]) _ rfl rfl 0 _ rfl (by decide)
  revert complete
  decide

end K8Sense.Doctor.LiveScan
