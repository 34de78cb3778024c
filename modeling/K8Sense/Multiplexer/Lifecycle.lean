import K8Sense.Library.Transition
import K8Sense.Multiplexer.Connection

/-! One connection between its reader, its monitor and the loops of the clients. A
call takes the mutex of the connection more than once, and other calls may come in
between. What the client gets is the log of the writes that succeed. -/

namespace K8Sense.Multiplexer

/-- The part of `updateStatus` under the mutex. -/
def Connection.setStatus (state : ConnectionState) (err : Option String) (conn : Connection) : Connection × List Frame :=
  if conn.closed then (conn, [])
  else
    let updated := { conn with state, error := err.getD "" }
    (updated, updated.notify)

/-- The part of `closeClientConnections` under the mutex. -/
def Connection.release (conn : Connection) : Connection := { conn with client := none, state := .closed, error := "" }

/-- The state is closed, and the flag not yet. -/
def Connection.Closing (conn : Connection) : Prop := conn.state = .closed ∧ conn.closed = false

instance : DecidablePred Connection.Closing := fun _ => inferInstanceAs (Decidable (_ ∧ _))

def Frame.tellsClosed (frame : Frame) : Bool :=
  match frame.content with
  | .status .closed _ => true
  | _ => false

def Frame.statusOrData (frame : Frame) : Bool :=
  match frame.content with
  | .status _ _ | .data _ _ => true
  | _ => false

theorem notify_closed {conn : Connection} {frame : Frame} (member : frame ∈ conn.notify) :
    frame.statusOrData = true ∧ (frame.tellsClosed = true ↔ conn.state = .closed) := by
  unfold Connection.notify at member
  split at member
  next =>
    obtain rfl := List.mem_singleton.mp member
    refine ⟨rfl, ?_⟩
    unfold Frame.tellsClosed Connection.statusFrame
    cases conn.state <;> simp
  next => exact absurd member List.not_mem_nil

namespace Lifecycle
open Transition

/-- The rest of a call that has left the mutex. -/
inductive Pending where
  | safeClose
  | complete
  deriving DecidableEq

structure State where
  conn : Connection
  writable : Bool
  told : List Frame
  pending : List Pending

inductive Event where
  | updateStatus (state : ConnectionState) (err : Option String)
  | safeClose
  | closeClientConnections
  | sendCompleteMessage
  | sendDataMessage (message : ClusterMessage)
  | resume (call : Nat)
  | hangUp

def State.tell (frames : List Frame) (state : State) : State :=
  if state.writable then { state with told := state.told ++ frames } else state

def safeClose (state : State) : State :=
  let (conn, frames) := state.conn.safeClose
  State.tell frames { state with conn }

/-- The loop of a client closes its socket before it closes the connections that are
still of the client. A data message is written without a look at the connection. -/
def step (state : State) : Event → Option State
  | .updateStatus status err =>
    let (conn, frames) := state.conn.setStatus status err
    let pending := if status = .closed ∧ state.conn.closed = false then state.pending ++ [.safeClose] else state.pending
    some (State.tell frames { state with conn, pending })
  | .safeClose => some (safeClose state)
  | .closeClientConnections =>
    if state.writable ∨ state.conn.client = none then none
    else some { state with conn := state.conn.release, pending := state.pending ++ [.safeClose] }
  | .sendCompleteMessage =>
    some (if state.conn.closed then state else { state with pending := state.pending ++ [.complete] })
  | .sendDataMessage message => some (state.tell [createWrapperMessage state.conn message])
  | .resume call =>
    match state.pending[call]? with
    | some .safeClose => some (safeClose { state with pending := state.pending.eraseIdx call })
    | some .complete => some (State.tell [completeMessage state.conn] { state with pending := state.pending.eraseIdx call })
    | none => none
  | .hangUp => some { state with writable := false }

def initial (route : Route) (client : Option Nat) : State := ⟨createConnection route client, client.isSome, [], []⟩

/-- A closed connection stays closed, and CLOSED is the last status or data message
that its client gets of it. -/
structure ClosedForGood (start : State) (events : List Event) : Prop where
  absorbing : ∀ before between after first second, events = before ++ between ++ after →
    run step start before = some first → run step first between = some second →
      first.conn.state = .closed → second.conn.state = .closed
  once : ∀ before after state, events = before ++ after → run step start before = some state →
    state.told.countP Frame.tellsClosed ≤ 1
  last : ∀ before after state, events = before ++ after → run step start before = some state →
    state.told.Pairwise fun first second => first.tellsClosed = true → second.statusOrData = false

/-- No status is set between the state and the flag of a closed connection, unless
it is closed again and nobody is told; no data message is written to a client whose
connection is closed. -/
def Undisturbed (state : State) : Event → Prop
  | .updateStatus status _ => state.conn.Closing → status = .closed ∧ state.writable = false
  | .sendDataMessage _ => state.conn.state = .closed → state.writable = false
  | _ => True

instance (state : State) : ∀ event, Decidable (Undisturbed state event)
  | .updateStatus _ _ => inferInstanceAs (Decidable (_ → _ ∧ _))
  | .sendDataMessage _ => inferInstanceAs (Decidable (_ → _))
  | .safeClose | .closeClientConnections | .sendCompleteMessage | .resume _ | .hangUp => isTrue trivial

/-- Whatever calls there are, a client that is there is told of a closed state. -/
structure Sound (state : State) : Prop where
  flag : state.conn.closed = true → state.conn.state = .closed
  client : state.writable = true → state.conn.client.isSome = true
  told : state.writable = true → state.conn.state = .closed → ∃ frame ∈ state.told, frame.tellsClosed = true

variable {state next : State}

theorem step_updateStatus (status : ConnectionState) (err : Option String) :
    step state (.updateStatus status err) = some (State.tell (state.conn.setStatus status err).2
      { state with
        conn := (state.conn.setStatus status err).1
        pending := if status = .closed ∧ state.conn.closed = false then state.pending ++ [.safeClose] else state.pending }) :=
  rfl

@[simp] theorem tell_conn (frames : List Frame) : (state.tell frames).conn = state.conn := by
  unfold State.tell
  split <;> rfl

@[simp] theorem tell_writable (frames : List Frame) : (state.tell frames).writable = state.writable := by
  unfold State.tell
  split <;> rfl

theorem tell_told (frames : List Frame) :
    (state.tell frames).told = state.told ++ if state.writable then frames else [] := by
  unfold State.tell
  split <;> simp [*]

/-- One of the calls that change the connection: what it makes of it, and what the
client is told. -/
structure Changes (before : Connection) (frames : List Frame) (after : Connection) : Prop where
  flag : after.closed = true → after.state = .closed
  client : after.client = before.client
  told : after.state = .closed → before.state = .closed ∨ frames = after.notify
  frames : frames = [] ∨ frames = after.notify

theorem setStatus_changes {conn : Connection} (flag : conn.closed = true → conn.state = .closed)
    (status : ConnectionState) (err : Option String) :
    Changes conn (conn.setStatus status err).2 (conn.setStatus status err).1 := by
  unfold Connection.setStatus
  split
  next => exact ⟨flag, rfl, Or.inl, Or.inl rfl⟩
  next unset => exact ⟨fun set => absurd set unset, rfl, fun _ => Or.inr rfl, Or.inr rfl⟩

theorem safeClose_changes {conn : Connection} (flag : conn.closed = true → conn.state = .closed) :
    Changes conn conn.safeClose.2 conn.safeClose.1 := by
  unfold Connection.safeClose
  split
  next => exact ⟨flag, rfl, Or.inl, Or.inl rfl⟩
  next =>
    by_cases closed : conn.state = .closed
    · exact ⟨fun _ => rfl, rfl, fun _ => Or.inl closed, Or.inl (by simp [closed])⟩
    · have told : (if conn.state ≠ .closed then Connection.notify { conn with state := .closed, error := "" } else []) =
          Connection.notify { conn with state := .closed, error := "", closed := true, wsOpen := false } :=
        if_pos closed
      exact ⟨fun _ => rfl, rfl, fun _ => Or.inr told, Or.inr told⟩

theorem sound_change (sound : Sound state) {frames : List Frame} {conn : Connection} {pending : List Pending}
    (changes : Changes state.conn frames conn) : Sound (State.tell frames { state with conn, pending }) where
  flag := by
    rw [tell_conn]
    exact changes.flag
  client writable := by
    rw [tell_writable] at writable
    rw [tell_conn]
    exact changes.client ▸ sound.client writable
  told writable closed := by
    rw [tell_writable] at writable
    rw [tell_conn] at closed
    change state.writable = true at writable
    rw [tell_told]
    simp only [writable, if_true]
    rcases changes.told closed with already | fresh
    · obtain ⟨frame, member, tells⟩ := sound.told writable already
      exact ⟨frame, List.mem_append_left _ member, tells⟩
    · have there : conn.client.isSome = true := changes.client ▸ sound.client writable
      have told : conn.statusFrame ∈ conn.notify := by simp [Connection.notify, there]
      refine ⟨conn.statusFrame, List.mem_append_right _ (fresh ▸ told), ?_⟩
      exact (notify_closed told).2.mpr closed

theorem sound_tell (sound : Sound state) (frames : List Frame) (pending : List Pending) :
    Sound (State.tell frames { state with pending }) where
  flag := by
    rw [tell_conn]
    exact sound.flag
  client := by
    rw [tell_writable, tell_conn]
    exact sound.client
  told := by
    rw [tell_writable, tell_conn, tell_told]
    intro writable closed
    obtain ⟨frame, member, tells⟩ := sound.told writable closed
    exact ⟨frame, List.mem_append_left _ member, tells⟩

theorem sound_step {event : Event} (sound : Sound state) (taken : step state event = some next) : Sound next := by
  cases event with
  | updateStatus status err =>
    cases taken
    exact sound_change sound (setStatus_changes sound.flag status err)
  | safeClose =>
    cases taken
    exact sound_change sound (safeClose_changes sound.flag)
  | closeClientConnections =>
    delta step at taken
    dsimp only at taken
    split at taken
    next => cases taken
    next gone =>
      cases taken
      exact ⟨fun _ => rfl, fun writable => absurd (Or.inl writable) gone, fun writable => absurd (Or.inl writable) gone⟩
  | sendCompleteMessage =>
    cases taken
    split
    next => exact sound
    next => exact ⟨sound.flag, sound.client, sound.told⟩
  | sendDataMessage message =>
    cases taken
    exact sound_tell sound _ _
  | resume call =>
    delta step at taken
    dsimp only at taken
    split at taken
    next =>
      cases taken
      exact sound_change sound (safeClose_changes sound.flag)
    next =>
      cases taken
      exact sound_tell sound _ _
    next => cases taken
  | hangUp =>
    cases taken
    exact ⟨sound.flag, nofun, nofun⟩

theorem sound_initial (route : Route) (client : Option Nat) : Sound (initial route client) :=
  ⟨nofun, id, nofun⟩

/-- With the condition, a client that was told CLOSED has heard the last of the
connection. -/
structure Orderly (state : State) : Prop extends Sound state where
  closed : ∀ frame ∈ state.told, frame.tellsClosed = true → state.conn.state = .closed
  last : state.told.Pairwise fun first second => first.tellsClosed = true → second.statusOrData = false

theorem notify_few (conn : Connection) : conn.notify.Pairwise fun _ _ => False := by
  unfold Connection.notify
  split
  next => exact List.pairwise_singleton _ _
  next => exact List.Pairwise.nil

theorem orderly_tell (orderly : Orderly state) {frames : List Frame} {conn : Connection} {pending : List Pending}
    (sound : Sound (State.tell frames { state with conn, pending }))
    (stays : state.conn.state = .closed → conn.state = .closed)
    (quiet : state.writable = true → ∀ frame ∈ frames, frame.statusOrData = true → state.conn.state ≠ .closed)
    (tells : ∀ frame ∈ frames, frame.tellsClosed = true → conn.state = .closed)
    (few : frames.Pairwise fun _ _ => False) : Orderly (State.tell frames { state with conn, pending }) := by
  refine ⟨sound, ?_, ?_⟩
  all_goals
    rw [tell_told]
    cases writable : state.writable
  · simp only [Bool.false_eq_true, if_false, List.append_nil, tell_conn]
    exact fun frame member told => stays (orderly.closed frame member told)
  · simp only [if_true, tell_conn]
    intro frame member told
    rcases List.mem_append.mp member with old | new
    · exact stays (orderly.closed frame old told)
    · exact tells frame new told
  · simp only [Bool.false_eq_true, if_false, List.append_nil]
    exact orderly.last
  · simp only [if_true]
    refine List.pairwise_append.mpr ⟨orderly.last, few.imp False.elim, ?_⟩
    intro first member second new told
    apply Bool.eq_false_iff.mpr
    intro heard
    exact quiet writable second new heard (orderly.closed first member told)

theorem orderly_change (orderly : Orderly state) {frames : List Frame} {conn : Connection} {pending : List Pending}
    (changes : Changes state.conn frames conn) (stays : state.conn.state = .closed → conn.state = .closed)
    (quiet : state.writable = true → frames ≠ [] → state.conn.state ≠ .closed) :
    Orderly (State.tell frames { state with conn, pending }) := by
  apply orderly_tell orderly (sound_change orderly.toSound changes) stays
  · exact fun writable frame member _ => quiet writable (List.ne_nil_of_mem member)
  · intro frame member told
    rcases changes.frames with none | notified
    · exact absurd (none ▸ member) List.not_mem_nil
    · exact (notify_closed (notified ▸ member)).2.mp told
  · rcases changes.frames with none | notified
    · exact none ▸ List.Pairwise.nil
    · exact notified ▸ notify_few conn

theorem setStatus_stays {conn : Connection} {status : ConnectionState} {err : Option String}
    (calm : conn.Closing → status = .closed) (closed : conn.state = .closed) :
    (conn.setStatus status err).1.state = .closed := by
  unfold Connection.setStatus
  split
  next => exact closed
  next unset => exact calm ⟨closed, Bool.eq_false_iff.mpr unset⟩

theorem safeClose_stays {conn : Connection} (closed : conn.state = .closed) : conn.safeClose.1.state = .closed := by
  unfold Connection.safeClose
  split
  next => exact closed
  next => rfl

theorem orderly_setStatus (orderly : Orderly state) {status : ConnectionState} {err : Option String} {pending : List Pending}
    (calm : state.conn.Closing → status = .closed ∧ state.writable = false) :
    Orderly (State.tell (state.conn.setStatus status err).2
      { state with conn := (state.conn.setStatus status err).1, pending }) := by
  apply orderly_change orderly (setStatus_changes orderly.flag status err) (setStatus_stays fun closing => (calm closing).1)
  unfold Connection.setStatus
  split
  next => exact fun _ some => absurd rfl some
  next unset =>
    intro writable _ closed
    have gone := (calm ⟨closed, Bool.eq_false_iff.mpr unset⟩).2
    rw [writable] at gone
    cases gone

theorem orderly_safeClose (orderly : Orderly state) (pending : List Pending) :
    Orderly (safeClose { state with pending }) := by
  apply orderly_change orderly (safeClose_changes orderly.flag) safeClose_stays
  unfold Connection.safeClose
  split
  next => exact fun _ some => absurd rfl some
  next =>
    intro _ some closed
    exact some (if_neg (not_not.mpr closed))

theorem orderly_step {event : Event} (orderly : Orderly state) (undisturbed : Undisturbed state event)
    (taken : step state event = some next) : Orderly next := by
  cases event with
  | updateStatus status err =>
    cases taken
    exact orderly_setStatus orderly undisturbed
  | safeClose =>
    cases taken
    exact orderly_safeClose orderly state.pending
  | closeClientConnections =>
    have sound := sound_step orderly.toSound taken
    delta step at taken
    dsimp only at taken
    split at taken
    next => cases taken
    next =>
      cases taken
      exact ⟨sound, fun _ _ _ => rfl, orderly.last⟩
  | sendCompleteMessage =>
    have sound := sound_step orderly.toSound taken
    cases taken
    split
    next => exact orderly
    next => exact ⟨⟨orderly.flag, orderly.client, orderly.told⟩, orderly.closed, orderly.last⟩
  | sendDataMessage message =>
    cases taken
    apply orderly_tell orderly (sound_tell orderly.toSound _ _) id
    · intro writable _ _ _ closed
      rw [undisturbed closed] at writable
      cases writable
    · intro frame member told
      cases List.mem_singleton.mp member
      cases told
    · exact List.pairwise_singleton _ _
  | resume call =>
    delta step at taken
    dsimp only at taken
    split at taken
    next =>
      cases taken
      exact orderly_safeClose orderly _
    next =>
      cases taken
      apply orderly_tell orderly (sound_tell orderly.toSound _ _) id
      · intro _ frame member heard
        cases List.mem_singleton.mp member
        cases heard
      · intro frame member told
        cases List.mem_singleton.mp member
        cases told
      · exact List.pairwise_singleton _ _
    next => cases taken
  | hangUp =>
    have sound := sound_step orderly.toSound taken
    cases taken
    exact ⟨sound, orderly.closed, orderly.last⟩

theorem orderly_initial (route : Route) (client : Option Nat) : Orderly (initial route client) :=
  ⟨sound_initial route client, nofun, List.Pairwise.nil⟩

theorem closed_step {event : Event} (undisturbed : Undisturbed state event) (taken : step state event = some next)
    (closed : state.conn.state = .closed) : next.conn.state = .closed := by
  cases event with
  | updateStatus status err =>
    cases taken
    rw [tell_conn]
    exact setStatus_stays (fun closing => (undisturbed closing).1) closed
  | safeClose =>
    cases taken
    exact (congrArg Connection.state (tell_conn _)).trans (safeClose_stays closed)
  | closeClientConnections =>
    delta step at taken
    dsimp only at taken
    split at taken
    next => cases taken
    next =>
      cases taken
      rfl
  | sendCompleteMessage =>
    cases taken
    split <;> exact closed
  | sendDataMessage message =>
    cases taken
    rw [tell_conn]
    exact closed
  | resume call =>
    delta step at taken
    dsimp only at taken
    split at taken
    next =>
      cases taken
      exact (congrArg Connection.state (tell_conn _)).trans (safeClose_stays closed)
    next =>
      cases taken
      rw [tell_conn]
      exact closed
    next => cases taken
  | hangUp =>
    cases taken
    exact closed

theorem told_once {told : List Frame}
    (last : told.Pairwise fun first second => first.tellsClosed = true → second.statusOrData = false) :
    told.countP Frame.tellsClosed ≤ 1 := by
  have news : ∀ frame : Frame, frame.tellsClosed = true → frame.statusOrData = true := by
    intro frame told
    unfold Frame.tellsClosed at told
    unfold Frame.statusOrData
    split at told
    next content => rw [content]
    next => cases told
  induction told with
  | nil => exact Nat.zero_le 1
  | cons frame rest ih =>
    obtain ⟨after, last⟩ := List.pairwise_cons.mp last
    by_cases tells : frame.tellsClosed = true
    · have silent : rest.countP Frame.tellsClosed = 0 := by
        rw [List.countP_eq_zero]
        intro other member told
        have quiet := after other member tells
        rw [news other told] at quiet
        cases quiet
      exact Nat.le_of_eq ((List.countP_cons_of_pos tells).trans (congrArg Nat.succ silent))
    · rw [List.countP_cons_of_neg tells]
      exact ih last

/-- A connection is closed for good exactly when no call disturbs its closing. -/
theorem closed_for_good_iff {route : Route} {client : Option Nat} {events : List Event} {final : State}
    (ran : run step (initial route client) events = some final) :
    ClosedForGood (initial route client) events ↔ Meets step Undisturbed (initial route client) events := by
  constructor
  · intro good
    rw [meets_iff_prefixes]
    intro before event after middle split reached
    have sound : Sound middle := always Sound (fun _ _ _ sound taken => sound_step sound taken) (sound_initial route client) reached
    rw [split] at ran
    obtain ⟨next, taken, reached'⟩ := run_between ran reached
    have shape : events = before ++ [event] ++ after := by simp [split]
    -- Whatever is sent once the client was told CLOSED is neither status nor data.
    have silent : ∀ frames, next.told = middle.told ++ frames → middle.writable = true → middle.conn.state = .closed →
        ∀ frame ∈ frames, frame.statusOrData = false := by
      intro frames told writable closed frame member
      obtain ⟨first, heard, tells⟩ := sound.told writable closed
      have last := good.last (before ++ [event]) after next shape reached'
      rw [told, List.pairwise_append] at last
      exact last.2.2 first heard frame member tells
    cases event with
    | updateStatus status err =>
      rintro ⟨closed, unset⟩
      have sets : middle.conn.setStatus status err = ({ middle.conn with state := status, error := err.getD "" },
          Connection.notify { middle.conn with state := status, error := err.getD "" }) := by
        simp [Connection.setStatus, unset]
      refine ⟨?_, Bool.eq_false_iff.mpr fun writable => ?_⟩
      · have stays := good.absorbing before [.updateStatus status err] after middle next shape reached
          (by rw [run_step taken, run_nil]) closed
        rw [step_updateStatus, Option.some.injEq] at taken
        subst taken
        rw [tell_conn, sets] at stays
        exact stays
      · have there := sound.client writable
        rw [step_updateStatus, Option.some.injEq] at taken
        subst taken
        have told := silent (middle.conn.setStatus status err).2 (by rw [tell_told]; simp [writable]) writable closed
        rw [sets] at told
        have heard := told _ (by simp only [Connection.notify, there, if_true]; exact List.mem_singleton_self _)
        cases heard
    | sendDataMessage message =>
      intro closed
      refine Bool.eq_false_iff.mpr fun writable => ?_
      cases taken
      have told := silent [createWrapperMessage middle.conn message] (by rw [tell_told]; simp [writable]) writable closed
      cases told _ (List.mem_singleton_self _)
    | _ => trivial
  · intro meets
    have orderly : ∀ before after state, events = before ++ after → run step (initial route client) before = some state →
        Orderly state := by
      rintro before after state rfl reached
      exact invariant Orderly (fun _ _ _ holds allowed taken => orderly_step holds allowed taken)
        (orderly_initial route client) (meets_before meets) reached
    refine ⟨?_, ?_, ?_⟩
    · rintro before between after first second rfl reached ran closed
      have later := meets_after (meets_before meets) reached
      exact invariant (fun state => state.conn.state = .closed)
        (fun _ _ _ closed allowed taken => closed_step allowed taken closed) closed later ran
    · exact fun before after state split reached => told_once (orderly before after state split reached).last
    · exact fun before after state split reached => (orderly before after state split reached).last

private def pods : Route := ⟨"prod", "/api/v1/pods", "watch=true", "alice"⟩

/-- A CLOSE by the client, with the calls of the reader and the monitor after it. -/
private def closing : List Event := [
  .updateStatus .connected none, .sendDataMessage ⟨false, [1], none⟩, .updateStatus .error (some "write failed"),
  .updateStatus .closed none, .resume 0, .safeClose, .sendCompleteMessage, .updateStatus .closed none]

theorem closing_for_good : ∃ last, run step (initial pods (some 0)) closing = some last ∧
    ClosedForGood (initial pods (some 0)) closing :=
  ⟨_, rfl, (closed_for_good_iff rfl).mpr (by decide)⟩

/-- A write to the cluster fails between the two parts of a CLOSE, and the reader has
a message in hand. -/
private def disturbed : List Event := [
  .updateStatus .connected none, .updateStatus .closed none, .updateStatus .error (some "write failed"), .resume 0,
  .sendDataMessage ⟨false, [1], none⟩]

theorem closed_told_twice : ¬ ∀ (route : Route) (client : Option Nat) (events : List Event) (final : State),
    run step (initial route client) events = some final → ClosedForGood (initial route client) events := by
  intro always
  have good := always pods (some 0) disturbed _ rfl
  have once := good.once disturbed [] _ (List.append_nil _).symm rfl
  exact absurd once (by decide)

end Lifecycle

end K8Sense.Multiplexer
