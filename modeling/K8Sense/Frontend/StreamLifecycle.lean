import K8Sense.Library.Transition

/-! The connections of a stream. Setting one up takes time, as the kubeconfig has to be found,
and one that is lost is set up again after three seconds. The stream can be cancelled at any time. -/

namespace K8Sense.Frontend.StreamLifecycle
open Transition

structure StreamArgs where
  reconnectOnFailure : Option Bool
  /-- There is a function to call when the connection fails. -/
  failCb : Bool

def StreamArgs.reconnects (args : StreamArgs) : Bool := args.reconnectOnFailure.getD !args.failCb

/-- What `connectStream` returns. There is no socket if it could not be created. -/
structure Connection where
  socket : Bool
  isClosing : Bool
deriving DecidableEq

structure Stream where
  isCancelled : Bool
  /-- How many calls of `connect` wait for their connection to be set up. -/
  waiting : Nat
  /-- The connections that have been set up. -/
  connections : List Connection
  /-- Those that have been set up, but not been assigned to `connection` yet. -/
  returned : List Nat
  connection : Option Nat
  /-- How many calls of `connect` are to come after three seconds. -/
  timers : Nat
  /-- How many messages have been given to the callback. -/
  delivered : Nat
  failures : Nat
deriving DecidableEq

/-- The call of `connect` with which a stream begins. -/
def stream : Stream := ⟨false, 1, [], [], none, 0, 0, 0⟩

inductive Event where
  /-- The connection is set up, with a socket or without one. -/
  | returns (socket : Bool)
  | rejects
  | assigned (index : Nat)
  /-- A message or the end of a connection comes from the network. -/
  | message (index : Nat)
  | closed (index : Nat)
  | timeout
  | cancel

def onFail (args : StreamArgs) (state : Stream) : Stream :=
  { state with
    failures := if args.failCb then state.failures + 1 else state.failures
    timers := if args.reconnects && !state.isCancelled then state.timers + 1 else state.timers }

def closing (index : Nat) (connections : List Connection) : List Connection :=
  connections.modify index fun connection => { connection with isClosing := true }

def cancel (state : Stream) : Stream :=
  { state with
    connections := state.connection.elim state.connections fun index => closing index state.connections
    isCancelled := true }

def step (args : StreamArgs) (state : Stream) : Event → Option Stream
  | .returns socket =>
    if state.waiting = 0 then none
    else some { state with
      waiting := state.waiting - 1
      connections := state.connections ++ [⟨socket, false⟩]
      returned := state.returned ++ [state.connections.length] }
  | .rejects => if state.waiting = 0 then none else some (onFail args { state with waiting := state.waiting - 1 })
  | .assigned index =>
    if index ∈ state.returned then some { state with returned := state.returned.erase index, connection := some index } else none
  | .message index =>
    (state.connections[index]?).bind fun connection =>
      if connection.socket then some (if connection.isClosing then state else { state with delivered := state.delivered + 1 }) else none
  | .closed index =>
    (state.connections[index]?).bind fun connection =>
      if connection.socket then
        some (if connection.isClosing then state else onFail args { state with connections := closing index state.connections })
      else none
  -- nothing looks here whether the stream has been cancelled
  | .timeout => if state.timers = 0 then none else some { state with timers := state.timers - 1, waiting := state.waiting + 1 }
  | .cancel => some (cancel state)

/-! One connection at a time. -/

/-- Messages of the connection are given to the callback. -/
def Connection.isOpen (connection : Connection) : Bool := connection.socket && !connection.isClosing

/-- The connections that are open, and those that are set up or are to be. -/
def live (state : Stream) : Nat := state.waiting + state.timers + state.connections.countP Connection.isOpen

theorem countP_closing (index : Nat) (connections : List Connection) :
    (closing index connections).countP Connection.isOpen ≤ connections.countP Connection.isOpen := by
  induction connections generalizing index with
  | nil => simp [closing]
  | cons connection rest ih =>
    cases index with
    | zero => simp [closing, List.countP_cons, Connection.isOpen]
    | succ index =>
      have tail := ih index
      simp only [closing, List.modify_succ_cons, List.countP_cons] at tail ⊢
      omega

theorem countP_closing_open {index : Nat} {connections : List Connection} {connection : Connection}
    (found : connections[index]? = some connection) (isOpen : connection.isOpen = true) :
    (closing index connections).countP Connection.isOpen + 1 = connections.countP Connection.isOpen := by
  induction connections generalizing index with
  | nil => cases found
  | cons first rest ih =>
    cases index with
    | zero =>
      cases found
      simp [closing, List.countP_cons, Connection.isOpen] at isOpen ⊢
      simp [isOpen]
    | succ index =>
      have tail := ih found
      simp only [closing, List.modify_succ_cons, List.countP_cons] at tail ⊢
      omega

theorem live_onFail (args : StreamArgs) (state : Stream) : live (onFail args state) ≤ live state + 1 := by
  unfold onFail live
  simp only
  split <;> omega

theorem step_live {args : StreamArgs} {state next : Stream} {event : Event} (single : live state ≤ 1) (taken : step args state event = some next) :
    live next ≤ 1 := by
  cases event with
  | returns socket =>
    rw [step] at taken
    split at taken
    · cases taken
    · cases taken
      unfold live at single ⊢
      simp only [List.countP_append, List.countP_singleton]
      split <;> omega
  | rejects =>
    rw [step] at taken
    split at taken
    · cases taken
    · cases taken
      have more := live_onFail args { state with waiting := state.waiting - 1 }
      unfold live at more single ⊢
      simp only at more
      omega
  | assigned index =>
    rw [step] at taken
    split at taken
    · cases taken
      exact single
    · cases taken
  | message index =>
    obtain ⟨connection, _, taken⟩ := Option.bind_eq_some_iff.mp taken
    split at taken
    · cases taken
      split <;> exact single
    · cases taken
  | closed index =>
    obtain ⟨connection, found, taken⟩ := Option.bind_eq_some_iff.mp taken
    split at taken
    next socket =>
      cases taken
      split
      · exact single
      next isOpen =>
        have fewer := countP_closing_open found (by simp [Connection.isOpen, socket, isOpen])
        have more := live_onFail args { state with connections := closing index state.connections }
        unfold live at more single ⊢
        simp only at more
        omega
    · cases taken
  | timeout =>
    rw [step] at taken
    split at taken
    · cases taken
    · cases taken
      unfold live at single ⊢
      simp only
      omega
  | cancel =>
    cases taken
    unfold live cancel at *
    cases state.connection with
    | none => exact single
    | some index =>
      have fewer := countP_closing index state.connections
      simp only [Option.elim_some]
      omega

/-- The connections of a stream that has been cancelled, and those that can still be set up. -/
def reserve (state : Stream) : Nat := state.connections.length + state.waiting + state.timers

theorem reserve_onFail (args : StreamArgs) {state : Stream} (cancelled : state.isCancelled = true) : reserve (onFail args state) = reserve state := by
  simp [onFail, reserve, cancelled]

theorem step_reserve {args : StreamArgs} {state next : Stream} {event : Event} (cancelled : state.isCancelled = true)
    (taken : step args state event = some next) : next.isCancelled = true ∧ reserve next ≤ reserve state := by
  cases event with
  | returns socket =>
    rw [step] at taken
    split at taken
    · cases taken
    · cases taken
      refine ⟨cancelled, ?_⟩
      unfold reserve
      simp only [List.length_append, List.length_singleton]
      omega
  | rejects =>
    rw [step] at taken
    split at taken
    · cases taken
    · cases taken
      refine ⟨cancelled, ?_⟩
      have same := @reserve_onFail args { state with waiting := state.waiting - 1 } cancelled
      rw [same]
      unfold reserve
      simp only
      omega
  | assigned index =>
    rw [step] at taken
    split at taken
    · cases taken
      exact ⟨cancelled, Nat.le_refl _⟩
    · cases taken
  | message index =>
    obtain ⟨connection, _, taken⟩ := Option.bind_eq_some_iff.mp taken
    split at taken
    · cases taken
      split <;> exact ⟨cancelled, Nat.le_refl _⟩
    · cases taken
  | closed index =>
    obtain ⟨connection, _, taken⟩ := Option.bind_eq_some_iff.mp taken
    split at taken
    · cases taken
      split
      · exact ⟨cancelled, Nat.le_refl _⟩
      · refine ⟨cancelled, ?_⟩
        have same := @reserve_onFail args { state with connections := closing index state.connections } cancelled
        rw [same]
        simp [reserve, closing]
    · cases taken
  | timeout =>
    rw [step] at taken
    split at taken
    · cases taken
    · cases taken
      refine ⟨cancelled, ?_⟩
      unfold reserve
      simp only
      omega
  | cancel =>
    cases taken
    refine ⟨rfl, ?_⟩
    unfold reserve cancel
    cases state.connection <;> simp [closing]

/-- At any time at most one connection is open, being set up or waited for. Once the stream
has been cancelled at most one more connection is set up. -/
theorem one_at_a_time {args : StreamArgs} {events : List Event} {state : Stream} (ran : run (step args) stream events = some state) :
    live state ≤ 1 ∧ ∀ later last, run (step args) (cancel state) later = some last →
      last.connections.length ≤ state.connections.length + 1 := by
  have single : live state ≤ 1 :=
    always (fun state => live state ≤ 1) (fun _ _ _ single taken => step_live single taken) (by decide) ran
  refine ⟨single, ?_⟩
  intro later last ran
  have kept := always (fun next => next.isCancelled = true ∧ reserve next ≤ reserve (cancel state)) ?_ ⟨rfl, Nat.le_refl _⟩ ran
  · have cancelled : reserve (cancel state) = reserve state := by
      unfold reserve cancel
      cases state.connection <;> simp [closing]
    have bound := kept.2
    rw [cancelled] at bound
    unfold live at single
    unfold reserve at bound
    omega
  · intro next event after holds taken
    obtain ⟨still, fewer⟩ := step_reserve holds.1 taken
    exact ⟨still, Nat.le_trans fewer holds.2⟩

/-- A connection is lost, and the stream is cancelled while the next one is set up. -/
theorem one_after_loss : ∃ state, run (step ⟨none, false⟩) stream [.returns true, .assigned 0, .message 0, .closed 0, .timeout] = some state ∧
    live state ≤ 1 ∧ ∀ later last, run (step ⟨none, false⟩) (cancel state) later = some last → last.connections.length ≤ state.connections.length + 1 :=
  ⟨_, rfl, @one_at_a_time ⟨none, false⟩ [.returns true, .assigned 0, .message 0, .closed 0, .timeout] _ rfl⟩

/-! Cancelling. -/

/-- No message can be given to the callback any more. -/
def Silent (state : Stream) : Prop := state.waiting = 0 ∧ state.timers = 0 ∧ ∀ connection ∈ state.connections, connection.isOpen = false

theorem mem_closing {index : Nat} {connections : List Connection} {connection : Connection} (member : connection ∈ closing index connections) :
    connection ∈ connections ∨ connection.isOpen = false := by
  obtain ⟨place, found⟩ := List.mem_iff_getElem?.mp member
  rw [closing, List.getElem?_modify] at found
  obtain ⟨old, before, rfl⟩ := Option.map_eq_some_iff.mp found
  split
  · exact .inr (by simp [Connection.isOpen])
  · exact .inl (List.mem_of_getElem? before)

theorem step_silent {args : StreamArgs} {state next : Stream} {event : Event} (silent : Silent state) (taken : step args state event = some next) :
    Silent next ∧ next.delivered = state.delivered := by
  obtain ⟨waiting, timers, closed⟩ := silent
  cases event with
  | returns socket => simp [step, waiting] at taken
  | rejects => simp [step, waiting] at taken
  | assigned index =>
    rw [step] at taken
    split at taken
    · cases taken
      exact ⟨⟨waiting, timers, closed⟩, rfl⟩
    · cases taken
  | message index =>
    obtain ⟨connection, found, taken⟩ := Option.bind_eq_some_iff.mp taken
    have shut := closed connection (List.mem_of_getElem? found)
    split at taken
    next socket =>
      cases taken
      have isClosing : connection.isClosing = true := by simpa [Connection.isOpen, socket] using shut
      rw [if_pos isClosing]
      exact ⟨⟨waiting, timers, closed⟩, rfl⟩
    · cases taken
  | closed index =>
    obtain ⟨connection, found, taken⟩ := Option.bind_eq_some_iff.mp taken
    have shut := closed connection (List.mem_of_getElem? found)
    split at taken
    next socket =>
      cases taken
      have isClosing : connection.isClosing = true := by simpa [Connection.isOpen, socket] using shut
      rw [if_pos isClosing]
      exact ⟨⟨waiting, timers, closed⟩, rfl⟩
    · cases taken
  | timeout => simp [step, timers] at taken
  | cancel =>
    cases taken
    refine ⟨⟨waiting, timers, ?_⟩, rfl⟩
    intro connection member
    unfold cancel at member
    cases is : state.connection with
    | none =>
      rw [is] at member
      exact closed connection member
    | some index =>
      rw [is] at member
      exact (mem_closing member).elim (closed connection) id

theorem run_silent {args : StreamArgs} {state last : Stream} {events : List Event} (silent : Silent state)
    (ran : run (step args) state events = some last) : last.delivered = state.delivered := by
  have both := always (fun next => Silent next ∧ next.delivered = state.delivered) ?_ ⟨silent, rfl⟩ ran
  · exact both.2
  · intro next event after holds taken
    obtain ⟨quiet, same⟩ := step_silent holds.1 taken
    exact ⟨quiet, same.trans holds.2⟩

theorem delivers_of_not_silent {args : StreamArgs} {state : Stream} (loud : ¬Silent state) :
    ∃ events last, run (step args) state events = some last ∧ last.delivered = state.delivered + 1 := by
  have set : ∀ state : Stream, state.waiting ≠ 0 → ∃ last,
      run (step args) state [.returns true, .message state.connections.length] = some last ∧ last.delivered = state.delivered + 1 := by
    intro state waits
    simp [run, step, waits]
  by_cases waits : state.waiting = 0
  · by_cases timers : state.timers = 0
    · -- a connection is open
      have opened : ∃ connection ∈ state.connections, connection.isOpen = true := by
        by_contra none'
        refine loud ⟨waits, timers, fun connection member => ?_⟩
        exact Bool.eq_false_iff.mpr fun isOpen => none' ⟨connection, member, isOpen⟩
      obtain ⟨connection, member, isOpen⟩ := opened
      obtain ⟨index, found⟩ := List.mem_iff_getElem?.mp member
      rw [Connection.isOpen, Bool.and_eq_true, Bool.not_eq_true'] at isOpen
      exact ⟨[.message index], { state with delivered := state.delivered + 1 }, by simp [run, step, found, isOpen], rfl⟩
    · obtain ⟨last, ran, more⟩ := set { state with timers := state.timers - 1, waiting := state.waiting + 1 } (Nat.succ_ne_zero _)
      refine ⟨[.timeout, .returns true, .message state.connections.length], last, ?_, more⟩
      rwa [run_step (by rw [step, if_neg timers])]
  · obtain ⟨last, ran, more⟩ := set state waits
    exact ⟨_, last, ran, more⟩

/-- After a stream has been cancelled no message is given to the callback, whatever comes,
exactly when no connection was being set up or waited for, and none was open but the assigned one. -/
theorem cancelled_iff (args : StreamArgs) (state : Stream) :
    (∀ events last, run (step args) (cancel state) events = some last → last.delivered = state.delivered) ↔
      state.waiting = 0 ∧ state.timers = 0 ∧
        ∀ index connection, state.connections[index]? = some connection → connection.isOpen = true → state.connection = some index := by
  have silent : Silent (cancel state) ↔ state.waiting = 0 ∧ state.timers = 0 ∧
      ∀ index connection, state.connections[index]? = some connection → connection.isOpen = true → state.connection = some index := by
    refine and_congr Iff.rfl (and_congr Iff.rfl ?_)
    constructor
    · intro closed index connection found isOpen
      by_contra other
      have kept : (cancel state).connections[index]? = some connection := by
        unfold cancel
        cases is : state.connection with
        | none => exact found
        | some assigned =>
          have apart : assigned ≠ index := fun same => other (is.trans (congrArg some same))
          simp [closing, apart, found]
      exact absurd isOpen (Bool.eq_false_iff.mp (closed connection (List.mem_of_getElem? kept)))
    · intro only connection member
      apply Bool.eq_false_iff.mpr
      intro isOpen
      obtain ⟨index, found⟩ := List.mem_iff_getElem?.mp member
      unfold cancel at found
      cases is : state.connection with
      | none =>
        rw [is] at found
        cases is.symm.trans (only index connection found isOpen)
      | some assigned =>
        rw [is] at found
        simp only [Option.elim_some, closing, List.getElem?_modify] at found
        obtain ⟨old, before, rfl⟩ := Option.map_eq_some_iff.mp found
        split at isOpen
        · simp [Connection.isOpen] at isOpen
        next apart => exact apart (Option.some.inj (is.symm.trans (only index old before isOpen)))
  rw [← silent]
  constructor
  · intro never
    by_contra loud
    obtain ⟨events, last, ran, more⟩ := @delivers_of_not_silent args _ loud
    have same : last.delivered = (cancel state).delivered := never events last ran
    omega
  · intro quiet events last ran
    have same : last.delivered = (cancel state).delivered := run_silent quiet ran
    exact same

end K8Sense.Frontend.StreamLifecycle
