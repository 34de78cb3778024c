import K8Sense.Frontend.WebSocketManager
import K8Sense.Library.Transition

/-! What the manager of the multiplexer's socket has when everything is at rest: one set of
keys with listeners, of active subscriptions and of streams. A lost connection is opened
again by the next call only. -/

namespace K8Sense.Frontend.WebSocketManager
open Transition

universe u v
variable {L : Type u} {E : Type v}

def phase (sockets : Nat → Option Socket) (socket : Nat) : Option ReadyState := (sockets socket).map Socket.readyState

def keys (activeSubscriptions : List (String × Subscription)) : List String := activeSubscriptions.map Prod.fst

/-- No call of `subscribe` waits, no timer runs, and no socket opens or closes. -/
structure Quiescent (state : State L E) : Prop where
  calls : ∀ call, state.calls call = none
  timers : ∀ key, state.pendingUnsubscribes key = none
  sockets : ∀ socket, phase state.sockets socket ≠ some .connecting ∧ phase state.sockets socket ≠ some .closing

def Live (state : State L E) (socket : Nat) : Prop := ∃ readyState, phase state.sockets socket = some readyState ∧ readyState ≠ .closed

/-- The keys with listeners are those of the active subscriptions, and the streams over the
one socket that is open are theirs. Where there is none, the next one that opens requests
them all. -/
structure Settled (state : State L E) : Prop where
  active : ∀ key, state.listeners key ≠ [] ↔ key ∈ keys state.activeSubscriptions
  single : ∀ first second, Live state first → Live state second → first = second
  streams : ∀ socket found, state.sockets socket = some found → Live state socket →
    state.current = some socket ∧ ∀ key, found.streams key = true ↔ key ∈ keys state.activeSubscriptions
  reconnects : (∀ socket, ¬Live state socket) → state.current = none ∧
    (state.activeSubscriptions ≠ [] → state.isReconnecting = true)

def Invocation.calls [DecidableEq L] {J : Type} (listener : L) : Invocation L E J → Bool
  | .onMessage other _ => other = listener
  | .onError _ _ => false

/-- Of a data message each listener of its key is told once, and no other. -/
def Delivers [DecidableEq L] (state : State L E) : Prop :=
  ∀ (J : Type) (json : JSON J) (message : WebSocketMessage) (update : Update J), message.clusterId ≠ "" → message.path ≠ "" →
    message.type ≠ "COMPLETE" → message.type ≠ "ERROR" → updateOf json message = some update → ∀ listener,
      (handleWebSocketMessage json message state).filter (Invocation.calls listener) =
        if state.subscribed (keyOf message) listener then [.onMessage listener update] else []

/-- A socket is created while no other one opens, and opens after the others have been
closed; a socket that cannot be constructed was to reconnect; what is requested is still
subscribed; and a key whose timer runs is not given up again. -/
def Orderly (state : State L E) : Event L E → Prop
  | .subscribe _ _ _ _ constructs => state.current = none → state.connecting = false →
    (∀ socket, phase state.sockets socket ≠ some .connecting) ∧
      (constructs = false → state.isReconnecting = true ∨ ∃ socket, phase state.sockets socket = some .closing)
  | .request call => ∀ waiting ∈ state.calls call, createKey waiting.subscription ∈ keys state.activeSubscriptions
  | .onopen _ => ∀ socket, phase state.sockets socket ≠ some .closing
  | .unsubscribe subscription _ _ => state.listeners (createKey subscription) = [] →
    state.pendingUnsubscribes (createKey subscription) = none
  | _ => True

/-! The listeners. -/

structure Listening (listeners : String → List L) (activeSubscriptions : List (String × Subscription))
    (pendingUnsubscribes : String → Option Subscription) (subscribed : String → L → Bool) : Prop where
  keyed : ∀ row ∈ activeSubscriptions, createKey row.2 = row.1
  listened : ∀ key listener, listener ∈ listeners key ↔ subscribed key listener = true
  distinct : ∀ key, (listeners key).Nodup
  timed : ∀ key subscription, pendingUnsubscribes key = some subscription → createKey subscription = key
  active : ∀ key, listeners key ≠ [] → key ∈ keys activeSubscriptions
  kept : ∀ key ∈ keys activeSubscriptions, listeners key ≠ [] ∨ pendingUnsubscribes key ≠ none

theorem mem_add {α : Type u} [DecidableEq α] {item other : α} {items : List α} : other ∈ add item items ↔ other ∈ items ∨ other = item := by
  unfold add
  split
  next present => exact ⟨.inl, fun either => either.elim id fun same => same ▸ present⟩
  next => simp

theorem add_nodup {α : Type u} [DecidableEq α] {item : α} {items : List α} (distinct : items.Nodup) : (add item items).Nodup := by
  unfold add
  split
  next => exact distinct
  next absent =>
    refine List.nodup_append.mpr ⟨distinct, List.nodup_singleton item, ?_⟩
    intro old inside new is same
    rw [same, List.mem_singleton.mp is] at inside
    exact absent inside

theorem subscribed_update [DecidableEq L] {subscribed : String → L → Bool} {key other : String} {listener found : L} {value : Bool} :
    Function.update subscribed key (Function.update (subscribed key) listener value) other found =
      if other = key ∧ found = listener then value else subscribed other found := by
  by_cases same : other = key
  · subst same
    by_cases this : found = listener
    · simp [this]
    · simp [this]
  · simp [same]

theorem ended_listening {state : State L E} (listening : Listening state.listeners state.activeSubscriptions
      state.pendingUnsubscribes state.subscribed) {key : String} (empty : state.listeners key = []) :
    Listening state.listeners (Keyed.erase key state.activeSubscriptions) (Function.update state.pendingUnsubscribes key none)
      state.subscribed := by
  refine ⟨?_, listening.listened, listening.distinct, ?_, ?_, ?_⟩
  · exact fun row member => listening.keyed row (List.mem_of_mem_filter member)
  · intro other timed pending
    by_cases same : other = key
    · subst same
      cases (Function.update_self _ _ _).symm.trans pending
    · rw [Function.update_of_ne same] at pending
      exact listening.timed other timed pending
  · intro other some
    rw [keys, Keyed.mem_erase_keys]
    exact ⟨listening.active other some, fun same => some (same ▸ empty)⟩
  · intro other active
    rw [keys, Keyed.mem_erase_keys] at active
    rw [Function.update_of_ne active.2]
    exact listening.kept other active.1

theorem kept_listening {state : State L E} (listening : Listening state.listeners state.activeSubscriptions
      state.pendingUnsubscribes state.subscribed) {key : String} (some : state.listeners key ≠ []) :
    Listening state.listeners state.activeSubscriptions (Function.update state.pendingUnsubscribes key none) state.subscribed := by
  refine ⟨listening.keyed, listening.listened, listening.distinct, ?_, listening.active, ?_⟩
  · intro other timed pending
    by_cases same : other = key
    · subst same
      cases (Function.update_self _ _ _).symm.trans pending
    · rw [Function.update_of_ne same] at pending
      exact listening.timed other timed pending
  · intro other active
    by_cases same : other = key
    · exact .inl (same ▸ some)
    · rw [Function.update_of_ne same]
      exact listening.kept other active

/-! The sockets and the calls. -/

/-- The socket opens or is open. -/
def Up (sockets : Nat → Option Socket) (socket : Nat) : Prop :=
  phase sockets socket = some .connecting ∨ phase sockets socket = some .opened

structure Sockets (sockets : Nat → Option Socket) (created : Nat) (socketMultiplexer : Option Nat) (connecting : Bool)
    (calls : Nat → Option Call) : Prop where
  fresh : ∀ socket, created ≤ socket → sockets socket = none
  single : ∀ first second, Up sockets first → Up sockets second → first = second
  inUse : ∀ socket, phase sockets socket = some .opened →
    socketMultiplexer = some socket ∧ connecting = false ∧ ∀ other, phase sockets other ≠ some .closing
  attempt : connecting = true → ∃ socket, phase sockets socket = some .connecting
  opening : ∀ call waiting socket, calls call = some waiting → waiting.wait = .opening socket → phase sockets socket = some .connecting
  blank : ∀ socket found, sockets socket = some found → found.readyState = .connecting → ∀ key, found.streams key = false

/-- A call for the key waits in one of the ways. -/
def Awaited (calls : Nat → Option Call) (key : String) (way : Wait → Prop) : Prop :=
  ∃ call waiting, calls call = some waiting ∧ createKey waiting.subscription = key ∧ way waiting.wait

/-- A call that goes on when the socket is open. -/
def onOpen (socket : Nat) (wait : Wait) : Prop := wait = .polling ∨ wait = .ready socket

def onAttempt (wait : Wait) : Prop := wait = .polling ∨ ∃ socket, wait = .opening socket

structure Streams (sockets : Nat → Option Socket) (active : List String) (isReconnecting connecting : Bool)
    (calls : Nat → Option Call) : Prop where
  inside : ∀ socket found, sockets socket = some found → found.readyState = .opened → ∀ key, found.streams key = true → key ∈ active
  served : ∀ socket found, sockets socket = some found → found.readyState = .opened → ∀ key ∈ active,
    found.streams key = true ∨ Awaited calls key (onOpen socket)
  waiting : (∀ socket, phase sockets socket ≠ some .opened) → active ≠ [] → isReconnecting = true ∨
    (∃ socket, phase sockets socket = some .closing) ∨ (connecting = true ∧ ∀ key ∈ active, Awaited calls key onAttempt)

structure Inv (state : State L E) : Prop where
  listening : Listening state.listeners state.activeSubscriptions state.pendingUnsubscribes state.subscribed
  sockets : Sockets state.sockets state.created state.socketMultiplexer state.connecting state.calls
  streams : Streams state.sockets (keys state.activeSubscriptions) state.isReconnecting state.connecting state.calls

theorem phase_update {sockets : Nat → Option Socket} {socket other : Nat} {found : Socket} :
    phase (Function.update sockets socket (some found)) other = if other = socket then some found.readyState else phase sockets other := by
  by_cases same : other = socket
  · subst same
    simp [phase]
  · simp [phase, same]

theorem phase_some {sockets : Nat → Option Socket} {socket : Nat} {found : Socket} (is : sockets socket = some found) :
    phase sockets socket = some found.readyState := by
  rw [phase, is]
  rfl

theorem current_some {state : State L E} {socket : Nat} :
    state.current = some socket ↔ state.socketMultiplexer = some socket ∧ phase state.sockets socket = some .opened := by
  unfold State.current State.isOpen phase
  rw [Option.filter_eq_some_iff]
  refine and_congr_right fun _ => ?_
  cases state.sockets socket <;> simp

theorem current_none {state : State L E} (inv : Inv state) :
    state.current = none ↔ ∀ socket, phase state.sockets socket ≠ some .opened := by
  constructor
  · intro none socket opened
    have some := current_some.mpr ⟨(inv.sockets.inUse socket opened).1, opened⟩
    cases none.symm.trans some
  · intro unopened
    cases current : state.current with
    | none => rfl
    | some socket => exact absurd (current_some.mp current).2 (unopened socket)

theorem Awaited.added {calls : Nat → Option Call} {key : String} {way : Wait → Prop} (awaited : Awaited calls key way)
    {call : Nat} (free : calls call = none) (value : Option Call) : Awaited (Function.update calls call value) key way := by
  obtain ⟨other, waiting, is, named, ready⟩ := awaited
  refine ⟨other, waiting, ?_, named, ready⟩
  rw [Function.update_of_ne]
  · exact is
  · rintro rfl
    cases free.symm.trans is

theorem Awaited.map {calls later : Nat → Option Call} {key : String} {way other : Wait → Prop} (awaited : Awaited calls key way)
    (turn : ∀ call waiting, calls call = some waiting → createKey waiting.subscription = key → way waiting.wait →
      ∃ next, later call = some next ∧ next.subscription = waiting.subscription ∧ other next.wait) : Awaited later key other := by
  obtain ⟨call, waiting, is, named, ready⟩ := awaited
  obtain ⟨next, after, same, goes⟩ := turn call waiting is named ready
  exact ⟨call, next, after, by rw [same, named], goes⟩

theorem up_update {sockets : Nat → Option Socket} {socket other : Nat} {found : Socket} (down : found.readyState ≠ .connecting ∧ found.readyState ≠ .opened)
    (up : Up (Function.update sockets socket (some found)) other) : other ≠ socket ∧ Up sockets other := by
  unfold Up at up ⊢
  rw [phase_update] at up
  split at up
  next => exact absurd up (by simp [down])
  next different => exact ⟨different, up⟩

theorem fresh_update {sockets : Nat → Option Socket} {created socket : Nat} {found value : Socket}
    (fresh : ∀ socket, created ≤ socket → sockets socket = none) (is : sockets socket = some found) :
    ∀ other, created ≤ other → Function.update sockets socket (some value) other = none := by
  intro other later
  rw [Function.update_of_ne]
  · exact fresh other later
  · rintro rfl
    cases (fresh other later).symm.trans is

theorem blank_update {sockets : Nat → Option Socket} {socket : Nat} {value : Socket}
    (blank : ∀ socket found, sockets socket = some found → found.readyState = .connecting → ∀ key, found.streams key = false)
    (other : value.readyState ≠ .connecting) : ∀ socket' found, Function.update sockets socket (some value) socket' = some found →
      found.readyState = .connecting → ∀ key, found.streams key = false := by
  intro socket' found is attempt
  by_cases same : socket' = socket
  · subst same
    cases (Function.update_self _ _ _).symm.trans is
    exact absurd attempt other
  · rw [Function.update_of_ne same] at is
    exact blank socket' found is attempt

/-! A socket is lost. -/

theorem onerror_inv {state next : State L E} {socket : Nat} (inv : Inv state) (taken : state.onerror socket = some next) : Inv next := by
  obtain ⟨listening, sockets, streams⟩ := inv
  have lost : ∀ found : Socket, state.sockets socket = some found → Up state.sockets socket →
      Inv { state.setSocket socket ⟨.closing, found.streams⟩ with
        connecting := false
        calls := fun call => (state.calls call).filter fun waiting => waiting.wait ≠ .opening socket } := by
    intro found is up
    have none : ∀ other, phase (Function.update state.sockets socket (some ⟨.closing, found.streams⟩)) other ≠ some .opened := by
      intro other opened
      obtain ⟨different, above⟩ := up_update (by simp) (.inr opened)
      exact different (sockets.single other socket above up)
    refine ⟨listening, ⟨fresh_update sockets.fresh is, ?_, ?_, nofun, ?_, blank_update sockets.blank (by simp)⟩, ?_, ?_, ?_⟩
    · intro first second left right
      exact sockets.single first second (up_update (by simp) left).2 (up_update (by simp) right).2
    · exact fun other opened => absurd opened (none other)
    · intro call waiting other held attempt
      obtain ⟨waits, kept⟩ := Option.filter_eq_some_iff.mp held
      have before := sockets.opening call waiting other waits attempt
      cases sockets.single other socket (.inl before) up
      simp [attempt] at kept
    · exact fun other value held opened => absurd ((phase_some held).trans (congrArg some opened)) (none other)
    · exact fun other value held opened => absurd ((phase_some held).trans (congrArg some opened)) (none other)
    · intro _ _
      exact .inr (.inl ⟨socket, by rw [State.setSocket, phase_update, if_pos rfl]⟩)
  unfold State.onerror at taken
  split at taken
  next found is =>
    cases taken
    exact lost _ is (.inl (phase_some is))
  next found is =>
    cases taken
    exact lost _ is (.inr (phase_some is))
  next => cases taken

theorem closing_inv {state next : State L E} {socket : Nat} (inv : Inv state) (taken : state.closing socket = some next) : Inv next := by
  obtain ⟨listening, sockets, streams⟩ := inv
  unfold State.closing at taken
  split at taken
  next held is =>
    cases taken
    have opened := phase_some is
    have up : Up state.sockets socket := .inr opened
    have none : ∀ other, phase (Function.update state.sockets socket (some ⟨.closing, held⟩)) other ≠ some .opened := by
      intro other opened
      obtain ⟨different, above⟩ := up_update (by simp) (.inr opened)
      exact different (sockets.single other socket above up)
    refine ⟨listening, ⟨fresh_update sockets.fresh is, ?_, ?_, ?_, ?_, blank_update sockets.blank (by simp)⟩, ?_, ?_, ?_⟩
    · intro first second left right
      exact sockets.single first second (up_update (by simp) left).2 (up_update (by simp) right).2
    · exact fun other opened => absurd opened (none other)
    · intro connecting
      cases (sockets.inUse socket opened).2.1.symm.trans connecting
    · intro call waiting other waits attempt
      have before := sockets.opening call waiting other waits attempt
      cases sockets.single other socket (.inl before) up
      cases opened.symm.trans before
    · exact fun other value held opened => absurd ((phase_some held).trans (congrArg some opened)) (none other)
    · exact fun other value held opened => absurd ((phase_some held).trans (congrArg some opened)) (none other)
    · intro _ _
      exact .inr (.inl ⟨socket, by rw [State.setSocket, phase_update, if_pos rfl]⟩)
  next => cases taken

theorem onclose_inv {state next : State L E} {socket : Nat} (inv : Inv state) (taken : state.onclose socket = some next) : Inv next := by
  obtain ⟨listening, sockets, streams⟩ := inv
  have closed : ∀ found : Socket, state.sockets socket = some found → found.readyState = .opened ∨ found.readyState = .closing →
      Inv (state.setSocket socket ⟨.closed, found.streams⟩).handleWebSocketClose := by
    intro found is either
    have none : ∀ other, phase (Function.update state.sockets socket (some ⟨.closed, found.streams⟩)) other ≠ some .opened := by
      intro other opened
      obtain ⟨different, above⟩ := up_update (by simp) (.inr opened)
      rw [phase_update, if_neg different] at opened
      rcases either with same | closing
      · exact different (sockets.single other socket above (.inr ((phase_some is).trans (congrArg some same))))
      · exact (sockets.inUse other opened).2.2 socket ((phase_some is).trans (congrArg some closing))
    refine ⟨listening, ⟨fresh_update sockets.fresh is, ?_, ?_, nofun, ?_, blank_update sockets.blank (by simp)⟩, ?_, ?_, ?_⟩
    · intro first second left right
      exact sockets.single first second (up_update (by simp) left).2 (up_update (by simp) right).2
    · exact fun other opened => absurd opened (none other)
    · intro call waiting other waits attempt
      have before := sockets.opening call waiting other waits attempt
      have different : other ≠ socket := by
        rintro rfl
        have attempts := Option.some.inj ((phase_some is).symm.trans before)
        rw [attempts] at either
        rcases either with same | same <;> cases same
      exact phase_update.trans ((if_neg different).trans before)
    · exact fun other value held opened => absurd ((phase_some held).trans (congrArg some opened)) (none other)
    · exact fun other value held opened => absurd ((phase_some held).trans (congrArg some opened)) (none other)
    · intro _ some
      refine .inl ?_
      have nonempty : state.activeSubscriptions ≠ [] := fun empty => some (by rw [keys]; exact congrArg (List.map Prod.fst) empty)
      simpa [State.handleWebSocketClose, State.setSocket] using nonempty
  unfold State.onclose at taken
  split at taken
  next found is =>
    cases taken
    exact closed _ is (.inl rfl)
  next found is =>
    cases taken
    exact closed _ is (.inr rfl)
  next => cases taken

/-! The steps of a `subscribe`. -/

theorem registered_streams {state : State L E} (inv : Inv state) {subscription : Subscription} {call : Nat}
    (free : state.calls call = none) {wait : Wait}
    (served : ∀ socket, phase state.sockets socket = some .opened → onOpen socket wait)
    (waiting : (∀ socket, phase state.sockets socket ≠ some .opened) → state.connecting = true ∧ onAttempt wait) :
    Streams state.sockets (keys (Keyed.upsert (createKey subscription) subscription (fun _ => subscription) state.activeSubscriptions))
      state.isReconnecting state.connecting (Function.update state.calls call (some ⟨subscription, wait⟩)) := by
  have own : ∀ way, way wait → Awaited (Function.update state.calls call (some ⟨subscription, wait⟩)) (createKey subscription) way :=
    fun way ready => ⟨call, _, Function.update_self _ _ _, rfl, ready⟩
  refine ⟨?_, ?_, ?_⟩
  · intro socket found is opened key streamed
    rw [keys, Keyed.mem_upsert_keys]
    exact .inl (inv.streams.inside socket found is opened key streamed)
  · intro socket found is opened key active
    rw [keys, Keyed.mem_upsert_keys] at active
    rcases active with old | rfl
    · exact (inv.streams.served socket found is opened key old).imp id fun awaited => awaited.added free _
    · exact .inr (own _ (served socket ((phase_some is).trans (congrArg some opened))))
  · intro unopened _
    obtain ⟨connecting, attempt⟩ := waiting unopened
    by_cases none : keys state.activeSubscriptions = []
    · refine .inr (.inr ⟨connecting, fun key active => ?_⟩)
      rw [keys, Keyed.mem_upsert_keys] at active
      rcases active with old | rfl
      · rw [keys] at none
        rw [none] at old
        cases old
      · exact own _ attempt
    · refine (inv.streams.waiting unopened none).imp id fun later => later.imp id fun ⟨connecting, awaited⟩ => ⟨connecting, ?_⟩
      intro key active
      rw [keys, Keyed.mem_upsert_keys] at active
      rcases active with old | rfl
      · exact (awaited key old).added free _
      · exact own _ attempt

theorem opening_update {sockets : Nat → Option Socket} {calls : Nat → Option Call}
    (opening : ∀ call waiting socket, calls call = some waiting → waiting.wait = .opening socket → phase sockets socket = some .connecting)
    {call : Nat} {value : Option Call} (settled : ∀ waiting ∈ value, ∀ socket, waiting.wait ≠ .opening socket) :
    ∀ call' waiting socket, Function.update calls call value call' = some waiting → waiting.wait = .opening socket →
      phase sockets socket = some .connecting := by
  intro call' waiting socket held attempt
  by_cases same : call' = call
  · subst same
    exact absurd attempt (settled waiting ((Function.update_self call' value calls).symm.trans held) socket)
  · rw [Function.update_of_ne same] at held
    exact opening call' waiting socket held attempt

theorem checkConnection_inv {state next : State L E} {call : Nat} (inv : Inv state) (taken : state.checkConnection call = some next) :
    Inv next := by
  obtain ⟨listening, sockets, streams⟩ := inv
  unfold State.checkConnection at taken
  split at taken
  next subscription waits =>
    split at taken
    next socket current =>
      cases taken
      have opened := (current_some.mp current).2
      refine ⟨listening, ⟨sockets.fresh, sockets.single, sockets.inUse, sockets.attempt, ?_, sockets.blank⟩, streams.inside, ?_, ?_⟩
      · exact opening_update sockets.opening (by simp)
      · intro other found is up key active
        refine (streams.served other found is up key active).imp id fun awaited => awaited.map ?_
        intro call' waiting held named ready
        by_cases same : call' = call
        · subst same
          cases waits.symm.trans held
          cases sockets.single other socket (.inr ((phase_some is).trans (congrArg some up))) (.inr opened)
          exact ⟨_, Function.update_self _ _ _, rfl, .inr rfl⟩
        · exact ⟨waiting, (Function.update_of_ne same _ _).trans held, rfl, ready⟩
      · exact fun unopened => absurd opened (unopened socket)
    next missing =>
      have unopened := (current_none ⟨listening, sockets, streams⟩).mp missing
      split at taken
      next =>
        cases taken
        exact ⟨listening, sockets, streams⟩
      next idle =>
        cases taken
        refine ⟨listening, ⟨sockets.fresh, sockets.single, sockets.inUse, sockets.attempt, ?_, sockets.blank⟩, streams.inside, ?_, ?_⟩
        · exact opening_update sockets.opening (by simp)
        · exact fun other found is up => absurd ((phase_some is).trans (congrArg some up)) (unopened other)
        · intro _ some
          exact (streams.waiting unopened some).imp id fun later => later.imp id fun attempt => absurd attempt.1 idle
  next => cases taken

theorem send_phase (state : State L E) (socket : Nat) (requested : Bool) (key : String) :
    phase (state.send socket requested key).sockets = phase state.sockets := by
  unfold State.send
  split
  next streams is =>
    funext other
    rw [State.setSocket, phase_update]
    split
    next same => rw [same, phase_some is]
    next => rfl
  next => rfl

theorem send_socket {state : State L E} {socket other : Nat} {requested : Bool} {key : String} {found : Socket}
    (is : (state.send socket requested key).sockets other = some found) : ∃ before, state.sockets other = some before ∧
      found.readyState = before.readyState ∧ (found = before ∨ other = socket ∧ found.streams = Function.update before.streams key requested) := by
  unfold State.send at is
  split at is
  next streams opened =>
    by_cases same : other = socket
    · subst same
      cases (Function.update_self _ _ _).symm.trans is
      exact ⟨_, opened, rfl, .inr ⟨rfl, rfl⟩⟩
    · exact ⟨found, (Function.update_of_ne same _ _).symm.trans is, rfl, .inl rfl⟩
  next => exact ⟨found, is, rfl, .inl rfl⟩

theorem send_opened {state : State L E} {socket : Nat} {requested : Bool} {key : String} {found : Socket}
    (is : (state.send socket requested key).sockets socket = some found) (opened : found.readyState = .opened) :
    found.streams key = requested := by
  unfold State.send at is
  split at is
  next streams _ =>
    cases (Function.update_self _ _ _).symm.trans is
    exact Function.update_self _ _ _
  next closed => exact absurd (by rw [is, ← opened]) (closed found.streams)

theorem send_sockets {state : State L E} (sockets : Sockets state.sockets state.created state.socketMultiplexer state.connecting state.calls)
    (socket : Nat) (requested : Bool) (key : String) :
    Sockets (state.send socket requested key).sockets state.created state.socketMultiplexer state.connecting state.calls := by
  have phases := send_phase state socket requested key
  refine ⟨?_, ?_, ?_, ?_, ?_, ?_⟩
  · intro other later
    cases is : (state.send socket requested key).sockets other with
    | none => rfl
    | some found =>
      obtain ⟨before, held, -⟩ := send_socket is
      cases (sockets.fresh other later).symm.trans held
  · unfold Up
    rw [phases]
    exact sockets.single
  · rw [phases]
    exact sockets.inUse
  · rw [phases]
    exact sockets.attempt
  · rw [phases]
    exact sockets.opening
  · intro other found is attempt
    obtain ⟨before, held, same, either⟩ := send_socket is
    rcases either with rfl | ⟨rfl, _⟩
    · exact sockets.blank other found held attempt
    · unfold State.send at is
      split at is
      next =>
        cases (Function.update_self _ _ _).symm.trans is
        cases attempt
      next => exact sockets.blank other found is attempt

theorem send_rest (state : State L E) (socket : Nat) (requested : Bool) (key : String) :
    ∃ sockets, state.send socket requested key = { state with sockets } := by
  unfold State.send
  split
  next streams _ => exact ⟨_, rfl⟩
  next => exact ⟨state.sockets, rfl⟩

theorem request_inv {state next : State L E} {call : Nat} (inv : Inv state) (orderly : Orderly state (.request call : Event L E))
    (taken : state.request call = some next) : Inv next := by
  obtain ⟨listening, sockets, streams⟩ := inv
  unfold State.request at taken
  split at taken
  next subscription socket waits =>
    cases taken
    have active : createKey subscription ∈ keys state.activeSubscriptions := orderly ⟨subscription, .ready socket⟩ waits
    have sent := send_sockets sockets socket true (createKey subscription)
    have phases := send_phase state socket true (createKey subscription)
    have rest := send_rest state socket true (createKey subscription)
    have keeps : ∀ {found other key}, (state.send socket true (createKey subscription)).sockets other = some found →
        ∀ before, state.sockets other = some before → before.streams key = true → found.streams key = true := by
      intro found other key is before held streamed
      obtain ⟨same, is', -, either⟩ := send_socket is
      cases held.symm.trans is'
      rcases either with rfl | ⟨-, changed⟩
      · exact streamed
      · rw [changed]
        by_cases named : key = createKey subscription
        · rw [named, Function.update_self]
        · rwa [Function.update_of_ne named]
    have grown : Streams (state.send socket true (createKey subscription)).sockets (keys state.activeSubscriptions)
        state.isReconnecting state.connecting (Function.update state.calls call none) := by
      refine ⟨?_, ?_, ?_⟩
      · intro other found is opened key streamed
        obtain ⟨before, held, same, either⟩ := send_socket is
        rcases either with rfl | ⟨-, changed⟩
        · exact streams.inside other found held opened key streamed
        · rw [changed] at streamed
          by_cases named : key = createKey subscription
          · exact named ▸ active
          · rw [Function.update_of_ne named] at streamed
            exact streams.inside other before held (same ▸ opened) key streamed
      · intro other found is opened key inside
        obtain ⟨before, held, same, -⟩ := send_socket is
        rcases streams.served other before held (same ▸ opened) key inside with streamed | ⟨call', waiting, held', named, ready⟩
        · exact .inl (keeps is before held streamed)
        · by_cases this : call' = call
          · subst this
            cases waits.symm.trans held'
            rcases ready with polling | ready
            · cases polling
            · cases ready
              have sent := send_opened is opened
              rw [named] at sent
              exact .inl sent
          · exact .inr ⟨call', waiting, (Function.update_of_ne this _ _).trans held', named, ready⟩
      · intro unopened some
        rw [phases] at unopened
        refine (streams.waiting unopened some).imp id fun later => later.imp (fun closing => phases ▸ closing) fun ⟨connecting, awaited⟩ => ⟨connecting, ?_⟩
        intro key inside
        obtain ⟨call', waiting, held', named, ready⟩ := awaited key inside
        refine ⟨call', waiting, ?_, named, ready⟩
        rw [Function.update_of_ne]
        · exact held'
        · rintro rfl
          cases waits.symm.trans held'
          rcases ready with polling | ⟨_, opening⟩
          · cases polling
          · cases opening
    obtain ⟨others, same⟩ := rest
    rw [same] at sent grown ⊢
    exact ⟨listening, ⟨sent.fresh, sent.single, sent.inUse, sent.attempt, opening_update sent.opening (by simp), sent.blank⟩, grown⟩
  next => cases taken

theorem resubscribeAll_streams {activeSubscriptions : List (String × Subscription)}
    (keyed : ∀ row ∈ activeSubscriptions, createKey row.2 = row.1) (streams : String → Bool) (key : String) :
    State.resubscribeAll activeSubscriptions streams key = true ↔ key ∈ keys activeSubscriptions ∨ streams key = true := by
  induction activeSubscriptions generalizing streams with
  | nil => simp [State.resubscribeAll, keys]
  | cons row rest ih =>
    rw [List.forall_mem_cons] at keyed
    have later := ih keyed.2 (Function.update streams (createKey row.2) true)
    rw [keyed.1] at later
    rw [State.resubscribeAll, List.foldl_cons, keyed.1]
    refine later.trans ?_
    have either : key ∈ keys (row :: rest) ↔ key = row.1 ∨ key ∈ keys rest := List.mem_cons
    rw [either]
    by_cases same : key = row.1
    · simp [same]
    · simp [same]

theorem onopen_inv {state next : State L E} {socket : Nat} (inv : Inv state) (orderly : Orderly state (.onopen socket : Event L E))
    (taken : state.onopen socket = some next) : Inv next := by
  obtain ⟨listening, sockets, streams⟩ := inv
  unfold State.onopen at taken
  split at taken
  next blank is =>
    cases taken
    have attempt := phase_some is
    have alone : ∀ other, Up state.sockets other → other = socket := fun other up => sockets.single other socket up (.inl attempt)
    have unopened : ∀ other, phase state.sockets other ≠ some .opened := by
      intro other opened
      cases alone other (.inr opened)
      cases attempt.symm.trans opened
    have above : ∀ other value, Up (Function.update state.sockets socket (some ⟨.opened, value⟩)) other → other = socket := by
      intro other value up
      by_contra different
      unfold Up at up
      rw [phase_update, if_neg different] at up
      exact different (alone other up)
    refine ⟨listening, ⟨fresh_update sockets.fresh is, ?_, ?_, nofun, ?_, blank_update sockets.blank (by simp)⟩, ?_, ?_, ?_⟩
    · exact fun first second left right => (above first _ left).trans (above second _ right).symm
    · intro other opened
      cases above other _ (.inr opened)
      refine ⟨rfl, rfl, fun another closing => ?_⟩
      rw [State.setSocket, phase_update] at closing
      split at closing
      next => cases closing
      next => exact orderly another closing
    · intro call waiting other held opening
      obtain ⟨before, waits, same⟩ := Option.map_eq_some_iff.mp held
      split at same
      next => cases same; cases opening
      next different =>
        cases same
        have attempts := sockets.opening call waiting other waits opening
        cases alone other (.inl attempts)
        exact absurd opening different
    · intro other found held opened key streamed
      cases above other _ (.inr ((phase_some held).trans (congrArg some opened)))
      cases (Function.update_self socket _ _).symm.trans held
      dsimp only at streamed
      split at streamed
      next =>
        rcases (resubscribeAll_streams listening.keyed _ _).mp streamed with active | already
        · exact active
        · cases (sockets.blank socket _ is rfl key).symm.trans already
      next => cases (sockets.blank socket _ is rfl key).symm.trans streamed
    · intro other found held opened key active
      cases above other _ (.inr ((phase_some held).trans (congrArg some opened)))
      cases (Function.update_self socket _ _).symm.trans held
      dsimp only
      split
      next => exact .inl ((resubscribeAll_streams listening.keyed _ _).mpr (.inl active))
      next fresh =>
        refine .inr ?_
        rcases streams.waiting unopened (List.ne_nil_of_mem active) with again | ⟨another, closing⟩ | ⟨-, awaited⟩
        · exact absurd again fresh
        · exact absurd closing (orderly another)
        · refine (awaited key active).map ?_
          rintro call waiting held' - (polling | ⟨another, opening⟩)
          · refine ⟨waiting, ?_, rfl, .inl polling⟩
            rw [held', Option.map_some, if_neg (by rw [polling]; exact Wait.noConfusion)]
          · cases alone another (.inl (sockets.opening call waiting another held' opening))
            refine ⟨⟨waiting.subscription, .ready socket⟩, ?_, rfl, .inr rfl⟩
            rw [held', Option.map_some, if_pos opening]
    · intro none
      exact absurd (phase_update.trans (if_pos rfl)) (none socket)
  next => cases taken

theorem erase_waiting {state : State L E} (inv : Inv state) (key : String)
    (unopened : ∀ socket, phase state.sockets socket ≠ some .opened) (some : keys (Keyed.erase key state.activeSubscriptions) ≠ []) :
    state.isReconnecting = true ∨ (∃ socket, phase state.sockets socket = .some .closing) ∨
      (state.connecting = true ∧ ∀ other ∈ keys (Keyed.erase key state.activeSubscriptions), Awaited state.calls other onAttempt) := by
  have before : ∀ other ∈ keys (Keyed.erase key state.activeSubscriptions), other ∈ keys state.activeSubscriptions :=
    fun other active => (Keyed.mem_erase_keys.mp active).1
  obtain ⟨other, active⟩ := List.exists_mem_of_ne_nil _ some
  refine (inv.streams.waiting unopened (List.ne_nil_of_mem (before other active))).imp id fun later => later.imp id fun attempt => ?_
  exact ⟨attempt.1, fun other active => attempt.2 other (before other active)⟩

theorem closed_streams {state : State L E} (inv : Inv state) {socket : Nat} (opened : phase state.sockets socket = some .opened)
    (key : String) : Streams (state.send socket false key).sockets (keys (Keyed.erase key state.activeSubscriptions))
      state.isReconnecting state.connecting state.calls := by
  have phases := send_phase state socket false key
  have others : ∀ {other found other'}, (state.send socket false key).sockets other = some found → other' ≠ key →
      ∃ before, state.sockets other = some before ∧ found.readyState = before.readyState ∧ found.streams other' = before.streams other' := by
    intro other found other' is different
    obtain ⟨before, held, same, either⟩ := send_socket is
    refine ⟨before, held, same, ?_⟩
    rcases either with rfl | ⟨-, changed⟩
    · rfl
    · rw [changed, Function.update_of_ne different]
  refine ⟨?_, ?_, ?_⟩
  · intro other found is up other' streamed
    have above : Up state.sockets other := .inr (phases ▸ (phase_some is).trans (congrArg some up))
    cases inv.sockets.single other socket above (.inr opened)
    have different : other' ≠ key := by
      rintro rfl
      cases (send_opened is up).symm.trans streamed
    obtain ⟨before, held, same, streams⟩ := others is different
    exact Keyed.mem_erase_keys.mpr ⟨inv.streams.inside socket before held (same ▸ up) other' (streams ▸ streamed), different⟩
  · intro other found is up other' active
    obtain ⟨inside, different⟩ := Keyed.mem_erase_keys.mp active
    obtain ⟨before, held, same, streams⟩ := others is different
    rw [streams]
    exact inv.streams.served other before held (same ▸ up) other' inside
  · intro unopened
    rw [phases] at unopened
    exact absurd opened (unopened socket)

theorem created_inv {state : State L E} (inv : Inv state) (subscription : Subscription) {call : Nat} (free : state.calls call = none)
    (unopened : ∀ socket, phase state.sockets socket ≠ some .opened) (alone : ∀ socket, phase state.sockets socket ≠ some .connecting)
    (idle : state.connecting = false) :
    Sockets (Function.update state.sockets state.created (some ⟨.connecting, fun _ => false⟩)) (state.created + 1)
        state.socketMultiplexer true (Function.update state.calls call (some ⟨subscription, .opening state.created⟩)) ∧
      Streams (Function.update state.sockets state.created (some ⟨.connecting, fun _ => false⟩))
        (keys (Keyed.upsert (createKey subscription) subscription (fun _ => subscription) state.activeSubscriptions))
        state.isReconnecting true (Function.update state.calls call (some ⟨subscription, .opening state.created⟩)) := by
  obtain ⟨-, sockets, streams⟩ := inv
  have above : ∀ other, Up (Function.update state.sockets state.created (some ⟨.connecting, fun _ => false⟩)) other →
      other = state.created := by
    intro other up
    by_contra different
    unfold Up at up
    rw [phase_update, if_neg different] at up
    exact up.elim (alone other) (unopened other)
  have shut : ∀ other, phase (Function.update state.sockets state.created (some ⟨.connecting, fun _ => false⟩)) other ≠ some .opened := by
    intro other opened
    rw [phase_update] at opened
    split at opened
    next => cases opened
    next => exact unopened other opened
  refine ⟨⟨?_, ?_, ?_, ?_, ?_, ?_⟩, ?_, ?_, ?_⟩
  · intro other later
    rw [Function.update_of_ne (by omega)]
    exact sockets.fresh other (by omega)
  · exact fun first second left right => (above first left).trans (above second right).symm
  · exact fun other opened => absurd opened (shut other)
  · exact fun _ => ⟨state.created, phase_update.trans (if_pos rfl)⟩
  · intro call' waiting other held attempt
    by_cases same : call' = call
    · subst same
      cases (Function.update_self call' _ state.calls).symm.trans held
      cases attempt
      exact phase_update.trans (if_pos rfl)
    · rw [Function.update_of_ne same] at held
      exact absurd (sockets.opening call' waiting other held attempt) (alone other)
  · intro other found is attempt
    by_cases same : other = state.created
    · subst same
      cases (Function.update_self _ _ state.sockets).symm.trans is
      exact fun _ => rfl
    · rw [Function.update_of_ne same] at is
      exact sockets.blank other found is attempt
  · exact fun other value held opened => absurd ((phase_some held).trans (congrArg some opened)) (shut other)
  · exact fun other value held opened => absurd ((phase_some held).trans (congrArg some opened)) (shut other)
  · intro _ _
    have own : Awaited (Function.update state.calls call (some ⟨subscription, .opening state.created⟩)) (createKey subscription) onAttempt :=
      ⟨call, _, Function.update_self _ _ _, rfl, .inr ⟨state.created, rfl⟩⟩
    by_cases none : keys state.activeSubscriptions = []
    · refine .inr (.inr ⟨rfl, fun key active => ?_⟩)
      rw [keys, Keyed.mem_upsert_keys] at active
      rcases active with old | rfl
      · rw [keys] at none
        rw [none] at old
        cases old
      · exact own
    · rcases streams.waiting unopened none with again | ⟨other, closing⟩ | ⟨connecting, _⟩
      · exact .inl again
      · refine .inr (.inl ⟨other, ?_⟩)
        rw [phase_update, if_neg]
        · exact closing
        · rintro rfl
          rw [phase, sockets.fresh _ (Nat.le_refl _)] at closing
          cases closing
      · cases idle.symm.trans connecting

theorem connect_ready (state : State L E) {socket : Nat} (current : state.current = some socket) (constructs : Bool) :
    state.connect constructs = (state, some (.ready socket)) := by
  rw [State.connect, current]

theorem connect_polling (state : State L E) (missing : state.current = none) (connecting : state.connecting = true) (constructs : Bool) :
    state.connect constructs = (state, some .polling) := by
  rw [State.connect, missing, connecting]
  rfl

theorem connect_idle (state : State L E) (missing : state.current = none) (idle : state.connecting = false) (constructs : Bool) :
    state.connect constructs =
      if constructs then
        ({ state.setSocket state.created ⟨.connecting, fun _ => false⟩ with connecting := true, created := state.created + 1 },
          some (.opening state.created))
      else (state, none) := by
  rw [State.connect, missing, idle]
  rfl

theorem timeout_inv {state next : State L E} {key : String} (inv : Inv state) (taken : state.timeout key = some next) : Inv next := by
  unfold State.timeout at taken
  split at taken
  next => cases taken
  next subscription pending =>
    have named := inv.listening.timed key subscription pending
    dsimp only at taken
    split at taken
    next empty =>
      cases taken
      rw [named]
      have listening := ended_listening inv.listening empty
      unfold State.close
      split
      next socket current =>
        have opened := (current_some.mp current).2
        have sockets := send_sockets inv.sockets socket false key
        have streams := closed_streams inv opened key
        obtain ⟨held, is, up⟩ := Option.map_eq_some_iff.mp opened
        obtain ⟨readyState, before⟩ := held
        cases up
        have shape : ∀ later : State L E, later.sockets = state.sockets →
            later.send socket false key = later.setSocket socket ⟨.opened, Function.update before key false⟩ := by
          intro later same
          rw [State.send, same, is]
        rw [shape state rfl] at sockets streams
        rw [shape]
        · exact ⟨listening, sockets, streams⟩
        · rfl
      next missing =>
        have unopened := (current_none inv).mp missing
        refine ⟨listening, inv.sockets, ?_, ?_, erase_waiting inv key⟩
        · exact fun other value held opened => absurd ((phase_some held).trans (congrArg some opened)) (unopened other)
        · exact fun other value held opened => absurd ((phase_some held).trans (congrArg some opened)) (unopened other)
    next some =>
      cases taken
      exact ⟨kept_listening inv.listening some, inv.sockets, inv.streams⟩

theorem start_inv : Inv (start : State L E) := by
  refine ⟨⟨nofun, fun _ _ => ⟨nofun, nofun⟩, fun _ => List.nodup_nil, nofun, fun _ some => absurd rfl some, nofun⟩,
    ⟨fun _ _ => rfl, ?_, nofun, nofun, nofun, nofun⟩, nofun, nofun, fun _ some => absurd rfl some⟩
  rintro first second (left | left) <;> cases left

theorem settled {state : State L E} (inv : Inv state) (quiescent : Quiescent state) : Settled state := by
  obtain ⟨listening, sockets, streams⟩ := inv
  have opened : ∀ socket, Live state socket → phase state.sockets socket = some .opened := by
    rintro socket ⟨readyState, is, alive⟩
    cases readyState with
    | connecting => exact absurd is (quiescent.sockets socket).1
    | opened => exact is
    | closing => exact absurd is (quiescent.sockets socket).2
    | closed => exact absurd rfl alive
  have unawaited : ∀ key way, ¬Awaited state.calls key way := by
    rintro key way ⟨call, waiting, held, -⟩
    cases (quiescent.calls call).symm.trans held
  refine ⟨?_, ?_, ?_, ?_⟩
  · intro key
    refine ⟨listening.active key, fun active => ?_⟩
    exact (listening.kept key active).resolve_right fun timer => timer (quiescent.timers key)
  · exact fun first second left right => sockets.single first second (.inr (opened first left)) (.inr (opened second right))
  · intro socket found is alive
    have up := opened socket alive
    have state' : found.readyState = .opened := Option.some.inj ((phase_some is).symm.trans up)
    refine ⟨current_some.mpr ⟨(sockets.inUse socket up).1, up⟩, fun key => ⟨streams.inside socket found is state' key, fun active => ?_⟩⟩
    exact (streams.served socket found is state' key active).resolve_right (unawaited key _)
  · intro none
    have unopened : ∀ socket, phase state.sockets socket ≠ some .opened :=
      fun socket up => none socket ⟨.opened, up, nofun⟩
    refine ⟨(current_none ⟨listening, sockets, streams⟩).mpr unopened, fun some => ?_⟩
    have nonempty : keys state.activeSubscriptions ≠ [] := fun empty => some (List.map_eq_nil_iff.mp empty)
    rcases streams.waiting unopened nonempty with again | ⟨socket, closing⟩ | ⟨connecting, awaited⟩
    · exact again
    · exact absurd closing (quiescent.sockets socket).2
    · obtain ⟨key, active⟩ := List.exists_mem_of_ne_nil _ nonempty
      exact absurd (awaited key active) (unawaited key _)

variable [DecidableEq L] [DecidableEq E]

/-! Listeners come and go. -/

theorem register_listening {state : State L E} (listening : Listening state.listeners state.activeSubscriptions
      state.pendingUnsubscribes state.subscribed) (subscription : Subscription) (onMessage : L) (onError : Option E) :
    Listening (state.register subscription onMessage onError).listeners (state.register subscription onMessage onError).activeSubscriptions
      (state.register subscription onMessage onError).pendingUnsubscribes (state.register subscription onMessage onError).subscribed := by
  unfold State.register
  dsimp only
  refine ⟨?_, ?_, ?_, listening.timed, ?_, ?_⟩
  · intro row member
    rcases Keyed.mem_upsert member with old | rfl | ⟨_, _, rfl⟩
    · exact listening.keyed row old
    · rfl
    · rfl
  · intro key listener
    rw [subscribed_update]
    by_cases same : key = createKey subscription
    · subst same
      rw [Function.update_self, mem_add, listening.listened]
      by_cases this : listener = onMessage <;> simp [this]
    · rw [Function.update_of_ne same, listening.listened]
      simp [same]
  · intro key
    by_cases same : key = createKey subscription
    · subst same
      rw [Function.update_self]
      exact add_nodup (listening.distinct _)
    · rw [Function.update_of_ne same]
      exact listening.distinct key
  · intro key some
    rw [keys, Keyed.mem_upsert_keys]
    by_cases same : key = createKey subscription
    · exact .inr same
    · rw [Function.update_of_ne same] at some
      exact .inl (listening.active key some)
  · intro key active
    rw [keys, Keyed.mem_upsert_keys] at active
    by_cases same : key = createKey subscription
    · subst same
      rw [Function.update_self]
      exact .inl (List.ne_nil_of_mem (mem_add.mpr (.inr rfl)))
    · rw [Function.update_of_ne same]
      exact listening.kept key (active.resolve_right same)

theorem unsubscribe_listening {state : State L E} (listening : Listening state.listeners state.activeSubscriptions
      state.pendingUnsubscribes state.subscribed) {subscription : Subscription} {onMessage : L} {onError : Option E}
    (orderly : Orderly state (.unsubscribe subscription onMessage onError)) :
    Listening (state.unsubscribe subscription onMessage onError).listeners (state.unsubscribe subscription onMessage onError).activeSubscriptions
      (state.unsubscribe subscription onMessage onError).pendingUnsubscribes (state.unsubscribe subscription onMessage onError).subscribed := by
  unfold State.unsubscribe
  dsimp only
  refine ⟨listening.keyed, ?_, ?_, ?_, ?_, ?_⟩
  · intro key listener
    rw [subscribed_update]
    by_cases same : key = createKey subscription
    · subst same
      rw [Function.update_self, (listening.distinct _).mem_erase_iff, listening.listened]
      by_cases this : listener = onMessage <;> simp [this]
    · rw [Function.update_of_ne same, listening.listened]
      simp [same]
  · intro key
    by_cases same : key = createKey subscription
    · subst same
      rw [Function.update_self]
      exact (listening.distinct _).erase onMessage
    · rw [Function.update_of_ne same]
      exact listening.distinct key
  · intro key timed pending
    by_cases same : key = createKey subscription
    · subst same
      split at pending
      next => cases (Function.update_self _ _ _).symm.trans pending; rfl
      next => cases (Function.update_self _ _ _).symm.trans pending
    · have before : state.pendingUnsubscribes key = some timed := by
        rw [← pending]
        split <;> simp [same]
      exact listening.timed key timed before
  · intro key some
    by_cases same : key = createKey subscription
    · subst same
      rw [Function.update_self] at some
      exact listening.active _ fun empty => some (by rw [empty]; rfl)
    · rw [Function.update_of_ne same] at some
      exact listening.active key some
  · intro key active
    by_cases same : key = createKey subscription
    · subst same
      rw [Function.update_self]
      by_cases empty : state.listeners (createKey subscription) = []
      · rcases listening.kept _ active with some | timer
        · exact absurd empty some
        · exact absurd (orderly empty) timer
      · by_cases last : (state.listeners (createKey subscription)).erase onMessage = []
        · rw [if_pos ⟨empty, last⟩, Function.update_self]
          exact .inr (Option.some_ne_none _)
        · exact .inl last
    · rw [Function.update_of_ne same]
      refine (listening.kept key active).imp id fun timer none => timer ?_
      rw [← none]
      split <;> simp [same]

theorem subscribe_inv {state next : State L E} {call : Nat} {subscription : Subscription} {onMessage : L} {onError : Option E}
    {constructs : Bool} (inv : Inv state) (orderly : Orderly state (.subscribe call subscription onMessage onError constructs))
    (taken : state.subscribe call subscription onMessage onError constructs = some next) : Inv next := by
  unfold State.subscribe at taken
  split at taken
  next => cases taken
  next free =>
    have listening := register_listening inv.listening subscription onMessage onError
    cases current : state.current with
    | some socket =>
      rw [connect_ready (state.register subscription onMessage onError) current] at taken
      cases taken
      have opened := (current_some.mp current).2
      refine ⟨listening, ⟨inv.sockets.fresh, inv.sockets.single, inv.sockets.inUse, inv.sockets.attempt, ?_, inv.sockets.blank⟩, ?_⟩
      · exact opening_update inv.sockets.opening (by simp)
      · refine registered_streams inv free ?_ fun unopened => absurd opened (unopened socket)
        intro other up
        cases inv.sockets.single other socket (.inr up) (.inr opened)
        exact .inr rfl
    | none =>
      have unopened := (current_none inv).mp current
      cases idle : state.connecting with
      | true =>
        rw [connect_polling (state.register subscription onMessage onError) current idle] at taken
        cases taken
        refine ⟨listening, ⟨inv.sockets.fresh, inv.sockets.single, inv.sockets.inUse, inv.sockets.attempt, ?_, inv.sockets.blank⟩, ?_⟩
        · exact opening_update inv.sockets.opening (by simp)
        · exact registered_streams inv free (fun other up => absurd up (unopened other)) fun _ => ⟨idle, .inl rfl⟩
      | false =>
        obtain ⟨alone, refused⟩ := orderly current idle
        rw [connect_idle (state.register subscription onMessage onError) current idle] at taken
        cases constructs with
        | true =>
          cases taken
          obtain ⟨sockets, streams⟩ := created_inv inv subscription free unopened alone idle
          exact ⟨listening, sockets, streams⟩
        | false =>
          cases taken
          refine ⟨listening, ⟨inv.sockets.fresh, inv.sockets.single, inv.sockets.inUse, inv.sockets.attempt, ?_, inv.sockets.blank⟩, ?_, ?_, ?_⟩
          · exact opening_update inv.sockets.opening (by simp)
          · exact fun other value held opened => absurd ((phase_some held).trans (congrArg some opened)) (unopened other)
          · exact fun other value held opened => absurd ((phase_some held).trans (congrArg some opened)) (unopened other)
          · exact fun _ _ => (refused rfl).imp id .inl

/-! Runs. -/

theorem step_inv {state next : State L E} {event : Event L E} (inv : Inv state) (orderly : Orderly state event)
    (taken : step state event = some next) : Inv next := by
  cases event with
  | subscribe call subscription onMessage onError constructs => exact subscribe_inv inv orderly taken
  | checkConnection call => exact checkConnection_inv inv taken
  | request call => exact request_inv inv orderly taken
  | onopen socket => exact onopen_inv inv orderly taken
  | onerror socket => exact onerror_inv inv taken
  | closing socket => exact closing_inv inv taken
  | onclose socket => exact onclose_inv inv taken
  | onmessage socket message =>
    unfold step State.onmessage at taken
    dsimp only at taken
    split at taken
    next =>
      split at taken
      next => cases taken; exact ⟨inv.listening, inv.sockets, inv.streams⟩
      next => cases taken; exact inv
    next => cases taken
  | unsubscribe subscription onMessage onError =>
    cases taken
    exact ⟨unsubscribe_listening inv.listening orderly, inv.sockets, inv.streams⟩
  | timeout key => exact timeout_inv inv taken

omit [DecidableEq E] in
theorem delivers {state : State L E} (inv : Inv state) : Delivers state := by
  intro J json message update cluster path complete error is listener
  have told : handleWebSocketMessage json message state = state.notify (keyOf message) update := by
    unfold handleWebSocketMessage
    rw [if_neg (by simp [cluster, path, complete]), if_neg error, is]
  rw [told, State.notify, List.filter_map]
  have same : (Invocation.calls listener ∘ fun other => (.onMessage other update : Invocation L E J)) = fun other => decide (other = listener) := rfl
  rw [same, List.filter_eq, (inv.listening.distinct (keyOf message)).count]
  by_cases subscribed : state.subscribed (keyOf message) listener = true
  · rw [if_pos ((inv.listening.listened (keyOf message) listener).mpr subscribed), if_pos subscribed]
    rfl
  · rw [if_neg fun member => subscribed ((inv.listening.listened (keyOf message) listener).mp member), if_neg subscribed]
    rfl

/-- In an orderly run the manager is settled at rest, and delivers in every state. -/
theorem settled_and_delivers {events : List (Event L E)} {last : State L E} (ran : run step start events = some last)
    (orderly : Meets step Orderly start events) : (Quiescent last → Settled last) ∧ Delivers last := by
  have inv : Inv last := invariant Inv (fun _ _ _ => step_inv) start_inv orderly ran
  exact ⟨settled inv, delivers inv⟩

private def pods : Subscription := ⟨"prod", "/api/v1/pods", "watch=1"⟩

private def watched : List (Event Unit Unit) := [.subscribe 0 pods () none true, .onopen 0, .request 0]

private theorem watched_orderly : Meets step Orderly start watched := by
  refine ⟨fun _ _ => ⟨fun _ => nofun, nofun⟩, ?_, ?_, trivial⟩
  · intro socket
    rcases socket with _ | socket
    · exact nofun
    · exact nofun
  · rintro waiting ⟨⟩
    decide

private theorem zero_only {α : Type} {table : Nat → Option α} (zero : table 0 = none) (later : ∀ index, table (index + 1) = none)
    (index : Nat) : table index = none := by
  cases index with
  | zero => exact zero
  | succ index => exact later index

private def watchedState : State Unit Unit := (run step start watched).getD start

private theorem watched_ran : run step start watched = some watchedState := rfl

/-- The first watch is settled once its request has been sent. -/
theorem watched_settled : Settled watchedState ∧ Delivers watchedState := by
  obtain ⟨rest, delivers⟩ := settled_and_delivers watched_ran watched_orderly
  refine ⟨rest ⟨?_, fun _ => rfl, ?_⟩, delivers⟩
  · exact zero_only rfl fun _ => rfl
  · intro socket
    cases socket with
    | zero => exact ⟨nofun, nofun⟩
    | succ socket => exact ⟨nofun, nofun⟩

/-- After the connection is lost a listener is left without a stream. -/
theorem closed_leaves : ¬∀ (events : List (Event Unit Unit)) (state : State Unit Unit), run step start events = some state →
    Quiescent state → ∀ key, state.listeners key ≠ [] → ∃ socket found, state.current = some socket ∧
      state.sockets socket = some found ∧ found.streams key = true := by
  intro requested
  have quiescent : ∀ last, run step start (watched ++ [Event.onclose 0]) = some last → Quiescent last := by
    rintro last ⟨⟩
    refine ⟨zero_only rfl fun _ => rfl, fun _ => rfl, ?_⟩
    intro socket
    cases socket with
    | zero => exact ⟨nofun, nofun⟩
    | succ socket => exact ⟨nofun, nofun⟩
  obtain ⟨socket, found, current, -⟩ := requested (watched ++ [Event.onclose 0]) _ rfl (quiescent _ rfl) (createKey pods) (by decide)
  cases current

end K8Sense.Frontend.WebSocketManager
