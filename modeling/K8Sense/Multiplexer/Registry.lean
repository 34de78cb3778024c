import K8Sense.Library.Transition
import K8Sense.Multiplexer.Lifecycle

/-! The map of connections and the goroutines that change it, with a step for each
time that one of them holds the mutex of the map. Between two of its steps a call may
have a connection in its hands: dialled and not entered yet, or taken out of the map
and not closed yet. -/

namespace K8Sense.Multiplexer.Registry
open Transition

/-- `handleClusterMessages`, with the two parts of its deferred cleanup. -/
inductive Reader where
  | reading
  | leaving
  | unlisting
  | finished
  deriving DecidableEq

structure Link where
  connection : Connection
  reader : Option Reader

def Link.key (link : Link) : String := link.connection.toRoute.key

inductive Socket where
  | idle
  | dialing (route : Route)
  | dialed (id : Nat)
  | closing (id : Nat)
  | abandoning (ids : List Nat)
  | gone

/-- `monitorConnection`. A new connection is entered by `establishClusterConnection`,
and once more by `reconnect`. -/
inductive Monitor where
  | watching (id : Nat)
  | redialing (id : Nat) (client : Option Nat)
  | redialed (id : Nat)
  | entered (id : Nat)
  | stopped

structure State where
  connections : String → Option Nat
  links : List Link
  sockets : List Socket
  monitors : List Monitor

inductive Event where
  | accept
  | request (socket : Nat) (route : Route)
  | dialed (socket : Nat) (works : Bool)
  | enter (socket : Nat)
  | close (socket : Nat) (clusterID path userID : String)
  | shut (socket : Nat)
  | disconnect (socket : Nat)
  | abandon (socket : Nat)
  | leave (id : Nat)
  | cleanup (id : Nat)
  | unlist (id : Nat)
  | beat (monitor : Nat) (err : String)
  | redialed (monitor : Nat) (works : Bool)
  | reenter (monitor : Nat)
  | reassign (monitor : Nat)
  | stop (monitor : Nat)

def initial : State := ⟨fun _ => none, [], [], []⟩

def State.setSocket (socket : Nat) (phase : Socket) (state : State) : State :=
  { state with sockets := state.sockets.set socket phase }

def State.setMonitor (monitor : Nat) (phase : Monitor) (state : State) : State :=
  { state with monitors := state.monitors.set monitor phase }

def State.setLink (id : Nat) (link : Link) (state : State) : State := { state with links := state.links.set id link }

def State.setEntry (key : String) (entry : Option Nat) (state : State) : State :=
  { state with connections := Function.update state.connections key entry }

/-- The first part of `establishClusterConnection`. -/
def dial (route : Route) (client : Option Nat) (state : State) : State :=
  let connection := ((createConnection route client).updateStatus .connected none).1
  { state with links := state.links ++ [⟨connection, none⟩] }

/-- The rest of it. A connection that a client asked for gets a reader. -/
def enter (id : Nat) (link : Link) (reader : Option Reader) (state : State) : State :=
  let state := (state.setEntry link.key (some id)).setLink id { link with reader }
  { state with monitors := state.monitors ++ [.watching id] }

/-- The connections that `closeClientConnections` finds. -/
def owned (socket : Nat) (state : State) : List Nat :=
  (List.range state.links.length).filter fun id =>
    state.links[id]?.any fun link => link.connection.client = some socket ∧ state.connections link.key = some id

/-- The entries that it leaves. -/
def unowned (socket : Nat) (state : State) (key : String) : Option Nat :=
  (state.connections key).filter fun id => !state.links[id]?.any fun link => link.connection.client = some socket

def shutLink (link : Link) : Link :=
  { link with connection := (link.connection.updateStatus .closed none).1.safeClose.1 }

def cleanupLink (link : Link) : Link := ⟨link.connection.safeClose.1, some .unlisting⟩

/-- `reconnect` closes the websocket before it dials. -/
def beatLink (err : String) (link : Link) : Link :=
  { link with connection :=
      { (link.connection.updateStatus .error (some ("heartbeat failed: " ++ err))).1 with wsOpen := false } }

def step (state : State) : Event → Option State
  | .accept => some { state with sockets := state.sockets ++ [.idle] }
  | .request socket route =>
    match state.sockets[socket]? with
    | some .idle =>
      match state.connections route.key with
      | some _ => some state
      | none => some (state.setSocket socket (.dialing route))
    | _ => none
  | .dialed socket works =>
    match state.sockets[socket]? with
    | some (.dialing route) =>
      some (if works then (dial route (some socket) state).setSocket socket (.dialed state.links.length)
        else state.setSocket socket .idle)
    | _ => none
  | .enter socket =>
    match state.sockets[socket]? with
    | some (.dialed id) =>
      state.links[id]?.map fun link => (enter id link (some .reading) state).setSocket socket .idle
    | _ => none
  | .close socket clusterID path userID =>
    match state.sockets[socket]? with
    | some .idle =>
      let key := createConnectionKey clusterID path userID
      match state.connections key with
      | none => some state
      | some id => some ((state.setEntry key none).setSocket socket (.closing id))
    | _ => none
  | .shut socket =>
    match state.sockets[socket]? with
    | some (.closing id) =>
      state.links[id]?.map fun link => (state.setLink id (shutLink link)).setSocket socket .idle
    | _ => none
  | .disconnect socket =>
    match state.sockets[socket]? with
    | some .idle =>
      some (State.setSocket socket (.abandoning (owned socket state)) { state with connections := unowned socket state })
    | _ => none
  | .abandon socket =>
    match state.sockets[socket]? with
    | some (.abandoning []) => some (state.setSocket socket .gone)
    | some (.abandoning (id :: rest)) =>
      state.links[id]?.map fun link =>
        (state.setLink id { link with connection := link.connection.abandon }).setSocket socket (.abandoning rest)
    | _ => none
  | .leave id =>
    match state.links[id]? with
    | some ⟨connection, some .reading⟩ => some (state.setLink id ⟨connection, some .leaving⟩)
    | _ => none
  | .cleanup id =>
    match state.links[id]? with
    | some ⟨connection, some .leaving⟩ => some (state.setLink id (cleanupLink ⟨connection, some .leaving⟩))
    | _ => none
  | .unlist id =>
    match state.links[id]? with
    | some ⟨connection, some .unlisting⟩ =>
      some ((state.setEntry connection.toRoute.key none).setLink id ⟨connection, some .finished⟩)
    | _ => none
  | .beat monitor err =>
    match state.monitors[monitor]? with
    | some (.watching id) =>
      state.links[id]?.map fun link =>
        if link.connection.closed then state
        else (state.setLink id (beatLink err link)).setMonitor monitor (.redialing id link.connection.client)
    | _ => none
  | .redialed monitor works =>
    match state.monitors[monitor]? with
    | some (.redialing id client) =>
      state.links[id]?.map fun link =>
        if works then (dial link.connection.toRoute client state).setMonitor monitor (.redialed state.links.length)
        else state.setMonitor monitor (.watching id)
    | _ => none
  | .reenter monitor =>
    match state.monitors[monitor]? with
    | some (.redialed id) => state.links[id]?.map fun link => (enter id link none state).setMonitor monitor (.entered id)
    | _ => none
  | .reassign monitor =>
    match state.monitors[monitor]? with
    | some (.entered id) =>
      state.links[id]?.map fun link => (state.setEntry link.key (some id)).setMonitor monitor (.watching id)
    | _ => none
  | .stop monitor =>
    match state.monitors[monitor]? with
    | some (.watching id) =>
      if state.links[id]?.any fun link => link.connection.closed then some (state.setMonitor monitor .stopped) else none
    | _ => none

def Socket.Holds (id : Nat) : Socket → Prop
  | .dialed other | .closing other => other = id
  | .abandoning ids => id ∈ ids
  | _ => False

def Monitor.Holds (id : Nat) : Monitor → Prop
  | .redialed other => other = id
  | _ => False

instance (id : Nat) : ∀ socket : Socket, Decidable (socket.Holds id)
  | .dialed other | .closing other => inferInstanceAs (Decidable (other = id))
  | .abandoning ids => inferInstanceAs (Decidable (id ∈ ids))
  | .idle | .dialing _ | .gone => isFalse not_false

instance (id : Nat) : ∀ monitor : Monitor, Decidable (monitor.Holds id)
  | .redialed other => inferInstanceAs (Decidable (other = id))
  | .watching _ | .redialing _ _ | .entered _ | .stopped => isFalse not_false

/-- A call has the connection in its hands. -/
def State.InHand (id : Nat) (state : State) : Prop :=
  (∃ socket ∈ state.sockets, socket.Holds id) ∨ ∃ monitor ∈ state.monitors, monitor.Holds id

/-- The connection is live, and no call is about to enter or to close it. -/
def State.Standing (id : Nat) (state : State) : Prop :=
  (∃ link ∈ state.links[id]?, link.connection.wsOpen = true) ∧ ¬ state.InHand id

instance (id : Nat) (state : State) : Decidable (state.InHand id) := inferInstanceAs (Decidable (_ ∨ _))

instance (id : Nat) (state : State) : Decidable (state.Standing id) := inferInstanceAs (Decidable (_ ∧ _))

/-- Each live connection is the entry of its key, so that there is one of a key at
most, and a CLOSE finds it. -/
structure Tidy (state : State) : Prop where
  listed : ∀ id link, state.Standing id → state.links[id]? = some link → state.connections link.key = some id
  single : ∀ id other link link', state.Standing id → state.Standing other → state.links[id]? = some link →
    state.links[other]? = some link' → link.key = link'.key → id = other

/-- The connection under whose key a step writes the map, with the new entry. -/
def written (state : State) : Event → Option (Nat × Option Nat)
  | .enter socket =>
    match state.sockets[socket]? with
    | some (.dialed id) => some (id, some id)
    | _ => none
  | .reenter monitor =>
    match state.monitors[monitor]? with
    | some (.redialed id) => some (id, some id)
    | _ => none
  | .reassign monitor =>
    match state.monitors[monitor]? with
    | some (.entered id) => some (id, some id)
    | _ => none
  | .unlist id => some (id, none)
  | _ => none

/-- No step writes over the entry of another live connection. -/
def Spares (state : State) (event : Event) : Prop :=
  ∀ entry ∈ written state event, ∀ link ∈ state.links[entry.1]?, ∀ other ∈ state.connections link.key,
    entry.2 ≠ some other → ¬ state.Standing other

instance (state : State) (event : Event) : Decidable (Spares state event) :=
  inferInstanceAs (Decidable (∀ entry ∈ written state event, ∀ link ∈ state.links[entry.1]?,
    ∀ other ∈ state.connections link.key, entry.2 ≠ some other → ¬ state.Standing other))

/-- The entry of a key is a connection of the key. -/
def Wired (state : State) : Prop :=
  ∀ key id, state.connections key = some id → ∃ link, state.links[id]? = some link ∧ link.key = key

variable {state next : State} {id other : Nat}

theorem exists_set {β : Type} {P : β → Prop} {items : List β} {place : Nat} {old : β} (new : β)
    (found : items[place]? = some old) (some_one : ∃ item ∈ items, P item) (not_old : ¬ P old) :
    ∃ item ∈ items.set place new, P item := by
  obtain ⟨item, member, holds⟩ := some_one
  obtain ⟨index, inside, rfl⟩ := List.getElem_of_mem member
  have distinct : place ≠ index := by
    rintro rfl
    rw [List.getElem?_eq_getElem inside, Option.some.injEq] at found
    exact not_old (found ▸ holds)
  have kept : (items.set place new)[index]? = some items[index] := by
    rw [List.getElem?_set_ne distinct, List.getElem?_eq_getElem inside]
  exact ⟨items[index], List.mem_of_getElem? kept, holds⟩

theorem free_socket (state : State) {socket : Nat} {old new : Socket} (found : state.sockets[socket]? = some old)
    (free : ¬ (state.setSocket socket new).InHand id) (empty : ¬ old.Holds id) : ¬ state.InHand id := by
  rintro (holder | holder)
  · exact free (Or.inl (exists_set new found holder empty))
  · exact free (Or.inr holder)

theorem free_monitor (state : State) {monitor : Nat} {old new : Monitor} (found : state.monitors[monitor]? = some old)
    (free : ¬ (state.setMonitor monitor new).InHand id) (empty : ¬ old.Holds id) : ¬ state.InHand id := by
  rintro (holder | holder)
  · exact free (Or.inl holder)
  · exact free (Or.inr (exists_set new found holder empty))

theorem held_socket {socket : Nat} {old new : Socket} (found : state.sockets[socket]? = some old) (holds : new.Holds id) :
    (state.setSocket socket new).InHand id := by
  have placed : (state.sockets.set socket new)[socket]? = some new :=
    List.getElem?_set_self (List.getElem?_eq_some_iff.mp found).1
  exact Or.inl ⟨new, List.mem_of_getElem? placed, holds⟩

theorem held_monitor {monitor : Nat} {old new : Monitor} (found : state.monitors[monitor]? = some old) (holds : new.Holds id) :
    (state.setMonitor monitor new).InHand id := by
  have placed : (state.monitors.set monitor new)[monitor]? = some new :=
    List.getElem?_set_self (List.getElem?_eq_some_iff.mp found).1
  exact Or.inr ⟨new, List.mem_of_getElem? placed, holds⟩

theorem set_cases {β : Type} {items : List β} {new found : β} (stored : (items.set id new)[other]? = some found) :
    other = id ∧ found = new ∨ other ≠ id ∧ items[other]? = some found := by
  by_cases same : id = other
  · subst same
    rw [List.getElem?_set_self'] at stored
    obtain ⟨_, _, rfl⟩ := Option.map_eq_some_iff.mp stored
    exact Or.inl ⟨rfl, rfl⟩
  · rw [List.getElem?_set_ne same] at stored
    exact Or.inr ⟨Ne.symm same, stored⟩

/-- The first half of tidiness, which has the other. -/
def Listed (state : State) : Prop :=
  ∀ id link, state.links[id]? = some link → link.connection.wsOpen = true → ¬ state.InHand id →
    state.connections link.key = some id

theorem tidy_iff : Tidy state ↔ Listed state := by
  constructor
  · exact fun tidy id link found live free => tidy.listed id link ⟨⟨link, found, live⟩, free⟩ found
  · intro listed
    have entry : ∀ id link, state.Standing id → state.links[id]? = some link → state.connections link.key = some id := by
      rintro id link ⟨⟨_, there, live⟩, free⟩ found
      cases there.symm.trans found
      exact listed id link found live free
    refine ⟨entry, ?_⟩
    intro id other link link' stands stands' found found' same
    have one := entry id link stands found
    rw [same, entry other link' stands' found'] at one
    exact (Option.some.inj one).symm

theorem listed_keep (listed : Listed state) (kept : ∀ id link, next.links[id]? = some link → link.connection.wsOpen = true →
    ¬ next.InHand id → next.connections link.key = some id ∨ ¬ state.InHand id ∧
      (∃ old, state.links[id]? = some old ∧ old.connection.wsOpen = true ∧ old.key = link.key) ∧
      (state.connections link.key = some id → next.connections link.key = some id)) : Listed next := by
  intro id link found live free
  rcases kept id link found live free with entered | ⟨free, ⟨old, there, live, same⟩, stays⟩
  · exact entered
  · exact stays (same ▸ listed id old there live free)

/-- A change of one connection that opens nothing. -/
structure Link.Closes (old new : Link) : Prop where
  live : new.connection.wsOpen = true → old.connection.wsOpen = true
  key : new.key = old.key

theorem setLink_kept {id : Nat} {old new : Link} (found : state.links[id]? = some old) (closes : old.Closes new) {other : Nat}
    {link : Link} (stored : (state.setLink id new).links[other]? = some link) (live : link.connection.wsOpen = true) :
    ∃ before, state.links[other]? = some before ∧ before.connection.wsOpen = true ∧ before.key = link.key := by
  rcases set_cases stored with ⟨rfl, rfl⟩ | ⟨-, there⟩
  · exact ⟨old, found, closes.live live, closes.key.symm⟩
  · exact ⟨link, there, live, rfl⟩

/-- A connection that is closed has closed its websocket. -/
def Link.Sound (link : Link) : Prop := link.connection.closed = true → link.connection.wsOpen = false

theorem safeClose_sound {conn : Connection} (sound : conn.closed = true → conn.wsOpen = false) :
    conn.safeClose.1.wsOpen = false := by
  unfold Connection.safeClose
  split
  next closed => exact sound closed
  next => rfl

theorem updateStatus_sound {conn : Connection} (sound : conn.closed = true → conn.wsOpen = false)
    (status : ConnectionState) (err : Option String) :
    (conn.updateStatus status err).1.closed = true → (conn.updateStatus status err).1.wsOpen = false := by
  unfold Connection.updateStatus
  split
  next => exact sound
  next unset =>
    dsimp only
    split
    next => exact fun _ => safeClose_sound fun set => absurd set unset
    next => exact fun set => absurd set unset

theorem shutLink_shut {link : Link} (sound : link.Sound) : (shutLink link).connection.wsOpen = false :=
  safeClose_sound (updateStatus_sound sound .closed none)

theorem shutLink_key (link : Link) : (shutLink link).key = link.key :=
  congrArg Route.key ((safeClose_administrative.route _).trans ((updateStatus_administrative .closed none).route _))

theorem cleanupLink_shut {link : Link} (sound : link.Sound) : (cleanupLink link).connection.wsOpen = false :=
  safeClose_sound sound

theorem cleanupLink_key (link : Link) : (cleanupLink link).key = link.key :=
  congrArg Route.key (safeClose_administrative.route _)

theorem abandon_shut {conn : Connection} (sound : conn.closed = true → conn.wsOpen = false) : conn.abandon.wsOpen = false :=
  safeClose_sound sound

theorem beatLink_key (err : String) (link : Link) : (beatLink err link).key = link.key :=
  congrArg Route.key ((updateStatus_administrative .error _).route link.connection)

/-- What holds whatever the order of the steps is. -/
structure Base (state : State) : Prop where
  wired : Wired state
  sound : ∀ link ∈ state.links, link.Sound

theorem base_setLink {old new : Link} (base : Base state) (found : state.links[id]? = some old) (same : new.key = old.key)
    (sound : new.Sound) : Base (state.setLink id new) := by
  refine ⟨?_, ?_⟩
  · intro key other entry
    obtain ⟨link, there, named⟩ := base.wired key other entry
    by_cases here : id = other
    · subst here
      cases found.symm.trans there
      exact ⟨new, List.getElem?_set_self (List.getElem?_eq_some_iff.mp found).1, same.trans named⟩
    · exact ⟨link, (List.getElem?_set_ne here).trans there, named⟩
  · intro link member
    rcases List.mem_or_eq_of_mem_set member with old | rfl
    · exact base.sound link old
    · exact sound

theorem base_setEntry {key : String} {entry : Option Nat} (base : Base state)
    (named : ∀ other ∈ entry, ∃ link, state.links[other]? = some link ∧ link.key = key) : Base (state.setEntry key entry) := by
  refine ⟨?_, base.sound⟩
  intro name other written
  change Function.update state.connections key entry name = some other at written
  by_cases same : name = key
  · subst same
    rw [Function.update_self] at written
    exact named other written
  · rw [Function.update_of_ne same] at written
    exact base.wired name other written

theorem base_setSocket (base : Base state) (socket : Nat) (phase : Socket) : Base (state.setSocket socket phase) :=
  ⟨base.wired, base.sound⟩

theorem base_setMonitor (base : Base state) (monitor : Nat) (phase : Monitor) : Base (state.setMonitor monitor phase) :=
  ⟨base.wired, base.sound⟩

theorem base_dial (base : Base state) (route : Route) (client : Option Nat) : Base (dial route client state) := by
  refine ⟨?_, ?_⟩
  · intro key other entry
    obtain ⟨link, there, named⟩ := base.wired key other entry
    exact ⟨link, (List.getElem?_append_left (List.getElem?_eq_some_iff.mp there).1).trans there, named⟩
  · intro link member
    rcases List.mem_append.mp member with old | new
    · exact base.sound link old
    · cases List.mem_singleton.mp new
      exact updateStatus_sound (fun set => by cases set) _ _

theorem base_enter {link : Link} {reader : Option Reader} (base : Base state) (found : state.links[id]? = some link) :
    Base (enter id link reader state) := by
  have entered : Base (state.setEntry link.key (some id)) := base_setEntry base fun other named => by
    cases named
    exact ⟨link, found, rfl⟩
  have linked : Base ((state.setEntry link.key (some id)).setLink id { link with reader }) :=
    base_setLink entered found rfl (base.sound link (List.mem_of_getElem? found))
  exact ⟨linked.wired, linked.sound⟩

theorem listed_write {link : Link} (entry : Option Nat) (listed : Listed state)
    (spares : ∀ other ∈ state.connections link.key, entry ≠ some other → ¬ state.Standing other)
    (connections : next.connections = Function.update state.connections link.key entry)
    (free : ∀ other, entry ≠ some other → ¬ next.InHand other → ¬ state.InHand other)
    (links : ∀ (other : Nat) (found : Link), next.links[other]? = some found → found.connection.wsOpen = true →
      ∃ before : Link, state.links[other]? = some before ∧ before.connection.wsOpen = true ∧ before.key = found.key)
    (named : ∀ other ∈ entry, ∀ found : Link, next.links[other]? = some found → found.key = link.key) : Listed next := by
  apply listed_keep listed
  intro other found there live unheld
  by_cases new : entry = some other
  · have key := named other new found there
    rw [connections, key, Function.update_self]
    exact Or.inl new
  · obtain ⟨before, was, lived, same⟩ := links other found there live
    have free := free other new unheld
    refine Or.inr ⟨free, ⟨before, was, lived, same⟩, fun entered => ?_⟩
    have apart : found.key ≠ link.key := by
      intro key
      exact spares other (key ▸ entered) new ⟨⟨before, was, lived⟩, free⟩
    rw [connections, Function.update_of_ne apart]
    exact entered

theorem beatLink_sound (err : String) {link : Link} : (beatLink err link).Sound := fun _ => rfl

theorem listed_move {holds held : Nat → Prop} (listed : Listed state) (hands : ∀ id, holds id → next.InHand id)
    (freed : ∀ id, ¬ next.InHand id → ¬ held id → ¬ state.InHand id)
    (kept : ∀ id link, next.links[id]? = some link → link.connection.wsOpen = true → holds id ∨ ¬ held id ∧
      (∃ was : Link, state.links[id]? = some was ∧ was.connection.wsOpen = true ∧ was.key = link.key) ∧
      (state.connections link.key = some id → next.connections link.key = some id)) : Listed next := by
  apply listed_keep listed
  intro id link inside live free
  rcases kept id link inside live with holding | ⟨empty, was, stays⟩
  · exact absurd (hands id holding) free
  · exact Or.inr ⟨freed id free empty, was, stays⟩

theorem listed_socket (middle : State) {socket : Nat} {old new : Socket} (listed : Listed state)
    (found : state.sockets[socket]? = some old) (sockets : middle.sockets = state.sockets)
    (monitors : middle.monitors = state.monitors)
    (kept : ∀ id link, middle.links[id]? = some link → link.connection.wsOpen = true → new.Holds id ∨ ¬ old.Holds id ∧
      (∃ was : Link, state.links[id]? = some was ∧ was.connection.wsOpen = true ∧ was.key = link.key) ∧
      (state.connections link.key = some id → middle.connections link.key = some id)) :
    Listed (middle.setSocket socket new) := by
  have there : middle.sockets[socket]? = some old := sockets ▸ found
  apply listed_move listed (fun id holding => held_socket there holding) ?_ kept
  intro id free empty
  have unheld := free_socket middle there free empty
  rw [State.InHand, sockets, monitors] at unheld
  exact unheld

theorem listed_monitor (middle : State) {monitor : Nat} {old new : Monitor} (listed : Listed state)
    (found : state.monitors[monitor]? = some old) (sockets : middle.sockets = state.sockets)
    (monitors : middle.monitors = state.monitors)
    (kept : ∀ id link, middle.links[id]? = some link → link.connection.wsOpen = true → new.Holds id ∨ ¬ old.Holds id ∧
      (∃ was : Link, state.links[id]? = some was ∧ was.connection.wsOpen = true ∧ was.key = link.key) ∧
      (state.connections link.key = some id → middle.connections link.key = some id)) :
    Listed (middle.setMonitor monitor new) := by
  have there : middle.monitors[monitor]? = some old := monitors ▸ found
  apply listed_move listed (fun id holding => held_monitor there holding) ?_ kept
  intro id free empty
  have unheld := free_monitor middle there free empty
  rw [State.InHand, sockets, monitors] at unheld
  exact unheld

theorem dial_links {route : Route} {client : Option Nat} {found : Link}
    (there : (dial route client state).links[id]? = some found) : state.links[id]? = some found ∨ id = state.links.length := by
  rcases Nat.lt_or_ge id state.links.length with inside | outside
  · exact Or.inl ((List.getElem?_append_left inside).symm.trans there)
  · have bound := (List.getElem?_eq_some_iff.mp there).1
    simp only [dial, List.length_append, List.length_singleton] at bound
    exact Or.inr (by omega)

theorem closed_kept {old : Link} (new : Link) (found : state.links[id]? = some old) (shut : new.connection.wsOpen = false)
    {other : Nat} {link : Link} (there : (state.setLink id new).links[other]? = some link) (live : link.connection.wsOpen = true) :
    other ≠ id ∧ ∃ was, state.links[other]? = some was ∧ was.connection.wsOpen = true ∧ was.key = link.key := by
  rcases set_cases there with ⟨rfl, rfl⟩ | ⟨apart, same⟩
  · rw [shut] at live
    cases live
  · exact ⟨apart, link, same, live, rfl⟩

theorem unowned_kept {socket : Nat} {link : Link} (found : state.links[id]? = some link)
    (entry : state.connections link.key = some id) (free : id ∉ owned socket state) :
    unowned socket state link.key = some id := by
  have other : ¬ link.connection.client = some socket := by
    intro client
    apply free
    refine List.mem_filter.mpr ⟨List.mem_range.mpr (List.getElem?_eq_some_iff.mp found).1, ?_⟩
    simp [found, client, entry]
  simp [unowned, entry, found, other]

variable {socket monitor : Nat}

theorem listed_phase {old new : Socket} (listed : Listed state) (found : state.sockets[socket]? = some old)
    (empty : ∀ id, ¬ old.Holds id) : Listed (state.setSocket socket new) :=
  listed_socket state listed found rfl rfl fun id link there live => Or.inr ⟨empty id, ⟨link, there, live, rfl⟩, fun entry => entry⟩

theorem listed_watch {old new : Monitor} (listed : Listed state) (found : state.monitors[monitor]? = some old)
    (empty : ∀ id, ¬ old.Holds id) : Listed (state.setMonitor monitor new) :=
  listed_monitor state listed found rfl rfl fun id link there live => Or.inr ⟨empty id, ⟨link, there, live, rfl⟩, fun entry => entry⟩

theorem listed_dialed {route : Route} (listed : Listed state) (found : state.sockets[socket]? = some (.dialing route)) :
    Listed ((dial route (some socket) state).setSocket socket (.dialed state.links.length)) := by
  refine listed_socket _ listed found rfl rfl ?_
  intro id link there live
  rcases dial_links there with old | new
  · exact Or.inr ⟨not_false, ⟨link, old, live, rfl⟩, fun entry => entry⟩
  · exact Or.inl new.symm

theorem listed_redialed {route : Route} {client other : Option Nat} (listed : Listed state)
    (found : state.monitors[monitor]? = some (.redialing id other)) :
    Listed ((dial route client state).setMonitor monitor (.redialed state.links.length)) := by
  refine listed_monitor _ listed found rfl rfl ?_
  intro id link there live
  rcases dial_links there with old | new
  · exact Or.inr ⟨not_false, ⟨link, old, live, rfl⟩, fun entry => entry⟩
  · exact Or.inl new.symm

theorem listed_close {key : String} (listed : Listed state) (found : state.sockets[socket]? = some .idle)
    (entry : state.connections key = some id) : Listed ((state.setEntry key none).setSocket socket (.closing id)) := by
  refine listed_socket _ listed found rfl rfl ?_
  intro other link there live
  by_cases same : id = other
  · exact Or.inl same
  · refine Or.inr ⟨not_false, ⟨link, there, live, rfl⟩, fun listed => ?_⟩
    have apart : link.key ≠ key := by
      rintro rfl
      exact same (Option.some.inj (entry.symm.trans listed))
    exact (Function.update_of_ne apart ..).trans listed

theorem listed_shut {link : Link} (base : Base state) (listed : Listed state)
    (found : state.sockets[socket]? = some (.closing id)) (there : state.links[id]? = some link) :
    Listed ((state.setLink id (shutLink link)).setSocket socket .idle) := by
  refine listed_socket _ listed found rfl rfl ?_
  intro other link' inside live
  obtain ⟨apart, was⟩ := closed_kept (shutLink link) there (shutLink_shut (base.sound link (List.mem_of_getElem? there))) inside live
  exact Or.inr ⟨Ne.symm apart, was, fun entry => entry⟩

theorem listed_disconnect (listed : Listed state) (found : state.sockets[socket]? = some .idle) :
    Listed (State.setSocket socket (.abandoning (owned socket state)) { state with connections := unowned socket state }) := by
  refine listed_socket _ listed found rfl rfl ?_
  intro id link there live
  by_cases own : id ∈ owned socket state
  · exact Or.inl own
  · exact Or.inr ⟨not_false, ⟨link, there, live, rfl⟩, fun entry => unowned_kept there entry own⟩

theorem listed_abandon {link : Link} {rest : List Nat} (base : Base state) (listed : Listed state)
    (found : state.sockets[socket]? = some (.abandoning (id :: rest))) (there : state.links[id]? = some link) :
    Listed ((state.setLink id { link with connection := link.connection.abandon }).setSocket socket (.abandoning rest)) := by
  refine listed_socket _ listed found rfl rfl ?_
  intro other link' inside live
  have shut := abandon_shut (base.sound link (List.mem_of_getElem? there))
  obtain ⟨apart, was⟩ := closed_kept { link with connection := link.connection.abandon } there shut inside live
  by_cases held : other ∈ rest
  · exact Or.inl held
  · refine Or.inr ⟨fun member => ?_, was, fun entry => entry⟩
    rcases List.mem_cons.mp member with same | more
    · exact apart same
    · exact held more

theorem listed_setLink {old new : Link} (listed : Listed state) (found : state.links[id]? = some old)
    (closes : old.Closes new) : Listed (state.setLink id new) := by
  apply listed_keep listed
  intro other link there live free
  exact Or.inr ⟨free, setLink_kept found closes there live, fun entry => entry⟩

theorem listed_beat {link : Link} {err : String} (listed : Listed state)
    (found : state.monitors[monitor]? = some (.watching id)) (there : state.links[id]? = some link) :
    Listed ((state.setLink id (beatLink err link)).setMonitor monitor (.redialing id link.connection.client)) := by
  refine listed_monitor _ listed found rfl rfl ?_
  intro other link' inside live
  obtain ⟨-, was⟩ := closed_kept (beatLink err link) there rfl inside live
  exact Or.inr ⟨not_false, was, fun entry => entry⟩

theorem enter_key {link found : Link} {reader : Option Reader}
    (inside : (enter id link reader state).links[id]? = some found) : found.key = link.key := by
  rcases set_cases inside with ⟨-, rfl⟩ | ⟨apart, -⟩
  · rfl
  · exact absurd rfl apart

theorem listed_enter {link : Link} (listed : Listed state) (found : state.sockets[socket]? = some (.dialed id))
    (there : state.links[id]? = some link)
    (spares : ∀ other ∈ state.connections link.key, some id ≠ some other → ¬ state.Standing other) :
    Listed ((enter id link (some .reading) state).setSocket socket .idle) := by
  have closes : link.Closes { link with reader := some .reading } := ⟨fun live => live, rfl⟩
  refine listed_write (some id) listed spares rfl ?_ (fun _ _ => setLink_kept there closes) ?_
  · intro other apart free
    have unheld := free_socket (enter id link (some .reading) state) found free fun same => apart (congrArg some same)
    exact fun held => unheld (held.imp_right fun ⟨phase, member, holds⟩ => ⟨phase, List.mem_append_left _ member, holds⟩)
  · intro other same found inside
    cases same
    exact enter_key inside

theorem listed_reenter {link : Link} (listed : Listed state) (found : state.monitors[monitor]? = some (.redialed id))
    (there : state.links[id]? = some link)
    (spares : ∀ other ∈ state.connections link.key, some id ≠ some other → ¬ state.Standing other) :
    Listed ((enter id link none state).setMonitor monitor (.entered id)) := by
  have closes : link.Closes { link with reader := none } := ⟨fun live => live, rfl⟩
  have placed : (enter id link none state).monitors[monitor]? = some (.redialed id) :=
    (List.getElem?_append_left (List.getElem?_eq_some_iff.mp found).1).trans found
  refine listed_write (some id) listed spares rfl ?_ (fun _ _ => setLink_kept there closes) ?_
  · intro other apart free
    have unheld := free_monitor (enter id link none state) placed free fun same => apart (congrArg some same)
    exact fun held => unheld (held.imp_right fun ⟨phase, member, holds⟩ => ⟨phase, List.mem_append_left _ member, holds⟩)
  · intro other same found inside
    cases same
    exact enter_key inside

theorem listed_reassign {link : Link} (listed : Listed state) (found : state.monitors[monitor]? = some (.entered id))
    (there : state.links[id]? = some link)
    (spares : ∀ other ∈ state.connections link.key, some id ≠ some other → ¬ state.Standing other) :
    Listed ((state.setEntry link.key (some id)).setMonitor monitor (.watching id)) := by
  refine listed_write (some id) listed spares rfl ?_ (fun _ _ inside live => ⟨_, inside, live, rfl⟩) ?_
  · exact fun other _ free => free_monitor (state.setEntry link.key (some id)) found free not_false
  · intro other same found inside
    cases same
    cases there.symm.trans inside
    rfl

theorem listed_unlist (link new : Link) (listed : Listed state) (there : state.links[id]? = some link) (closes : link.Closes new)
    (spares : ∀ other ∈ state.connections link.key, none ≠ some other → ¬ state.Standing other) :
    Listed ((state.setEntry link.key none).setLink id new) :=
  listed_write none listed spares rfl (fun _ _ free => free) (fun _ _ => setLink_kept there closes) nofun

theorem accept_keeps (base : Base state) (taken : step state .accept = some next) :
    Base next ∧ (Listed state → Spares state .accept → Listed next) := by
  cases taken
  refine ⟨⟨base.wired, base.sound⟩, fun listed _ id link there live free => listed id link there live fun held => free ?_⟩
  exact held.imp_left fun ⟨phase, member, holds⟩ => ⟨phase, List.mem_append_left _ member, holds⟩

theorem request_keeps {route : Route} (base : Base state) (taken : step state (.request socket route) = some next) :
    Base next ∧ (Listed state → Spares state (.request socket route) → Listed next) := by
  delta step at taken
  dsimp only at taken
  split at taken
  next idle =>
    split at taken
    next =>
      cases taken
      exact ⟨base, fun listed _ => listed⟩
    next =>
      cases taken
      exact ⟨base_setSocket base _ _, fun listed _ => listed_phase listed idle fun _ => not_false⟩
  next => cases taken

theorem dialed_keeps {works : Bool} (base : Base state) (taken : step state (.dialed socket works) = some next) :
    Base next ∧ (Listed state → Spares state (.dialed socket works) → Listed next) := by
  delta step at taken
  dsimp only at taken
  split at taken
  next route dialing =>
    cases taken
    split
    next =>
      have dialed := base_dial base route (some socket)
      exact ⟨base_setSocket dialed _ _, fun listed _ => listed_dialed listed dialing⟩
    next => exact ⟨base_setSocket base _ _, fun listed _ => listed_phase listed dialing fun _ => not_false⟩
  next => cases taken

theorem enter_keeps (base : Base state) (taken : step state (.enter socket) = some next) :
    Base next ∧ (Listed state → Spares state (.enter socket) → Listed next) := by
  delta step at taken
  dsimp only at taken
  split at taken
  next id dialed =>
    obtain ⟨link, there, rfl⟩ := Option.map_eq_some_iff.mp taken
    have entered : Base (enter id link (some .reading) state) := base_enter base there
    refine ⟨base_setSocket entered _ _, fun listed spares => listed_enter listed dialed there ?_⟩
    exact spares (id, some id) (by simp [written, dialed]) link there
  next => cases taken

theorem close_keeps {clusterID path userID : String} (base : Base state) (taken : step state (.close socket clusterID path userID) = some next) :
    Base next ∧ (Listed state → Spares state (.close socket clusterID path userID) → Listed next) := by
  delta step at taken
  dsimp only at taken
  split at taken
  next idle =>
    split at taken
    next =>
      cases taken
      exact ⟨base, fun listed _ => listed⟩
    next id entry =>
      cases taken
      have removed : Base (state.setEntry (createConnectionKey clusterID path userID) none) := base_setEntry base nofun
      exact ⟨base_setSocket removed _ _, fun listed _ => listed_close listed idle entry⟩
  next => cases taken

theorem shut_keeps (base : Base state) (taken : step state (.shut socket) = some next) :
    Base next ∧ (Listed state → Spares state (.shut socket) → Listed next) := by
  delta step at taken
  dsimp only at taken
  split at taken
  next id closing =>
    obtain ⟨link, there, rfl⟩ := Option.map_eq_some_iff.mp taken
    have shut : Base (state.setLink id (shutLink link)) := base_setLink base there (shutLink_key link)
      fun _ => shutLink_shut (base.sound link (List.mem_of_getElem? there))
    exact ⟨base_setSocket shut _ _, fun listed _ => listed_shut base listed closing there⟩
  next => cases taken

theorem disconnect_keeps (base : Base state) (taken : step state (.disconnect socket) = some next) :
    Base next ∧ (Listed state → Spares state (.disconnect socket) → Listed next) := by
  delta step at taken
  dsimp only at taken
  split at taken
  next idle =>
    cases taken
    refine ⟨⟨?_, base.sound⟩, fun listed _ => listed_disconnect listed idle⟩
    exact fun key id entry => base.wired key id (Option.filter_eq_some_iff.mp entry).1
  next => cases taken

theorem abandon_keeps (base : Base state) (taken : step state (.abandon socket) = some next) :
    Base next ∧ (Listed state → Spares state (.abandon socket) → Listed next) := by
  delta step at taken
  dsimp only at taken
  split at taken
  next empty =>
    cases taken
    exact ⟨base_setSocket base _ _, fun listed _ => listed_phase listed empty fun _ => List.not_mem_nil⟩
  next id rest abandoning =>
    obtain ⟨link, there, rfl⟩ := Option.map_eq_some_iff.mp taken
    have shut : Base (state.setLink id { link with connection := link.connection.abandon }) :=
      base_setLink base there (congrArg Route.key (abandon_route _))
        fun _ => abandon_shut (base.sound link (List.mem_of_getElem? there))
    exact ⟨base_setSocket shut _ _, fun listed _ => listed_abandon base listed abandoning there⟩
  next => cases taken

theorem leave_keeps (base : Base state) (taken : step state (.leave id) = some next) :
    Base next ∧ (Listed state → Spares state (.leave id) → Listed next) := by
  delta step at taken
  dsimp only at taken
  split at taken
  next connection there =>
    cases taken
    have sound := base.sound _ (List.mem_of_getElem? there)
    exact ⟨base_setLink base there rfl sound, fun listed _ => listed_setLink listed there ⟨fun live => live, rfl⟩⟩
  next => cases taken

theorem cleanup_keeps (base : Base state) (taken : step state (.cleanup id) = some next) :
    Base next ∧ (Listed state → Spares state (.cleanup id) → Listed next) := by
  delta step at taken
  dsimp only at taken
  split at taken
  next connection there =>
    cases taken
    have shut := cleanupLink_shut (base.sound _ (List.mem_of_getElem? there))
    refine ⟨base_setLink base there (cleanupLink_key _) fun _ => shut, fun listed _ => ?_⟩
    refine listed_setLink listed there ⟨fun live => ?_, cleanupLink_key _⟩
    rw [shut] at live
    cases live
  next => cases taken

theorem unlist_keeps (base : Base state) (taken : step state (.unlist id) = some next) :
    Base next ∧ (Listed state → Spares state (.unlist id) → Listed next) := by
  delta step at taken
  dsimp only at taken
  split at taken
  next connection there =>
    cases taken
    have sound := base.sound _ (List.mem_of_getElem? there)
    have removed : Base (state.setEntry connection.toRoute.key none) := base_setEntry base nofun
    refine ⟨base_setLink removed there rfl sound, fun listed spares => ?_⟩
    exact listed_unlist ⟨connection, some .unlisting⟩ ⟨connection, some .finished⟩ listed there ⟨fun live => live, rfl⟩
      (spares (id, none) rfl _ there)
  next => cases taken

theorem beat_keeps {err : String} (base : Base state) (taken : step state (.beat monitor err) = some next) :
    Base next ∧ (Listed state → Spares state (.beat monitor err) → Listed next) := by
  delta step at taken
  dsimp only at taken
  split at taken
  next id watching =>
    obtain ⟨link, there, rfl⟩ := Option.map_eq_some_iff.mp taken
    split
    next => exact ⟨base, fun listed _ => listed⟩
    next =>
      have shut : Base (state.setLink id (beatLink err link)) :=
        base_setLink base there (beatLink_key err link) (beatLink_sound err)
      exact ⟨base_setMonitor shut _ _, fun listed _ => listed_beat listed watching there⟩
  next => cases taken

theorem redialed_keeps {works : Bool} (base : Base state) (taken : step state (.redialed monitor works) = some next) :
    Base next ∧ (Listed state → Spares state (.redialed monitor works) → Listed next) := by
  delta step at taken
  dsimp only at taken
  split at taken
  next id client redialing =>
    obtain ⟨link, there, rfl⟩ := Option.map_eq_some_iff.mp taken
    split
    next =>
      have dialed := base_dial base link.connection.toRoute client
      exact ⟨base_setMonitor dialed _ _, fun listed _ => listed_redialed listed redialing⟩
    next => exact ⟨base_setMonitor base _ _, fun listed _ => listed_watch listed redialing fun _ => not_false⟩
  next => cases taken

theorem reenter_keeps (base : Base state) (taken : step state (.reenter monitor) = some next) :
    Base next ∧ (Listed state → Spares state (.reenter monitor) → Listed next) := by
  delta step at taken
  dsimp only at taken
  split at taken
  next id redialed =>
    obtain ⟨link, there, rfl⟩ := Option.map_eq_some_iff.mp taken
    have entered : Base (enter id link none state) := base_enter base there
    refine ⟨base_setMonitor entered _ _, fun listed spares => listed_reenter listed redialed there ?_⟩
    exact spares (id, some id) (by simp [written, redialed]) link there
  next => cases taken

theorem reassign_keeps (base : Base state) (taken : step state (.reassign monitor) = some next) :
    Base next ∧ (Listed state → Spares state (.reassign monitor) → Listed next) := by
  delta step at taken
  dsimp only at taken
  split at taken
  next id entered =>
    obtain ⟨link, there, rfl⟩ := Option.map_eq_some_iff.mp taken
    have assigned : Base (state.setEntry link.key (some id)) := base_setEntry base fun other same => by
      cases same
      exact ⟨link, there, rfl⟩
    refine ⟨base_setMonitor assigned _ _, fun listed spares => listed_reassign listed entered there ?_⟩
    exact spares (id, some id) (by simp [written, entered]) link there
  next => cases taken

theorem stop_keeps (base : Base state) (taken : step state (.stop monitor) = some next) :
    Base next ∧ (Listed state → Spares state (.stop monitor) → Listed next) := by
  delta step at taken
  dsimp only at taken
  split at taken
  next id watching =>
    split at taken
    next =>
      cases taken
      exact ⟨base_setMonitor base _ _, fun listed _ => listed_watch listed watching fun _ => not_false⟩
    next => cases taken
  next => cases taken

/-- What a step keeps, whatever the order is, and what it keeps if it spares the entries
of others. -/
theorem step_keeps {event : Event} (base : Base state) (taken : step state event = some next) :
    Base next ∧ (Listed state → Spares state event → Listed next) := by
  cases event with
  | accept => exact accept_keeps base taken
  | request => exact request_keeps base taken
  | dialed => exact dialed_keeps base taken
  | enter => exact enter_keeps base taken
  | close => exact close_keeps base taken
  | shut => exact shut_keeps base taken
  | disconnect => exact disconnect_keeps base taken
  | abandon => exact abandon_keeps base taken
  | leave => exact leave_keeps base taken
  | cleanup => exact cleanup_keeps base taken
  | unlist => exact unlist_keeps base taken
  | beat => exact beat_keeps base taken
  | redialed => exact redialed_keeps base taken
  | reenter => exact reenter_keeps base taken
  | reassign => exact reassign_keeps base taken
  | stop => exact stop_keeps base taken

theorem held_before_socket (new : Socket) {middle : State} (empty : ¬ new.Holds id)
    (held : (middle.setSocket socket new).InHand id) : middle.InHand id := by
  rcases held with ⟨phase, member, holds⟩ | held
  · rcases List.mem_or_eq_of_mem_set member with old | rfl
    · exact Or.inl ⟨phase, old, holds⟩
    · exact absurd holds empty
  · exact Or.inr held

theorem held_before_monitor (new : Monitor) {middle : State} (empty : ¬ new.Holds id)
    (held : (middle.setMonitor monitor new).InHand id) : middle.InHand id := by
  rcases held with held | ⟨phase, member, holds⟩
  · exact Or.inl held
  · rcases List.mem_or_eq_of_mem_set member with old | rfl
    · exact Or.inr ⟨phase, old, holds⟩
    · exact absurd holds empty

theorem held_before_enter {link : Link} {reader : Option Reader} (held : (enter other link reader state).InHand id) :
    state.InHand id := by
  refine held.imp_right ?_
  rintro ⟨phase, member, holds⟩
  rcases List.mem_append.mp member with old | new
  · exact ⟨phase, old, holds⟩
  · cases List.mem_singleton.mp new
    cases holds

theorem setLink_stays {old new found : Link} (there : state.links[id]? = some old) (same : new.connection = old.connection)
    (stored : state.links[other]? = some found) :
    ∃ after, (state.setLink id new).links[other]? = some after ∧ after.connection = found.connection := by
  by_cases here : id = other
  · subst here
    cases there.symm.trans stored
    exact ⟨new, List.getElem?_set_self (List.getElem?_eq_some_iff.mp there).1, same⟩
  · exact ⟨found, (List.getElem?_set_ne here).trans stored, rfl⟩

/-- A step that writes an entry writes no other, and takes nothing into its hands. -/
structure Writes (state next : State) (key : String) (entry : Option Nat) : Prop where
  entry : next.connections key = entry
  hands : ∀ id, next.InHand id → state.InHand id
  links : ∀ (id : Nat) (found : Link), state.links[id]? = some found →
    ∃ after : Link, next.links[id]? = some after ∧ after.connection = found.connection

theorem written_writes {event : Event} {entry : Option Nat} {link : Link} (taken : step state event = some next)
    (writes : written state event = some (id, entry)) (there : state.links[id]? = some link) :
    Writes state next link.key entry := by
  cases event with
  | enter socket =>
    simp only [written] at writes
    split at writes
    next _ dialed =>
      cases writes
      simp only [step, dialed, there, Option.map_some, Option.some.injEq] at taken
      subst taken
      refine ⟨Function.update_self .., fun _ held => held_before_enter (held_before_socket .idle not_false held), ?_⟩
      exact fun _ _ found => setLink_stays there rfl found
    next => cases writes
  | reenter monitor =>
    simp only [written] at writes
    split at writes
    next _ redialed =>
      cases writes
      simp only [step, redialed, there, Option.map_some, Option.some.injEq] at taken
      subst taken
      refine ⟨Function.update_self .., fun _ held => held_before_enter (held_before_monitor (.entered _) not_false held), ?_⟩
      exact fun _ _ found => setLink_stays there rfl found
    next => cases writes
  | reassign monitor =>
    simp only [written] at writes
    split at writes
    next _ entered =>
      cases writes
      simp only [step, entered, there, Option.map_some, Option.some.injEq] at taken
      subst taken
      refine ⟨Function.update_self .., fun _ held => held_before_monitor (.watching _) not_false held, ?_⟩
      exact fun _ found stored => ⟨found, stored, rfl⟩
    next => cases writes
  | unlist id =>
    cases writes
    simp only [step, there] at taken
    split at taken
    next connection same =>
      cases same
      cases taken
      refine ⟨Function.update_self .., fun _ held => held, ?_⟩
      exact fun _ _ found => setLink_stays there rfl found
    next => cases taken
  | _ => cases writes

theorem spares_of_listed {event : Event} (base : Base state) (taken : step state event = some next) (listed : Listed next) :
    Spares state event := by
  rintro ⟨id, entry⟩ writes link there other held apart ⟨⟨found, stored, live⟩, free⟩
  have step := written_writes taken writes there
  obtain ⟨_, stored', named⟩ := base.wired link.key other held
  cases stored.symm.trans stored'
  obtain ⟨after, inside, same⟩ := step.links other found stored
  have kept := listed other after inside (same ▸ live) fun held => free (step.hands other held)
  have key : after.key = link.key := (congrArg (fun connection : Connection => connection.toRoute.key) same).trans named
  rw [key, step.entry] at kept
  exact apart kept

theorem base_initial : Base initial := ⟨nofun, nofun⟩

/-- In a run, the map stays tidy exactly as long as no step writes over the entry of
another live connection. -/
theorem tidy_iff_spares {events : List Event} {last : State} (ran : run step initial events = some last) :
    (∀ before after state, events = before ++ after → run step initial before = some state → Tidy state) ↔
      Meets step Spares initial events := by
  apply throughout_iff Base Tidy ?_ ?_ base_initial (tidy_iff.mpr nofun) ran
  · exact fun _ _ _ base _ taken => (step_keeps base taken).1
  · intro state event next base tidy taken
    constructor
    · intro spares
      exact tidy_iff.mpr ((step_keeps base taken).2 (tidy_iff.mp tidy) spares)
    · intro tidy'
      exact spares_of_listed base taken (tidy_iff.mp tidy')

private def pods : Route := ⟨"prod", "/api/v1/pods", "watch=true", "alice"⟩

private def opened (socket : Nat) : List Event := [.request socket pods, .dialed socket true, .enter socket]

private def closed (socket : Nat) : List Event := [.close socket pods.clusterID pods.path pods.userID, .shut socket]

private def cleaned (id : Nat) : List Event := [.leave id, .cleanup id, .unlist id]

/-- A connection is dialled again after its reader has cleaned up, and then closed; and
a client leaves with the next one. -/
private def orderly : List Event :=
  .accept :: opened 0 ++ [Event.beat 0 "timeout"] ++ cleaned 0 ++ [Event.redialed 0 true, Event.reenter 0, Event.reassign 0] ++
    closed 0 ++ opened 0 ++ [Event.disconnect 0, Event.abandon 0, Event.abandon 0] ++ cleaned 2

theorem orderly_tidy : ∃ last, run step initial orderly = some last ∧ Tidy last :=
  ⟨_, rfl, (tidy_iff_spares rfl).mpr (by decide) orderly [] _ (List.append_nil _).symm rfl⟩

/-- A CLOSE and a request of the same key come before the cleanup of the reader. -/
private def leaking : List Event := .accept :: opened 0 ++ closed 0 ++ opened 0 ++ cleaned 0

theorem cleanup_leaks : ¬ ∀ events last, run step initial events = some last → Tidy last := by
  intro always
  have listed := tidy_iff.mp (always leaking _ rfl)
  exact absurd (listed 1 _ rfl (by decide) (by decide +kernel)) (by decide +kernel)

end K8Sense.Multiplexer.Registry
